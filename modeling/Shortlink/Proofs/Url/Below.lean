import Shortlink.Proofs.Url.Dots
import Shortlink.Proofs.Url.Segments

/-!
# What lies below a URL

A text that is put below a URL becomes one more segment of its path, behind the slash at the end if
there is one. Two kinds of texts do not: one dot and two dots mean a place that is there already.
Nor does any text below a path of two slashes, of which both are taken for the one at the end.
-/

namespace Shortlink

namespace Url

namespace Path

/-- Segments as they are written. -/
def joined (segs : List (List Char)) : List Char := segs.flatMap ('/' :: ·)

/-- A text without one slash at the end. -/
def withoutLastSlash (cs : List Char) : List Char :=
  if cs.getLast? = some '/' then cs.dropLast else cs

/-- The segments without an empty one at the end. -/
def trimmed (segs : List (List Char)) : List (List Char) :=
  if segs.getLast? = some [] ∧ segs.length ≠ 1 then segs.dropLast else segs

/-- The segments behind which a further one is put. -/
def front (segs : List (List Char)) : List (List Char) :=
  if trimmed segs = [[]] then [] else trimmed segs

/-- What is left of a text that is put in as a segment. -/
def kept (seg : String) : List Char :=
  seg.toList.filter fun c => !(c == '\t' || c == '\n' || c == '\r')

/-- A path of segments is written as they are. -/
lemma toList_text (segs : List String) :
    (Path.segments segs).text.toList = joined (segs.map String.toList) := by
  rw [text, String.toList_join, joined, List.flatMap_map, List.flatMap_map]
  exact congrArg (segs.flatMap ·) (funext fun seg => by simp)

/-- Segments are written one behind the other. -/
lemma joined_append (segs segs' : List (List Char)) :
    joined (segs ++ segs') = joined segs ++ joined segs' :=
  List.flatMap_append

/-- A segment is written with a slash in front. -/
lemma joined_singleton (seg : List Char) : joined [seg] = '/' :: seg :=
  List.flatMap_singleton _ _

/-- Segments that others begin with are not longer as they are written. -/
lemma length_joined_of_begins {segs segs' : List (List Char)} (h : segs <+: segs') :
    (joined segs).length ≤ (joined segs').length := by
  obtain ⟨rest, rfl⟩ := h
  rw [joined_append, List.length_append]
  omega

/-- Segments that others end with are not longer as they are written. -/
lemma length_joined_of_ends {segs segs' : List (List Char)} (h : segs <:+ segs') :
    (joined segs).length ≤ (joined segs').length := by
  obtain ⟨rest, rfl⟩ := h
  rw [joined_append, List.length_append]
  omega

/-- The slash at the end of a path belongs to an empty segment. -/
lemma withoutLastSlash_joined {segs : List (List Char)} (h : SlashFree segs) :
    withoutLastSlash (joined segs) =
      if segs.getLast? = some [] then joined segs.dropLast else joined segs := by
  rcases List.eq_nil_or_concat segs with rfl | ⟨init, last, rfl⟩
  · rfl
  · rw [List.concat_eq_append] at h ⊢
    rw [joined_append, joined_singleton, List.getLast?_concat, List.dropLast_concat]
    rcases List.eq_nil_or_concat last with rfl | ⟨cs, c, rfl⟩
    · rw [withoutLastSlash, List.getLast?_concat, if_pos rfl, if_pos rfl, List.dropLast_concat]
    · rw [List.concat_eq_append] at h ⊢
      have own : c ≠ '/' := by
        rintro rfl
        exact h (cs ++ ['/']) (by simp) (by simp)
      rw [withoutLastSlash, ← List.cons_append, ← List.append_assoc, List.getLast?_concat,
        if_neg (by simpa using own), if_neg (by simp)]

/-- Only two empty segments are written as two slashes. -/
lemma joined_eq_slashes {segs : List (List Char)} (h : SlashFree segs) :
    joined segs = ['/', '/'] ↔ segs = [[], []] := by
  constructor
  · intro e
    match segs, h, e with
    | [[], []], _, _ => rfl
    | (c :: cs) :: rest, h, e =>
      have slash : c = '/' := (List.cons.inj (List.cons.inj e).2).1
      exact absurd (by simp [slash]) (h (c :: cs) List.mem_cons_self)
    | [] :: seg :: next :: rest, _, e => simp [joined] at e
    | [[], c :: cs], _, e => simp [joined] at e
    | [[]], _, e => simp [joined] at e
    | [], _, e => simp [joined] at e
  · rintro rfl
    rfl

/-- Trimming only takes segments off the end. -/
lemma begins_trimmed (segs : List (List Char)) : trimmed segs <+: segs := by
  rw [trimmed]
  split
  · exact List.dropLast_prefix segs
  · exact List.prefix_rfl

/-- A further segment is put behind a beginning of the segments. -/
lemma begins_front (segs : List (List Char)) : front segs <+: segs := by
  rw [front]
  split
  · exact List.nil_prefix
  · exact begins_trimmed segs

/-- A further segment is never put behind a single empty one. -/
lemma front_ne (segs : List (List Char)) : front segs ≠ [[]] := by
  rw [front]
  split
  · decide
  · assumption

/-- Behind the trimmed segments there is at most a slash more than behind those in front. -/
lemma length_joined_trimmed (segs : List (List Char)) :
    (joined (trimmed segs)).length ≤ (joined (front segs)).length + 1 := by
  rw [front]
  split
  · next one => rw [one]; decide
  · omega

/-- The segments in front are written as the path without the slash at its end, unless the path is
two slashes. -/
lemma joined_front {segs : List (List Char)} (h : SlashFree segs) (two : segs ≠ [[], []]) :
    joined (front segs) = withoutLastSlash (joined segs) := by
  rw [withoutLastSlash_joined h]
  rcases List.eq_nil_or_concat segs with rfl | ⟨init, last, rfl⟩
  · rfl
  · rw [List.concat_eq_append] at two ⊢
    rw [front, trimmed]
    rw [List.getLast?_concat, List.dropLast_concat]
    cases last with
    | cons c cs =>
      have full : ¬ init ++ [c :: cs] = [[]] := by
        intro e
        have last := congrArg List.getLast? e
        simp at last
      simp [full]
    | nil =>
      cases init with
      | nil => rfl
      | cons seg rest =>
        have more : ¬ seg :: rest = [[]] := by
          intro e
          rw [e] at two
          exact two rfl
        simp [more]

/-- A segment that is not empty can be put behind those of a file without an empty one at the
front. -/
lemma dropEmptyFront_front {segs : List (List Char)} (h : dropEmptyFront segs = segs)
    {seg : List Char} (hs : seg ≠ []) :
    dropEmptyFront (front segs ++ [seg]) = front segs ++ [seg] := by
  refine dropEmptyFront.eq_2 _ fun next rest e => ?_
  cases before : front segs with
  | nil =>
    rw [before] at e
    exact hs (List.cons.inj e).1
  | cons first others =>
    rw [before] at e
    obtain rfl : first = [] := (List.cons.inj e).1
    obtain ⟨behind, whole⟩ := begins_front segs
    rw [before] at whole
    cases others with
    | nil => exact front_ne segs before
    | cons second others =>
      -- dropping would have made the segments fewer, but they are as they were
      have short := (ends_dropEmptyFront (second :: others ++ behind)).length_le
      rw [← whole] at h
      change dropEmptyFront (second :: others ++ behind) = _ at h
      rw [h] at short
      simp only [List.length_append, List.length_cons] at short
      omega

/-- The segments with a text put in below, all in characters. -/
def placed (file special : Bool) (segs : List (List Char)) (seg : String) : List (List Char) :=
  if isSkipped seg then trimmed segs
  else
    let result := addSegment file true (front segs) (percentEncode (segmentSet special) (kept seg))
    if file then dropEmptyFront result else result

/-- Dropping the slash at the end trims the segments. -/
lemma map_withoutTrailingSlash (segs : List String) :
    (withoutTrailingSlash segs).map String.toList = trimmed (segs.map String.toList) := by
  rw [withoutTrailingSlash, trimmed]
  rw [List.getLast?_map]
  cases segs.getLast? with
  | none => simp
  | some last =>
    by_cases h : last = "" ∧ segs.length ≠ 1
    · simp [h, List.map_dropLast]
    · simp [h]

/-- Segments in characters are a single empty one exactly if they are. -/
lemma map_eq_singleton_nil {segs : List String} :
    segs.map String.toList = [[]] ↔ segs = [""] := by
  simp [List.map_eq_singleton_iff]

/-- Extending segments puts the text in below, in characters. -/
lemma map_extend (file special : Bool) (segs : List String) (seg : String) :
    (extend file special (withoutTrailingSlash segs) seg).map String.toList =
      placed file special (segs.map String.toList) seg := by
  rw [extend, placed]
  split
  · exact map_withoutTrailingSlash segs
  · rw [map_toList_map_ofList, front, ← map_withoutTrailingSlash]
    simp only [map_eq_singleton_nil]
    rfl

/-- One that is left out is one dot or two. -/
lemma kept_of_isSkipped {seg : String} (h : isSkipped seg = true) :
    kept seg = ['.'] ∨ kept seg = ['.', '.'] := by
  rw [isSkipped, Bool.or_eq_true, decide_eq_true_eq, decide_eq_true_eq] at h
  rcases h with rfl | rfl
  · exact .inl rfl
  · exact .inr rfl

/-- A segment that means no other place is put behind the others. The letter of a drive may get
another sign behind it. -/
lemma addSegment_of_plain (file : Bool) (segs : List (List Char)) {seg : List Char}
    (full : seg ≠ []) (slash : '/' ∉ seg) (single : ¬ isSingleDot seg = true)
    (double : ¬ isDoubleDot seg = true) :
    ∃ last, last ≠ [] ∧ '/' ∉ last ∧ addSegment file true segs seg = segs ++ [last] := by
  rw [addSegment]
  rw [if_neg double, if_neg single]
  split
  · next drive =>
    simp only [Bool.and_eq_true, List.isEmpty_iff] at drive
    obtain ⟨⟨-, rfl⟩, -⟩ := drive
    exact ⟨_, List.cons_ne_nil _ _, not_mem_drive (by decide) slash, rfl⟩
  · exact ⟨seg, full, slash, rfl⟩

/-- A text that is neither one dot nor two becomes one more segment, which is not empty. -/
lemma placed_of_plain {file : Bool} (special : Bool) {segs : List (List Char)}
    (h : WellFormed file segs) {seg : String} (full : kept seg ≠ []) (one : kept seg ≠ ['.'])
    (two : kept seg ≠ ['.', '.']) :
    ∃ last, last ≠ [] ∧ '/' ∉ last ∧ placed file special segs seg = front segs ++ [last] := by
  have skipped : ¬ isSkipped seg = true := by
    intro skipped
    rcases kept_of_isSkipped skipped with dots | dots
    · exact one dots
    · exact two dots
  obtain ⟨last, some, slash, added⟩ := addSegment_of_plain file (front segs)
    (fun e => full ((segment_eq_nil special _).1 e)) (slash_not_mem_segment special (kept seg))
    (fun e => one ((isSingleDot_segment special _).1 e))
    (fun e => two ((isDoubleDot_segment special _).1 e))
  refine ⟨last, some, slash, ?_⟩
  rw [placed]
  rw [if_neg skipped, added]
  dsimp only
  split
  · next isFile => exact dropEmptyFront_front (h.front isFile) some
  · rfl

/-- One dot and two dots add nothing but a slash at most. -/
lemma length_placed_of_dots (file special : Bool) (segs : List (List Char)) {seg : String}
    (dots : kept seg = ['.'] ∨ kept seg = ['.', '.']) :
    (joined (placed file special segs seg)).length ≤ (joined (front segs)).length + 1 := by
  rw [placed]
  split
  · exact length_joined_trimmed segs
  · have added : ∃ segs', segs' <+: front segs ∧
        addSegment file true (front segs) (percentEncode (segmentSet special) (kept seg)) =
          segs' ++ [[]] := by
      rw [addSegment]
      rcases dots with one | two
      · rw [if_neg (by rw [isDoubleDot_segment, one]; decide),
          if_pos ((isSingleDot_segment special _).2 one)]
        exact ⟨_, List.prefix_rfl, rfl⟩
      · rw [if_pos ((isDoubleDot_segment special _).2 two)]
        exact ⟨_, begins_above _, rfl⟩
    obtain ⟨segs', before, added⟩ := added
    rw [added]
    have written : (joined (segs' ++ [[]])).length ≤ (joined (front segs)).length + 1 := by
      rw [joined_append, joined_singleton, List.length_append]
      exact Nat.add_le_add_right (length_joined_of_begins before) 1
    dsimp only
    split
    · exact Nat.le_trans (length_joined_of_ends (ends_dropEmptyFront _)) written
    · exact written

/-- What stands in front of a further segment is not longer than the path without its last slash. -/
lemma length_joined_front_le {segs : List (List Char)} (h : SlashFree segs) :
    (joined (front segs)).length ≤ (withoutLastSlash (joined segs)).length := by
  by_cases two : segs = [[], []]
  · rw [two]
    exact Nat.zero_le _
  · exact Nat.le_of_eq (congrArg List.length (joined_front h two))

/-- A path is another one with a slash and a segment behind it, which is not empty. The slash at the
end of the other one does not count. -/
def IsBelow (path base : List Char) : Prop :=
  ∃ seg, seg ≠ [] ∧ '/' ∉ seg ∧ path = withoutLastSlash base ++ '/' :: seg

/-- When a text that is put in comes below. -/
lemma placed_isBelow_iff {file : Bool} (special : Bool) {segs : List (List Char)}
    (h : WellFormed file segs) {seg : String} (full : kept seg ≠ []) :
    IsBelow (joined (placed file special segs seg)) (joined segs) ↔
      joined segs ≠ ['/', '/'] ∧ kept seg ≠ ['.'] ∧ kept seg ≠ ['.', '.'] := by
  constructor
  · rintro ⟨last, some, slash, e⟩
    have plain : ¬ (kept seg = ['.'] ∨ kept seg = ['.', '.']) := by
      intro dots
      have short := length_placed_of_dots file special segs dots
      have bound := length_joined_front_le h.slashFree
      have long := List.length_pos_iff.2 some
      rw [e, List.length_append, List.length_cons] at short
      omega
    rw [not_or] at plain
    refine ⟨fun two => ?_, plain⟩
    obtain ⟨last', -, slash', added⟩ := placed_of_plain special h full plain.1 plain.2
    -- both slashes of the base are gone, so the second one would have to be part of the segment
    rw [added, (joined_eq_slashes h.slashFree).1 two, show front [[], []] = [] from rfl,
      List.nil_append, joined_singleton] at e
    obtain rfl : last' = '/' :: last := (List.cons.inj e).2
    exact slash' List.mem_cons_self
  · rintro ⟨two, plain⟩
    obtain ⟨last, some, slash, added⟩ := placed_of_plain special h full plain.1 plain.2
    refine ⟨last, some, slash, ?_⟩
    rw [Ne, joined_eq_slashes h.slashFree] at two
    rw [added, joined_append, joined_singleton, joined_front h.slashFree two]

end Path

/-- A URL lies below another one: it differs in the path, and by one segment there. -/
def LiesBelow (u base : Url) : Prop :=
  u = { base with path := u.path } ∧ Path.IsBelow u.path.text.toList base.path.text.toList

/-- What lies below a URL by one text differs from it in the path alone, which is extended by it. -/
lemma below_eq {base : Url} {segs : List String} (path : base.path = .segments segs)
    (seg : String) :
    base.below [seg] = { base with path := .segments (Path.extend (base.scheme = "file")
      base.isSpecial (Path.withoutTrailingSlash segs) seg) } := by
  simp only [below, List.foldl_cons, List.foldl_nil, trimPath, path, push]
  rfl

/-- When what is put below a URL lies below it. -/
theorem below_liesBelow_iff {base : Url} (h : base.WellFormed)
    (structured : base.isUnstructured = false) {seg : String} (full : Path.kept seg ≠ []) :
    (base.below [seg]).LiesBelow base ↔
      base.path.text ≠ "//" ∧ Path.kept seg ≠ ['.'] ∧ Path.kept seg ≠ ['.', '.'] := by
  cases path : base.path with
  | unstructured text =>
    rw [isUnstructured, path] at structured
    cases structured
  | segments segs =>
    have iff := Path.placed_isBelow_iff base.isSpecial (h segs path) full
    rw [← Path.map_extend, ← Path.toList_text, ← Path.toList_text] at iff
    have slashes : (Path.segments segs).text.toList ≠ "//".toList ↔
        (Path.segments segs).text ≠ "//" := not_congr String.toList_inj
    rw [LiesBelow, below_eq path, path]
    exact (and_iff_right rfl).trans (iff.trans (and_congr_left' slashes))

end Url

end Shortlink
