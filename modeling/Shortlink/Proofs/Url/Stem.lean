import Shortlink.Proofs.Url.Below

/-!
# The path below a URL, letter by letter

What a text becomes when it is put below a URL that is none of a file: the path of the URL without
the slash at its end, a slash, and the text in its encoded form, which is read back as the text.
With nothing put below it, the path loses the slash at its end, unless it is only this slash.
-/

namespace Shortlink.Url

namespace Path

/-- The path in front of what is put below it. -/
def stem (path : List Char) : List Char :=
  if path = ['/', '/'] then [] else withoutLastSlash path

/-- A text as a segment of its own. -/
def segmentOf (special : Bool) (seg : String) : List Char :=
  percentEncode (segmentSet special) (kept seg)

/-- A text that means no place that is there already. -/
def IsFresh (seg : String) : Prop := kept seg ≠ ['.'] ∧ kept seg ≠ ['.', '.']

variable {segs : List (List Char)} {seg : String}

/-- The segments in front of a further one are written as the stem of the path. -/
lemma joined_front_eq_stem (h : SlashFree segs) : joined (front segs) = stem (joined segs) := by
  rw [stem]
  split
  · next two =>
    rw [(joined_eq_slashes h).1 two]
    rfl
  · next other =>
    refine joined_front h ?_
    rintro rfl
    exact other rfl

/-- Only an empty segment is written as a slash. -/
lemma joined_eq_slash : joined segs = ['/'] ↔ segs = [[]] := by
  constructor
  · intro e
    match segs, e with
    | [[]], _ => rfl
    | [_ :: _], e => simp [joined] at e
    | [] :: _ :: _, e => simp [joined] at e
    | (_ :: _) :: _ :: _, e => simp [joined] at e
    | [], e => simp [joined] at e
  · rintro rfl
    rfl

/-- Trimmed segments are written without the last slash, but a slash alone stays. -/
lemma joined_trimmed (h : SlashFree segs) :
    joined (trimmed segs) =
      if joined segs = ['/'] then ['/'] else withoutLastSlash (joined segs) := by
  rw [withoutLastSlash_joined h, trimmed]
  simp only [joined_eq_slash]
  by_cases one : segs = [[]]
  · subst one
    rfl
  · rw [if_neg one]
    by_cases ends : segs.getLast? = some []
    · have more : segs.length ≠ 1 := by
        intro single
        obtain ⟨last, rfl⟩ := List.length_eq_one_iff.1 single
        obtain rfl := Option.some.inj ends
        exact one rfl
      rw [if_pos ends, if_pos ⟨ends, more⟩]
    · rw [if_neg ends, if_neg fun both => ends both.1]

/-- The segments of a path are told by how it is written. -/
lemma joined_injective {segs' : List (List Char)} (h : SlashFree segs) (h' : SlashFree segs')
    (e : joined segs = joined segs') : segs = segs' := by
  have first {seg : List Char} (own : '/' ∉ seg) (rest : List (List Char)) :
      (seg ++ joined rest).takeWhile (· != '/') = seg := by
    rw [List.takeWhile_append_of_pos fun c mem => by simpa using fun e : c = '/' => own (e ▸ mem)]
    cases rest with
    | nil => exact List.append_nil seg
    | cons next rest => exact List.append_nil seg
  induction segs generalizing segs' with
  | nil =>
    cases segs' with
    | nil => rfl
    | cons seg' rest' => cases e
  | cons seg rest ih =>
    cases segs' with
    | nil => cases e
    | cons seg' rest' =>
      have behind : seg ++ joined rest = seg' ++ joined rest' := (List.cons.inj e).2
      obtain rfl : seg = seg' := by
        rw [← first (h seg List.mem_cons_self) rest, behind, first (h' seg' List.mem_cons_self)]
      rw [ih (h.subset (List.subset_cons_self _ _)) (h'.subset (List.subset_cons_self _ _))
        (List.append_cancel_left behind)]

/-- A fresh text is put behind the segments in front as one of its own. -/
lemma placed_of_isFresh (special : Bool) (fresh : IsFresh seg) :
    placed false special segs seg = front segs ++ [segmentOf special seg] := by
  have skipped : ¬ isSkipped seg = true := by
    intro skipped
    rcases kept_of_isSkipped skipped with one | two
    · exact fresh.1 one
    · exact fresh.2 two
  rw [placed, if_neg skipped, addSegment,
    if_neg (fun e => fresh.2 ((isDoubleDot_segment special _).1 e)),
    if_neg (fun e => fresh.1 ((isSingleDot_segment special _).1 e))]
  rfl

/-- A segment is read back as what was kept of the text. -/
lemma decode_segmentOf (special : Bool) (seg : String) :
    Text.Utf8.decode? (percentDecode (segmentOf special seg)) = some (kept seg) := by
  rw [segmentOf, percentDecode_segment, Text.Utf8.decode?_encode]

/-- The signs that divide a URL, and the backslash, which some take for a slash, are not in a
segment. -/
lemma not_mem_segmentOf {c : Char} (h : c ∈ ['/', '?', '#', '\\']) (seg : String) :
    c ∉ segmentOf true seg := by
  intro mem
  have own : segmentSet true c = true ∧ c ≠ '%' ∧ c ∉ "0123456789ABCDEF".toList := by
    simp only [List.mem_cons, List.not_mem_nil, or_false] at h
    obtain rfl | rfl | rfl | rfl := h <;> decide
  obtain ⟨encoded, percent, digit⟩ := own
  rcases mem_percentEncode mem with e | e | ⟨-, own, -⟩
  · exact percent e
  · exact digit e
  · rw [encoded] at own
    cases own

/-- The segment of a fresh text means no place that is there already. -/
lemma segmentOf_of_isFresh {special : Bool} (fresh : IsFresh seg) :
    isSingleDot (segmentOf special seg) = false ∧ isDoubleDot (segmentOf special seg) = false := by
  rw [← Bool.not_eq_true, ← Bool.not_eq_true, segmentOf, isSingleDot_segment, isDoubleDot_segment]
  exact fresh

/-- A text without tabs and line ends is kept as it is. -/
lemma kept_eq_toList (h : ∀ c ∈ seg.toList, c ≠ '\t' ∧ c ≠ '\n' ∧ c ≠ '\r') :
    kept seg = seg.toList := by
  rw [kept, List.filter_eq_self]
  intro c mem
  obtain ⟨tab, lf, cr⟩ := h c mem
  simp [tab, lf, cr]

end Path

variable {base : Url} {seg : String}

/-- A structured URL has a path of segments. -/
lemma exists_segments (structured : base.isUnstructured = false) :
    ∃ segs, base.path = .segments segs := by
  cases path : base.path with
  | unstructured text =>
    rw [isUnstructured, path] at structured
    cases structured
  | segments segs => exact ⟨segs, rfl⟩

/-- The path of what is put below a URL that is none of a file. -/
theorem below_path_text (h : base.WellFormed) (structured : base.isUnstructured = false)
    (other : base.scheme ≠ "file") (fresh : Path.IsFresh seg) :
    (base.below [seg]).path.text.toList =
      Path.stem base.path.text.toList ++ '/' :: Path.segmentOf base.isSpecial seg := by
  obtain ⟨segs, path⟩ := exists_segments structured
  rw [below_eq path, Path.toList_text, Path.map_extend, decide_eq_false other,
    Path.placed_of_isFresh _ fresh, Path.joined_append, Path.joined_singleton,
    Path.joined_front_eq_stem (h segs path).slashFree, ← Path.toList_text, path]

/-- With nothing put below it a URL only loses the slash at the end. -/
lemma below_nil_eq {segs : List String} (path : base.path = .segments segs) :
    base.below [] = { base with path := .segments (Path.withoutTrailingSlash segs) } := by
  rw [below, List.foldl_nil, trimPath, path]

/-- The path of a URL below which nothing is put. -/
theorem below_nil_path_text (h : base.WellFormed) (structured : base.isUnstructured = false) :
    (base.below []).path.text.toList =
      if base.path.text.toList = ['/'] then ['/']
      else Path.withoutLastSlash base.path.text.toList := by
  obtain ⟨segs, path⟩ := exists_segments structured
  rw [below_nil_eq path, Path.toList_text, Path.map_withoutTrailingSlash,
    Path.joined_trimmed (h segs path).slashFree, ← Path.toList_text, path]

/-- With nothing put below them, URLs that differ in their paths at most are the same as soon as the
paths are written alike. -/
lemma below_nil_congr {base' : Url} (h : base.WellFormed) (h' : base'.WellFormed)
    (structured : base.isUnstructured = false) (structured' : base'.isUnstructured = false)
    (others : base' = { base with path := base'.path })
    (same : (base'.below []).path.text = (base.below []).path.text) :
    base'.below [] = base.below [] := by
  obtain ⟨segs, path⟩ := exists_segments structured
  obtain ⟨segs', path'⟩ := exists_segments structured'
  have free (segs : List (List Char)) (own : Path.SlashFree segs) :
      Path.SlashFree (Path.trimmed segs) := own.subset (Path.begins_trimmed segs).subset
  rw [below_nil_eq path, below_nil_eq path'] at same ⊢
  rw [← String.toList_inj, Path.toList_text, Path.toList_text, Path.map_withoutTrailingSlash,
    Path.map_withoutTrailingSlash] at same
  have trimmed := Path.joined_injective (free _ (h' segs' path').slashFree)
    (free _ (h segs path).slashFree) same
  rw [← Path.map_withoutTrailingSlash, ← Path.map_withoutTrailingSlash,
    List.map_inj_right fun _ _ => String.toList_inj.1] at trimmed
  rw [others, trimmed]

/-! ## Special schemes -/

/-- A path is read as one segment at least. -/
lemma Path.parse_ne_nil (file special : Bool) (cs : List Char) :
    Path.parse file special cs ≠ [] := by
  have last (segs : List (List Char)) (seg : List Char) : addSegment file true segs seg ≠ [] := by
    rw [addSegment]
    split
    · exact List.concat_ne_nil _ _
    · split
      · exact List.concat_ne_nil _ _
      · split
        · exact List.cons_ne_nil _ _
        · exact List.concat_ne_nil _ _
  have resolved (segs pieces : List (List Char)) (some : pieces ≠ []) :
      resolve file segs pieces ≠ [] := by
    induction pieces generalizing segs with
    | nil => exact absurd rfl some
    | cons piece pieces ih =>
      cases pieces with
      | nil => exact last segs piece
      | cons next rest => exact ih _ (List.cons_ne_nil _ _)
  refine resolved _ _ fun none => ?_
  exact Text.pieces_ne_nil _ (List.map_eq_nil_iff.1 none)

/-- A URL with an authority keeps its scheme and has a segment at least if that is special. -/
lemma parseAuthority_path [DomainRules] {scheme : String} {cs : List Char} {u : Url}
    (h : parseAuthority scheme cs = .ok u) :
    u.scheme = scheme ∧
      (isSpecialScheme scheme = true → ∃ segs, segs ≠ [] ∧ u.path = .segments segs) := by
  unfold parseAuthority at h
  dsimp only at h
  split at h
  · cases h
  · split at h
    all_goals
      obtain ⟨host, -, h⟩ := ok_of_bind_ok h
      obtain ⟨⟨port, rest⟩, -, h⟩ := ok_of_bind_ok h
      cases h
      refine ⟨rfl, fun special => ⟨_, fun none => ?_, rfl⟩⟩
      rw [List.map_eq_nil_iff, parsePath, special, if_neg (by simp)] at none
      exact Path.parse_ne_nil _ _ _ none

/-- The URL of a file has the scheme of files. -/
lemma parseFile_scheme [DomainRules] {cs : List Char} {u : Url} (h : parseFile cs = .ok u) :
    u.scheme = "file" := by
  unfold parseFile at h
  dsimp only at h
  split at h
  · split at h
    · split at h
      · cases h
        rfl
      · split at h
        · cases h
          rfl
        · obtain ⟨host, -, h⟩ := ok_of_bind_ok h
          cases h
          rfl
    · cases h
      rfl
  · cases h
    rfl

/-- A URL of plain connections has a path, if only a slash. -/
theorem parse_path_ne_empty [DomainRules] {s : String} {u : Url} (h : parse s = .ok u)
    (http : u.scheme = "http") : u.path.text ≠ "" := by
  have special : isSpecialScheme "http" = true := by decide
  have segments : ∃ segs, segs ≠ [] ∧ u.path = .segments segs := by
    unfold parse at h
    split at h
    · cases h
    · exact absurd ((parseFile_scheme h).symm.trans http) (by decide)
    · next scheme rest _ _ =>
      split at h
      · next own => exact (parseAuthority_path h).2 own
      · next other =>
        have same : u.scheme = scheme := by
          split at h
          · exact (parseAuthority_path h).1
          · cases h
            rfl
        rw [← same, http] at other
        exact absurd special other
  obtain ⟨segs, some, path⟩ := segments
  intro empty
  rw [path, ← String.toList_inj, Path.toList_text] at empty
  cases segs with
  | nil => exact some rfl
  | cons seg segs => cases empty

end Shortlink.Url
