import Shortlink.Proofs.Outcome
import Shortlink.Text.Pieces
import Shortlink.Url.Parse

/-!
# The segments of a URL that was read

The slashes of a path are between its segments and nowhere else: whatever the text, no segment that
is read from it holds a slash. The path of a file does not begin with an empty segment, unless that
is the only one.
-/

namespace Shortlink.Url

namespace Path

/-- No segment holds this character. -/
def Without (c : Char) (segs : List (List Char)) : Prop :=
  ∀ seg ∈ segs, c ∉ seg

/-- No segment holds a slash. -/
abbrev SlashFree (segs : List (List Char)) : Prop := Without '/' segs

namespace Without

variable {c : Char} {segs : List (List Char)} {seg : List Char}

/-- A part of such segments is without the character too. -/
lemma subset {segs' : List (List Char)} (h : Without c segs) (sub : segs' ⊆ segs) :
    Without c segs' :=
  fun seg mem => h seg (sub mem)

/-- A segment without the character can be put behind them. -/
lemma concat (h : Without c segs) (hs : c ∉ seg) : Without c (segs ++ [seg]) := by
  intro seg' mem
  rcases List.mem_append.1 mem with front | back
  · exact h seg' front
  · rw [List.mem_singleton.1 back]
    exact hs

end Without

/-- The segments above begin like those below. -/
lemma begins_above (segs : List (List Char)) : above segs <+: segs := by
  rw [above]
  split
  · split
    · exact List.prefix_rfl
    · exact List.dropLast_prefix segs
  · exact List.prefix_rfl

/-- The segments above are without the character too. -/
lemma Without.above {c : Char} {segs : List (List Char)} (h : Without c segs) :
    Without c (above segs) :=
  h.subset (begins_above segs).subset

/-- The letter of a drive stands for itself, whatever sign is behind it. -/
lemma not_mem_drive {c : Char} (other : c ≠ ':') {seg : List Char} (h : c ∉ seg) :
    c ∉ [seg.headD ':', ':'] := by
  cases seg with
  | nil => simpa using other
  | cons d rest =>
    rw [List.mem_cons, not_or] at h
    simpa using ⟨h.1, other⟩

/-- Adding a segment brings no character but the colon of a drive. -/
lemma Without.addSegment {c : Char} (other : c ≠ ':') {file last : Bool}
    {segs : List (List Char)} {seg : List Char} (h : Without c segs) (hs : c ∉ seg) :
    Without c (addSegment file last segs seg) := by
  rw [Path.addSegment]
  split
  · split
    · exact h.above.concat List.not_mem_nil
    · exact h.above
  · split
    · split
      · exact h.concat List.not_mem_nil
      · exact h
    · split
      · intro seg' mem
        rw [List.mem_singleton.1 mem]
        exact not_mem_drive other hs
      · exact h.concat hs

/-- Resolving segments brings no character but the colon of a drive. -/
lemma Without.resolve {c : Char} (other : c ≠ ':') {file : Bool} {segs pieces : List (List Char)}
    (h : Without c segs) (hp : Without c pieces) : Without c (resolve file segs pieces) := by
  induction pieces generalizing segs with
  | nil => exact h
  | cons piece pieces ih =>
    have first : c ∉ piece := hp piece List.mem_cons_self
    cases pieces with
    | nil => exact h.addSegment other first
    | cons next rest => exact ih (h.addSegment other first) (hp.subset (List.subset_cons_self _ _))

/-- The pieces between the slashes of a text hold none, and encoding puts none in. -/
lemma slashFree_parse (file special : Bool) (cs : List Char) :
    SlashFree (parse file special cs) := by
  refine Without.resolve (by decide) (fun _ mem => by cases mem) ?_
  intro seg mem slash
  obtain ⟨piece, hp, rfl⟩ := List.mem_map.1 mem
  rcases mem_percentEncode slash with percent | digit | ⟨own, -, -⟩
  · cases percent
  · exact absurd digit (by decide)
  · have := Text.eq_false_of_mem_pieces hp own
    simp at this

/-- Dropping empty segments takes them off the front. -/
lemma ends_dropEmptyFront (segs : List (List Char)) : dropEmptyFront segs <:+ segs := by
  fun_induction dropEmptyFront segs with
  | case1 seg rest ih => exact ih.trans (List.suffix_cons _ _)
  | case2 segs => exact List.suffix_rfl

/-- No empty segment is left at the front to be dropped. -/
lemma dropEmptyFront_dropEmptyFront (segs : List (List Char)) :
    dropEmptyFront (dropEmptyFront segs) = dropEmptyFront segs := by
  fun_induction dropEmptyFront segs with
  | case1 seg rest ih => exact ih
  | case2 segs stop =>
    rw [dropEmptyFront.eq_2 segs stop]

/-- Segments as they are read. -/
structure WellFormed (file : Bool) (segs : List (List Char)) : Prop where
  slashFree : SlashFree segs
  front : file = true → dropEmptyFront segs = segs

end Path

/-- The segments of a URL are as they are read. -/
def WellFormed (u : Url) : Prop :=
  ∀ segs, u.path = .segments segs → Path.WellFormed (u.scheme = "file") (segs.map String.toList)

/-- Segments come back from being put into texts. -/
lemma map_toList_map_ofList (segs : List (List Char)) :
    (segs.map String.ofList).map String.toList = segs := by
  simp

/-- A URL is well formed if the segments of its path are. -/
lemma wellFormed_of_segments {u : Url} {segs : List (List Char)}
    (path : u.path = .segments (segs.map String.ofList))
    (h : Path.WellFormed (u.scheme = "file") segs) : u.WellFormed := by
  intro segs' path'
  rw [path] at path'
  cases path'
  rw [map_toList_map_ofList]
  exact h

/-- The URL of a file is well formed. -/
lemma wellFormed_fileUrl (host cs tail : List Char) :
    (fileUrl host (Path.parse true true cs) tail).WellFormed := by
  refine wellFormed_of_segments rfl ⟨?_, fun _ => Path.dropEmptyFront_dropEmptyFront _⟩
  exact (Path.slashFree_parse true true cs).subset (Path.ends_dropEmptyFront _).subset

/-- The URL of a file is read well formed. -/
lemma parseFile_wellFormed [DomainRules] {cs : List Char} {u : Url} (h : parseFile cs = .ok u) :
    u.WellFormed := by
  unfold parseFile at h
  dsimp only at h
  split at h
  · split at h
    · split at h
      · cases h
        exact wellFormed_fileUrl _ _ _
      · split at h
        · cases h
          exact wellFormed_fileUrl _ _ _
        · obtain ⟨host, -, h⟩ := ok_of_bind_ok h
          cases h
          exact wellFormed_fileUrl _ _ _
    · cases h
      exact wellFormed_fileUrl _ _ _
  · cases h
    exact wellFormed_fileUrl _ _ _

/-- The path behind an authority is read well formed. -/
lemma wellFormed_parsePath (special : Bool) (cs : List Char) :
    Path.WellFormed false (parsePath special cs) := by
  refine ⟨?_, fun file => by cases file⟩
  rw [parsePath]
  split
  · exact fun _ mem => by cases mem
  · exact Path.slashFree_parse _ _ _

/-- A URL with an authority is read well formed. -/
lemma parseAuthority_wellFormed [DomainRules] {scheme : String} {cs : List Char} {u : Url}
    (h : parseAuthority scheme cs = .ok u) (other : scheme ≠ "file") : u.WellFormed := by
  unfold parseAuthority at h
  dsimp only at h
  split at h
  · cases h
  · split at h
    all_goals
      obtain ⟨host, -, h⟩ := ok_of_bind_ok h
      obtain ⟨⟨port, rest⟩, -, h⟩ := ok_of_bind_ok h
      cases h
      refine wellFormed_of_segments rfl ?_
      rw [decide_eq_false other]
      exact wellFormed_parsePath _ _

/-- A URL without an authority is read well formed. -/
lemma parsePlain_wellFormed {scheme : String} (other : scheme ≠ "file") (cs : List Char) :
    (parsePlain scheme cs).WellFormed := by
  unfold parsePlain
  dsimp only
  split
  · refine wellFormed_of_segments rfl ?_
    rw [decide_eq_false other]
    exact ⟨Path.slashFree_parse _ _ _, fun file => by cases file⟩
  · intro segs path
    cases path

/-- A URL that was read has its slashes between the segments. -/
theorem parse_wellFormed [DomainRules] {s : String} {u : Url} (h : parse s = .ok u) :
    u.WellFormed := by
  unfold parse at h
  split at h
  · cases h
  · exact parseFile_wellFormed h
  · next scheme rest other _ =>
    split at h
    · exact parseAuthority_wellFormed h other
    · split at h
      · exact parseAuthority_wellFormed h other
      · cases h
        exact parsePlain_wellFormed other _

end Shortlink.Url
