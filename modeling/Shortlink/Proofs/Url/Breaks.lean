import Shortlink.Proofs.Text.Breaks
import Shortlink.Proofs.Url.Dots
import Shortlink.Proofs.Url.Segments

/-!
# Line feeds and URLs

A URL that was read has no line feed in any part, whatever the text it was read from: where others
are encoded, a line feed is, too, and elsewhere it is refused or dropped. What lies below such a URL
has none either.
-/

namespace Shortlink

open Text

/-- No part of an authority has a line feed. -/
structure Authority.IsUnbroken (a : Authority) : Prop where
  username : Unbroken a.username
  password : ∀ p ∈ a.password, Unbroken p
  host : Unbroken a.host

/-- An authority is written on one line if its parts are. -/
lemma Authority.IsUnbroken.unbroken_text {a : Authority} (h : a.IsUnbroken) :
    Unbroken a.text := by
  have userInfo : Unbroken a.userInfoText := by
    rw [Authority.userInfoText]
    cases e : a.password with
    | some p =>
      exact unbroken_append.2 ⟨unbroken_append.2 ⟨unbroken_append.2
        ⟨h.username, by decide⟩, h.password p e⟩, by decide⟩
    | none =>
      dsimp only
      split
      · decide
      · exact unbroken_append.2 ⟨h.username, by decide⟩
  refine unbroken_append.2 ⟨unbroken_append.2 ⟨unbroken_append.2
    ⟨by decide, userInfo⟩, h.host⟩, ?_⟩
  split
  · exact unbroken_append.2 ⟨by decide, unbroken_nat _⟩
  · decide

namespace Url

/-- No line feed is left where line feeds are encoded. -/
lemma lf_not_mem_percentEncode {set : EncodeSet} (h : set '\n' = true) (cs : List Char) :
    '\n' ∉ percentEncode set cs := by
  intro mem
  rcases mem_percentEncode mem with percent | digit | ⟨-, own, -⟩
  · cases percent
  · exact absurd digit (by decide)
  · rw [h] at own
    cases own

/-! ## Hosts -/

/-- An IPv4 address is written without a line feed. -/
lemma lf_not_mem_ipv4Text (n : Nat) : '\n' ∉ ipv4Text n := by
  have part (m : Nat) : '\n' ∉ Nat.toDigits 10 m := not_mem_toDigits (by decide) m
  simp [ipv4Text, part]

/-- The groups of an IPv6 address are written without a line feed. -/
lemma lf_not_mem_groupsText (groups : List Nat) : '\n' ∉ groupsText groups := by
  rw [groupsText]
  induction groups with
  | nil => decide
  | cons n groups ih =>
    have own : '\n' ∉ Nat.toDigits 16 n := not_mem_toDigits (by decide) n
    cases groups with
    | nil => simpa [List.intercalate] using own
    | cons m groups =>
      rw [List.map_cons, List.map_cons, List.intercalate_cons_cons]
      rw [List.map_cons] at ih
      simp [own, ih]

/-- An IPv6 address is written without a line feed. -/
lemma lf_not_mem_ipv6Text (groups : List Nat) : '\n' ∉ ipv6Text groups := by
  have inner := lf_not_mem_groupsText
  rw [ipv6Text]
  split <;> simp [inner]

/-- A host in brackets is read without a line feed. -/
lemma lf_not_mem_bracketed {cs host : List Char} (h : bracketed cs = .ok host) : '\n' ∉ host := by
  rw [bracketed] at h
  split at h
  · split at h
    · cases h
      exact lf_not_mem_ipv6Text _
    · cases h
  · cases h

/-- A domain is read without a line feed, whatever the rules for domains are. -/
lemma lf_not_mem_domain [DomainRules] {cs domain : List Char} (h : domain? cs = some domain) :
    '\n' ∉ domain := by
  rw [domain?, Option.bind_eq_bind, Option.bind_eq_some_iff] at h
  obtain ⟨text, -, h⟩ := h
  obtain ⟨written, -, h⟩ := Option.bind_eq_some_iff.1 h
  split at h
  · cases h
  · next allowed =>
    cases h
    intro mem
    exact allowed (List.any_eq_true.2 ⟨_, mem, by decide⟩)

/-- The host of a special scheme is read without a line feed. -/
lemma lf_not_mem_specialHost [DomainRules] {cs host : List Char} (h : specialHost cs = .ok host) :
    '\n' ∉ host := by
  rw [specialHost] at h
  split at h
  · exact lf_not_mem_bracketed h
  · split at h
    · cases h
    · cases h
    · next domain read =>
      split at h
      · split at h
        · cases h
          exact lf_not_mem_ipv4Text _
        · cases h
      · cases h
        exact lf_not_mem_domain read

/-- An opaque host is read without a line feed. -/
lemma lf_not_mem_opaqueHost {cs host : List Char} (h : opaqueHost cs = .ok host) :
    '\n' ∉ host := by
  rw [opaqueHost] at h
  split at h
  · exact lf_not_mem_bracketed h
  · split at h
    · cases h
    · cases h
      exact lf_not_mem_percentEncode rfl cs

/-! ## Parts -/

/-- No part of a path has a line feed. -/
def Path.IsUnbroken : Path → Prop
  | .unstructured text => Unbroken text
  | .segments segs => ∀ seg ∈ segs, Unbroken seg

/-- No part of a URL has a line feed. -/
structure IsUnbroken (u : Url) : Prop where
  scheme : Unbroken u.scheme
  authority : ∀ a ∈ u.authority, a.IsUnbroken
  path : u.path.IsUnbroken
  query : ∀ q ∈ u.query, Unbroken q
  fragment : ∀ f ∈ u.fragment, Unbroken f

/-- A path of segments without line feeds has none. -/
lemma Path.isUnbroken_segments {segs : List (List Char)} (h : Path.Without '\n' segs) :
    (Path.segments (segs.map String.ofList)).IsUnbroken := by
  intro seg mem
  obtain ⟨cs, own, rfl⟩ := List.mem_map.1 mem
  exact unbroken_ofList.2 (h cs own)

/-- The segments of a path are read without a line feed. -/
lemma Path.without_parse (file special : Bool) (cs : List Char) :
    Path.Without '\n' (Path.parse file special cs) := by
  refine Without.resolve (by decide) (fun _ mem => by cases mem) ?_
  intro seg mem
  obtain ⟨piece, -, rfl⟩ := List.mem_map.1 mem
  exact lf_not_mem_percentEncode rfl piece

/-! ## Reading -/

/-- Query and fragment are read without a line feed. -/
lemma unbroken_parseTail (special : Bool) (cs : List Char) :
    (∀ q ∈ (parseTail special cs).1, Unbroken q) ∧ ∀ f ∈ (parseTail special cs).2, Unbroken f := by
  have set : (if special then EncodeSet.specialQuery else EncodeSet.query) '\n' = true := by
    cases special <;> rfl
  unfold parseTail
  dsimp only
  constructor
  · split
    · rintro q ⟨⟩
      exact unbroken_ofList.2 (lf_not_mem_percentEncode set _)
    · rintro q ⟨⟩
  · -- the fragment is the same whether or not there is a query
    split <;> dsimp only <;> split
    all_goals rintro f ⟨⟩
    all_goals exact unbroken_ofList.2 (lf_not_mem_percentEncode rfl _)

/-- Name and password are read without a line feed. -/
lemma unbroken_parseUserInfo (cs : List Char) :
    Unbroken (parseUserInfo cs).1 ∧ ∀ p ∈ (parseUserInfo cs).2, Unbroken p := by
  have encoded (cs : List Char) : Unbroken (String.ofList (percentEncode EncodeSet.userInfo cs)) :=
    unbroken_ofList.2 (lf_not_mem_percentEncode rfl cs)
  refine ⟨encoded _, ?_⟩
  rw [parseUserInfo]
  dsimp only
  split
  · rintro p ⟨⟩
  · rintro p ⟨⟩
    exact encoded _

/-- The URL of a file has no line feed if its host has none. -/
lemma isUnbroken_fileUrl {host : List Char} (h : '\n' ∉ host) (cs tail : List Char) :
    (fileUrl host (Path.parse true true cs) tail).IsUnbroken := by
  obtain ⟨query, fragment⟩ := unbroken_parseTail true tail
  have named : Unbroken "file" := by decide
  have nameless : Unbroken "" := by decide
  refine ⟨named, ?_, ?_, query, fragment⟩
  · rintro a ⟨⟩
    refine ⟨nameless, (fun p none => by cases none), unbroken_ofList.2 ?_⟩
    split
    · exact List.not_mem_nil
    · exact h
  · exact Path.isUnbroken_segments
      ((Path.without_parse true true cs).subset (Path.ends_dropEmptyFront _).subset)

/-- The URL of a file is read without a line feed. -/
lemma isUnbroken_parseFile [DomainRules] {cs : List Char} {u : Url} (h : parseFile cs = .ok u) :
    u.IsUnbroken := by
  unfold parseFile at h
  dsimp only at h
  split at h
  · split at h
    · split at h
      · cases h
        exact isUnbroken_fileUrl List.not_mem_nil _ _
      · split at h
        · cases h
          exact isUnbroken_fileUrl (by split <;> exact List.not_mem_nil) _ _
        · obtain ⟨host, read, h⟩ := ok_of_bind_ok h
          cases h
          refine isUnbroken_fileUrl ?_ _ _
          split
          · exact List.not_mem_nil
          · exact lf_not_mem_specialHost read
    · cases h
      exact isUnbroken_fileUrl List.not_mem_nil _ _
  · cases h
    exact isUnbroken_fileUrl List.not_mem_nil _ _

/-- The path behind an authority is read without a line feed. -/
lemma isUnbroken_parsePath (special : Bool) (cs : List Char) :
    (Path.segments ((parsePath special cs).map String.ofList)).IsUnbroken := by
  apply Path.isUnbroken_segments
  rw [parsePath]
  split
  · exact fun _ mem => by cases mem
  · exact Path.without_parse _ _ _

/-- A host without line feeds is all that a URL with an authority needs besides its scheme. -/
lemma isUnbroken_ofHost {scheme : String} (named : Unbroken scheme) {host : List Char}
    (h : '\n' ∉ host) (special : Bool) (userInfo path tail : List Char) (port : Option Nat) :
    IsUnbroken {
      scheme
      authority := some
        ⟨(parseUserInfo userInfo).1, (parseUserInfo userInfo).2, String.ofList host, port⟩
      guarded := false
      path := .segments ((parsePath special path).map String.ofList)
      query := (parseTail special tail).1
      fragment := (parseTail special tail).2 } := by
  obtain ⟨query, fragment⟩ := unbroken_parseTail special tail
  obtain ⟨username, password⟩ := unbroken_parseUserInfo userInfo
  refine ⟨named, ?_, isUnbroken_parsePath _ _, query, fragment⟩
  rintro a ⟨⟩
  exact ⟨username, password, unbroken_ofList.2 h⟩

/-- A URL with an authority is read without a line feed. -/
lemma isUnbroken_parseAuthority [DomainRules] {scheme : String} (named : Unbroken scheme)
    {cs : List Char} {u : Url} (h : parseAuthority scheme cs = .ok u) : u.IsUnbroken := by
  unfold parseAuthority at h
  dsimp only at h
  split at h
  · cases h
  · split at h
    · obtain ⟨host, read, h⟩ := ok_of_bind_ok h
      obtain ⟨⟨port, rest⟩, -, h⟩ := ok_of_bind_ok h
      cases h
      exact isUnbroken_ofHost named (lf_not_mem_specialHost read) _ _ _ _ _
    · obtain ⟨host, read, h⟩ := ok_of_bind_ok h
      obtain ⟨⟨port, rest⟩, -, h⟩ := ok_of_bind_ok h
      cases h
      exact isUnbroken_ofHost named (lf_not_mem_opaqueHost read) _ _ _ _ _

/-- A URL without an authority is read without a line feed. -/
lemma isUnbroken_parsePlain {scheme : String} (named : Unbroken scheme) (cs : List Char) :
    (parsePlain scheme cs).IsUnbroken := by
  obtain ⟨query, fragment⟩ := unbroken_parseTail false (cs.drop (cs.takeWhile (!endsPath ·)).length)
  refine ⟨named, (fun a none => by cases none), ?_, query, fragment⟩
  rw [parsePlain]
  dsimp only
  split
  · exact Path.isUnbroken_segments (Path.without_parse _ _ _)
  · exact unbroken_ofList.2 (lf_not_mem_percentEncode rfl _)

/-- A scheme is read without a line feed. -/
lemma unbroken_scheme {cs rest : List Char} {scheme : String}
    (h : splitScheme cs = some (scheme, rest)) : Unbroken scheme := by
  rw [splitScheme] at h
  split at h
  · split at h
    · cases h
      refine unbroken_ofList.2 fun mem => ?_
      obtain ⟨c, own, lower⟩ := List.mem_map.1 mem
      obtain rfl := eq_of_toLower lower (by decide)
      exact absurd (List.all_eq_true.1 List.all_takeWhile _ own) (by decide)
    · cases h
  · cases h

/-- A URL that was read has no line feed. -/
theorem isUnbroken_parse [DomainRules] {s : String} {u : Url} (h : parse s = .ok u) :
    u.IsUnbroken := by
  unfold parse at h
  split at h
  · cases h
  · exact isUnbroken_parseFile h
  · next scheme rest _ split? =>
    have named := unbroken_scheme split?
    split at h
    · exact isUnbroken_parseAuthority named h
    · split at h
      · exact isUnbroken_parseAuthority named h
      · cases h
        exact isUnbroken_parsePlain named _

/-! ## What is put below, and what is written -/

/-- A path that is extended by a text gets no line feed from it. -/
lemma Path.isUnbroken_extend {segs : List String} (h : (Path.segments segs).IsUnbroken)
    (file special : Bool) (seg : String) :
    (Path.segments (Path.extend file special segs seg)).IsUnbroken := by
  rw [extend]
  split
  · exact h
  · have front : Without '\n' (if segs = [""] then [] else segs.map String.toList) := by
      split
      · exact fun _ mem => by cases mem
      · intro cs mem
        obtain ⟨seg, own, rfl⟩ := List.mem_map.1 mem
        exact h seg own
    have set : (if special then EncodeSet.specialSegment else EncodeSet.segment) '\n' = true := by
      cases special <;> rfl
    apply Path.isUnbroken_segments
    split
    · exact Without.subset (front.addSegment (by decide) (lf_not_mem_percentEncode set _))
        (ends_dropEmptyFront _).subset
    · exact front.addSegment (by decide) (lf_not_mem_percentEncode set _)

/-- A path is written on one line if its parts are. -/
lemma Path.IsUnbroken.unbroken_text {p : Path} (h : p.IsUnbroken) : Unbroken p.text := by
  cases p with
  | unstructured text => exact h
  | segments segs =>
    refine unbroken_join fun piece mem => ?_
    obtain ⟨seg, own, rfl⟩ := List.mem_map.1 mem
    exact unbroken_append.2 ⟨by decide, h seg own⟩

/-- A component with its mark has no line feed if neither has one. -/
lemma unbroken_marked {mark : String} (hm : Unbroken mark) {part : Option String}
    (h : ∀ s ∈ part, Unbroken s) : Unbroken (marked mark part) := by
  cases part with
  | some s => exact unbroken_append.2 ⟨hm, h s rfl⟩
  | none =>
    have nothing : Unbroken "" := by decide
    exact nothing

namespace IsUnbroken

variable {u : Url}

/-- Putting in a segment brings no line feed. -/
lemma push (h : u.IsUnbroken) (seg : String) : (u.push seg).IsUnbroken := by
  have path := h.path
  rw [Url.push]
  split
  · next segs e =>
    rw [e] at path
    exact ⟨h.scheme, h.authority, Path.isUnbroken_extend path _ _ seg, h.query, h.fragment⟩
  · exact h

/-- Trimming the path brings no line feed. -/
lemma trimPath (h : u.IsUnbroken) : u.trimPath.IsUnbroken := by
  have path := h.path
  rw [Url.trimPath]
  split
  · next segs e =>
    rw [e] at path
    refine ⟨h.scheme, h.authority, fun seg mem => path seg ?_, h.query, h.fragment⟩
    rw [Path.withoutTrailingSlash] at mem
    split at mem
    · split at mem
      · exact List.dropLast_subset _ mem
      · exact mem
    · exact mem
  · exact h

/-- Putting in segments one after the other brings no line feed. -/
lemma pushes (h : u.IsUnbroken) (segs : List String) : (segs.foldl Url.push u).IsUnbroken := by
  induction segs generalizing u with
  | nil => exact h
  | cons seg segs ih => exact ih (h.push seg)

/-- What lies below a URL without line feeds has none. -/
lemma below (h : u.IsUnbroken) (segs : List String) : (u.below segs).IsUnbroken :=
  h.trimPath.pushes segs

/-- Leaving out name and password brings no line feed. -/
lemma withoutUserInfo (h : u.IsUnbroken) : u.withoutUserInfo.IsUnbroken := by
  refine ⟨h.scheme, fun a mem => ?_, h.path, h.query, h.fragment⟩
  obtain ⟨a, own, rfl⟩ := Option.map_eq_some_iff.1 mem
  have parts := h.authority a own
  split
  · have nameless : Unbroken "" := by decide
    exact ⟨nameless, (fun p none => by cases none), parts.host⟩
  · exact parts

/-- A URL is written on one line if its parts are. -/
lemma unbroken_text (h : u.IsUnbroken) : Unbroken u.text := by
  have authority : Unbroken u.authorityText := by
    rw [authorityText]
    cases e : u.authority with
    | some a => exact (h.authority a e).unbroken_text
    | none => dsimp only; split <;> decide
  simp only [text, unbroken_append]
  exact ⟨⟨⟨⟨⟨h.scheme, by decide⟩, authority⟩, h.path.unbroken_text⟩,
    unbroken_marked (by decide) h.query⟩, unbroken_marked (by decide) h.fragment⟩

end IsUnbroken

end Url

end Shortlink
