import Mathlib.Data.List.DropRight
import Shortlink.Proofs.Server.Keys
import Shortlink.Proofs.Server.Shorten

/-!
# Asking about a key

What is made of every reply where the link of a key is to be removed, or its long URL is looked up.
The two read the same replies by different rules: a removal goes by the status alone, a lookup by
the status first, then by the first location the response names, and by the body last.
-/

namespace Shortlink

namespace Response

/-- The characters that may stand around the value of a header. -/
def isGap (c : Char) : Bool := c == ' ' || c == '\t'

/-- A text is a value with nothing but spaces and tabs around it, which has none at its ends. -/
structure Wraps (raw value : String) : Prop where
  around : ∃ front back, raw.toList = front ++ (value.toList ++ back) ∧
    ∀ c ∈ front ++ back, isGap c = true
  first : ∀ c ∈ value.toList.head?, isGap c = false
  last : ∀ c ∈ value.toList.getLast?, isGap c = false

/-- The location that a response names: the value of its first header of this name, in whatever case
the name is spelled. -/
inductive Names (r : Response) : String → Prop
  | intro {before after name raw value} :
    r.headers = before ++ (name, raw) :: after →
    (∀ h ∈ before, h.1.toLower ≠ "location") → name.toLower = "location" →
    Wraps raw value → Names r value

/-- A text consists of visible ASCII characters, spaces and tabs. -/
def IsPlain (value : String) : Prop :=
  ∀ c ∈ value.toList, ' ' ≤ c ∧ c ≤ '~' ∨ c = '\t'

/-- A text without the spaces and tabs around it. -/
def unwrapped (cs : List Char) : List Char := (cs.dropWhile isGap).rdropWhile isGap

/-- A text stands around itself without its gaps. -/
lemma wraps_unwrapped (raw : String) : Wraps raw (String.ofList (unwrapped raw.toList)) where
  around := by
    refine ⟨raw.toList.takeWhile isGap, (raw.toList.dropWhile isGap).rtakeWhile isGap, ?_, ?_⟩
    · rw [String.toList_ofList, unwrapped, List.rdropWhile_append_rtakeWhile,
        List.takeWhile_append_dropWhile]
    · intro c mem
      rcases List.mem_append.1 mem with front | back
      · exact List.mem_takeWhile_imp front
      · exact List.mem_rtakeWhile_imp back
  first := by
    rw [String.toList_ofList]
    intro c mem
    obtain ⟨rest, whole⟩ := List.rdropWhile_prefix isGap (raw.toList.dropWhile isGap)
    have own : c ∈ (raw.toList.dropWhile isGap).head? := by
      rw [← whole, List.head?_append]
      exact Option.mem_def.2 (by rw [show (List.rdropWhile isGap _).head? = some c from mem]; rfl)
    have stop := List.head?_dropWhile_not isGap raw.toList
    rw [show (raw.toList.dropWhile isGap).head? = some c from own] at stop
    exact stop
  last := by
    rw [String.toList_ofList]
    intro c mem
    obtain ⟨full, rfl⟩ := List.mem_getLast?_eq_getLast mem
    exact Bool.eq_false_iff.2 (List.rdropWhile_last_not isGap _ full)

/-- Only one value stands in a text. -/
lemma Wraps.eq_unwrapped {raw value : String} (h : Wraps raw value) :
    value.toList = unwrapped raw.toList := by
  obtain ⟨front, back, whole, gaps⟩ := h.around
  have behind : ∀ c ∈ back.reverse, isGap c = true :=
    fun c mem => gaps c (List.mem_append_right _ (List.mem_reverse.1 mem))
  rw [unwrapped, whole,
    List.dropWhile_append_of_pos fun c mem => gaps c (List.mem_append_left _ mem)]
  cases some : value.toList with
  | nil =>
    have none : back.dropWhile isGap = [] :=
      List.dropWhile_eq_nil_iff.2 fun c mem => behind c (List.mem_reverse.2 mem)
    rw [List.nil_append, none]
    rfl
  | cons c rest =>
    have front := h.first c (by rw [some]; rfl)
    rw [List.cons_append, List.dropWhile_cons_of_neg (by simp [front]), ← List.cons_append,
      List.rdropWhile, List.reverse_append, List.dropWhile_append_of_pos behind, ← some,
      ← List.rdropWhile, List.rdropWhile_eq_self_iff.2]
    intro full
    rw [h.last _ (List.getLast?_eq_some_getLast full)]
    decide

/-- A response names the location that its header is found to have. -/
lemma names_iff {r : Response} {value : String} :
    r.Names value ↔ r.header? "location" = some value := by
  constructor
  · rintro ⟨headers, others, named, wraps⟩
    rename_i before after name raw
    have found : r.headers.find? (fun h => h.1.toLower == "location") = some (name, raw) := by
      rw [List.find?_eq_some_iff_append]
      exact ⟨by simpa using named, before, after, headers, fun h mem => by simpa using others h mem⟩
    rw [header?, found]
    have same : (String.ofList (unwrapped raw.toList)).toList = value.toList := by
      rw [wraps.eq_unwrapped]
      exact String.toList_ofList
    exact congrArg some (String.toList_inj.1 same)
  · intro h
    obtain ⟨⟨name, raw⟩, found, rfl⟩ := Option.map_eq_some_iff.1 h
    obtain ⟨named, before, after, headers, others⟩ := List.find?_eq_some_iff_append.1 found
    exact .intro headers (fun h mem => by simpa using others h mem) (by simpa using named)
      (wraps_unwrapped raw)

/-- A response names one location at most. -/
lemma Names.unique {r : Response} {value value' : String} (h : r.Names value)
    (h' : r.Names value') : value = value' :=
  Option.some.inj ((names_iff.1 h).symm.trans (names_iff.1 h'))

/-- The location counts exactly if it is named and plain. -/
lemma location?_eq_some_iff {r : Response} {url : String} :
    r.location? = some url ↔ r.Names url ∧ IsPlain url := by
  rw [location?, Option.filter_eq_some_iff, names_iff]
  simp [IsPlain, isHeaderChar]

/-- The statuses of redirections lie between 300 and 399. -/
lemma isRedirection_iff {r : Response} :
    r.isRedirection = true ↔ 300 ≤ r.status ∧ r.status ≤ 399 := by
  simp [isRedirection]

end Response

namespace Server

variable {s : Server} {key : Key}

/-- What a response tells of the long URL behind a key. -/
inductive Tells (r : Response) : Except Failure (Option String) → Prop
  | unknown : r.status = 404 → Tells r (.ok none)
  | found {url} :
    r.isRedirection = true → r.Names url → Response.IsPlain url → Tells r (.ok (some url))
  | astray :
    r.isRedirection = true → (∀ url, r.Names url → ¬ Response.IsPlain url) →
    Tells r (.error (.remote (some r.status) "redirect without location"))
  | rejected :
    r.status ≠ 404 → r.isRedirection = false → Tells r (.error (rejected r (r.text?.getD "")))

/-- What is read off a response is what it tells. -/
lemma tells_longUrlOf (r : Response) : Tells r (longUrlOf r) := by
  rw [longUrlOf]
  split
  · exact .unknown ‹_›
  · next known =>
    cases redirects : r.isRedirection with
    | false => exact .rejected known redirects
    | true =>
      cases located : r.location? with
      | none =>
        refine .astray redirects fun url names plain => ?_
        rw [Response.location?_eq_some_iff.2 ⟨names, plain⟩] at located
        cases located
      | some url =>
        obtain ⟨names, plain⟩ := Response.location?_eq_some_iff.1 located
        exact .found redirects names plain

/-- No response that redirects tells that the key is unknown. -/
lemma status_of_isRedirection {r : Response} (h : r.isRedirection = true) : r.status ≠ 404 := by
  intro unknown
  rw [Response.isRedirection, unknown] at h
  cases h

/-- A response tells that the key is unknown exactly by the status 404. -/
lemma Tells.unknown_iff {r : Response} {x : Except Failure (Option String)} (h : Tells r x) :
    x = .ok none ↔ r.status = 404 := by
  cases h with
  | unknown unknown => exact iff_of_true rfl unknown
  | found redirects _ _ => exact iff_of_false nofun (status_of_isRedirection redirects)
  | astray redirects _ => exact iff_of_false nofun (status_of_isRedirection redirects)
  | rejected known _ => exact iff_of_false nofun known

/-- A response tells a long URL exactly if it redirects to that and the location is plain. -/
lemma Tells.found_iff {r : Response} {x : Except Failure (Option String)} (h : Tells r x)
    {url : String} :
    x = .ok (some url) ↔ r.isRedirection = true ∧ r.Names url ∧ Response.IsPlain url := by
  cases h with
  | unknown unknown =>
    exact iff_of_false nofun fun found => status_of_isRedirection found.1 unknown
  | @found own redirects names plain =>
    constructor
    · rintro ⟨⟩
      exact ⟨redirects, names, plain⟩
    · rintro ⟨-, names', -⟩
      rw [names.unique names']
  | astray _ lost => exact iff_of_false nofun fun found => lost url found.2.1 found.2.2
  | rejected _ direct =>
    refine iff_of_false nofun fun found => ?_
    rw [direct] at found
    cases found.1

/-- What is neither unknown nor found is a rejection with the status and a text. -/
lemma Tells.rejects {r : Response} {x : Except Failure (Option String)} (h : Tells r x)
    (known : x ≠ .ok none) (lost : ∀ url, x ≠ .ok (some url)) :
    ∃ m, m ≠ "" ∧ x = .error (.remote (some r.status) m) ∧
      (r.isRedirection = false → m = Payload.describeBody r.status (r.text?.getD "")) := by
  cases h with
  | unknown _ => exact absurd rfl known
  | found _ _ _ => exact absurd rfl (lost _)
  | astray redirects _ =>
    refine ⟨_, by decide, rfl, fun direct => ?_⟩
    rw [direct] at redirects
    cases redirects
  | rejected _ _ => exact ⟨_, Payload.describeBody_ne_empty _ _, rfl, fun _ => rfl⟩

/-- A blank key is not removed, and nothing is sent. -/
lemma remove_of_blank (blank : Text.isBlankText key = true) (n : Network) :
    (s.remove key).run n = ⟨.failed, n, []⟩ := by
  rw [remove, if_pos blank]
  rfl

/-- The status of the response decides on a removal, and without a response it has failed. -/
lemma remove_value (full : Text.isBlankText key = false) (n : Network) :
    ((s.remove key).run n).value =
      match n.response? (s.keyUrl key) with
      | some r => .ofStatus r.status
      | none => .failed := by
  rw [remove, if_neg (by simp [full]), Traced.run_bind, Network.send_value]
  cases n.response? (s.keyUrl key) <;> rfl

/-- What each status means for a removal. -/
lemma ofStatus_iff (status : UInt16) :
    (Removal.ofStatus status = .deleted ↔ status = 200) ∧
      (Removal.ofStatus status = .notFound ↔ status = 404) ∧
      (Removal.ofStatus status = .failed ↔ status ≠ 200 ∧ status ≠ 404) := by
  rw [Removal.ofStatus]
  by_cases deleted : status = 200
  · simp [deleted]
  · by_cases unknown : status = 404
    · simp [unknown]
    · simp [deleted, unknown]

/-- Removing the link of a key and looking its long URL up, over plain connections. A blank key is
refused, and exactly such a one, with nothing sent for it; for any other key one request goes out,
if one can be made for its URL at all. No response is a failed removal and a failure of the network,
and a response decides. The removal goes by its status alone. The lookup finds the key unknown
exactly for the status 404, and it finds the URL of the first location exactly where the response
redirects and this location is plain text; a later location never counts. In all other cases it is a
rejection with the status and a text, which is that of the body unless the response redirects; a
body that does not arrive counts as empty. -/
theorem key_outcome (s : Server) (http : s.base.scheme = "http") (replies : List Reply)
    (key : Key) :
    let n : Network := ⟨true, replies⟩
    let removed := (s.remove key).run n
    let looked := (s.resolve key).run n
    let response? := if (s.keyUrl key).isRequestable then n.next.1.response? else none
    ((∃ m, looked.value = .error (.validation m)) ↔ Text.trim key = "") ∧
      (Text.trim key = "" → removed.value = .failed ∧ removed.trace = [] ∧ looked.trace = []) ∧
      (Text.trim key ≠ "" →
        removed.trace =
            (if (s.keyUrl key).isRequestable then [⟨.delete, s.keyUrl key, none⟩] else []) ∧
          looked.trace =
            if (s.keyUrl key).isRequestable then [⟨.get, s.keyUrl key, none⟩] else []) ∧
      (Text.trim key ≠ "" → response? = none →
        removed.value = .failed ∧ ∃ m, looked.value = .error (.network m)) ∧
      ∀ r, Text.trim key ≠ "" → response? = some r →
        (removed.value = .deleted ↔ r.status = 200) ∧
        (removed.value = .notFound ↔ r.status = 404) ∧
        (removed.value = .failed ↔ r.status ≠ 200 ∧ r.status ≠ 404) ∧
        (looked.value = .ok none ↔ r.status = 404) ∧
        (∀ url, looked.value = .ok (some url) ↔
          (300 ≤ r.status ∧ r.status ≤ 399) ∧ r.Names url ∧ Response.IsPlain url) ∧
        (∀ url url', r.Names url → looked.value = .ok (some url') → url' = url) ∧
        (looked.value ≠ .ok none → (∀ url, looked.value ≠ .ok (some url)) →
          ∃ m, m ≠ "" ∧ looked.value = .error (.remote (some r.status) m) ∧
            (¬ (300 ≤ r.status ∧ r.status ≤ 399) →
              m = Payload.describeBody r.status (r.text?.getD ""))) := by
  intro n removed looked response?
  have plain : (s.keyUrl key).scheme = "http" := (s.base.below_scheme [key]).trans http
  have responds : n.response? (s.keyUrl key) = response? := Network.response?_of_http rfl plain
  cases blank : Text.isBlankText key with
  | true =>
    have empty : Text.trim key = "" := isBlankText_iff.1 blank
    have left : removed = _ := remove_of_blank blank n
    have right : looked = _ := resolve_of_blank blank n
    refine ⟨⟨fun _ => empty, fun _ => ⟨_, congrArg (·.value) right⟩⟩, fun _ => ?_,
      fun full => absurd empty full, fun full => absurd empty full,
      fun r full => absurd empty full⟩
    rw [left, right]
    exact ⟨rfl, rfl, rfl⟩
  | false =>
    have full : Text.trim key ≠ "" := by
      intro empty
      rw [isBlankText_iff.2 empty] at blank
      cases blank
    have connects : n.connects (s.keyUrl key) = (s.keyUrl key).isRequestable :=
      Network.connects_of_http rfl plain
    have left : removed.value = _ := remove_value blank n
    have right : looked.value = _ := resolve_value blank n
    rw [responds] at left right
    refine ⟨⟨fun ⟨m, e⟩ => ?_, fun empty => absurd empty full⟩, fun empty => absurd empty full,
      fun _ => ?_, fun _ none => ?_, fun r _ answered => ?_⟩
    · rw [right] at e
      cases answered : response? with
      | none =>
        rw [answered] at e
        cases e
      | some r =>
        rw [answered] at e
        exact absurd e (longUrlOf_ne_validation r m)
    · rw [← connects]
      exact ⟨remove_trace blank n, resolve_trace blank n⟩
    · rw [none] at left right
      exact ⟨left, _, right⟩
    · rw [answered] at left right
      have tells : Tells r looked.value := right ▸ tells_longUrlOf r
      obtain ⟨deleted, notFound, failed⟩ := ofStatus_iff r.status
      rw [← show removed.value = .ofStatus r.status from left] at deleted notFound failed
      refine ⟨deleted, notFound, failed, tells.unknown_iff, fun url => ?_,
        fun url url' names found => ?_, fun known lost => ?_⟩
      · rw [tells.found_iff, Response.isRedirection_iff]
      · exact (tells.found_iff.1 found).2.1.unique names
      · obtain ⟨m, some, rejects, described⟩ := tells.rejects known lost
        refine ⟨m, some, rejects, fun direct => described ?_⟩
        rw [← Response.isRedirection_iff] at direct
        exact Bool.eq_false_iff.2 direct

/-- A second location does not stand in for a first one that is no plain text. -/
theorem key_outcome_of_second_location :
    let r : Response := ⟨302, [("Location", " é\t"), ("location", "http://x/")], [], false⟩
    localhost.base.scheme = "http" ∧ Text.trim "k" ≠ "" ∧ r.Names "é" ∧
      ∃ m, m ≠ "" ∧ ((localhost.resolve "k").run ⟨true, [.response r]⟩).value =
        .error (.remote (some 302) m) := by
  intro r
  have full : Text.trim "k" ≠ "" := by decide
  have names : r.Names "é" := Response.names_iff.2 (by decide +kernel)
  obtain ⟨-, -, -, unknown, found, first, rejects⟩ :=
    (key_outcome localhost rfl [.response r] "k").2.2.2.2 r full rfl
  have lost (url : String) : ((localhost.resolve "k").run ⟨true, [.response r]⟩).value ≠
      .ok (some url) := by
    intro leads
    obtain rfl := first "é" url names leads
    exact absurd (((found "é").1 leads).2.2 'é' (by decide)) (by decide)
  obtain ⟨m, some, rejected, -⟩ := rejects (fun e => absurd (unknown.1 e) (by decide)) lost
  exact ⟨rfl, full, names, m, some, rejected⟩

end Server

end Shortlink
