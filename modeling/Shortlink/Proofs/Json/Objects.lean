import Shortlink.Proofs.Json.Layout

/-!
# Objects by their members

A text that is an object determines its members: their names, which are texts, and the tokens of
their values, whatever these hold and however deep they go. Where all values can be read the object
can, and then it is the same value in whatever order the members stand and whichever blanks are
around the tokens, as long as no name is there twice.
-/

namespace Shortlink.Json

/-- A member of an object: its name, and the tokens of its value. -/
structure Member where
  name : String
  tokens : List Token
  isJson : IsJson tokens

/-- A member as it is written. -/
def Member.spelling (m : Member) : List Token := .string (.ok m.name) none :: .colon :: m.tokens

/-- The tokens of the object that has these members. -/
def braced (ms : List Member) : List Token :=
  .openObject :: listed true (ms.map Member.spelling) ++ [.closeObject]

/-- A text is an object that has these members, in this order and with any blanks around the
tokens. -/
def IsObject (body : String) (ms : List Member) : Prop := Laid body.toList (braced ms)

/-- Members between their brackets are a value. -/
lemma isJson_braced (ms : List Member) : IsJson (braced ms) := by
  have each : ∀ m ∈ ms.map fun m => ((.ok m.name, m.tokens) : Except Slip String × List Token),
      IsJson m.2 := List.forall_mem_map.2 fun m _ => m.isJson
  have isJson := IsJson.object each
  rw [List.map_map] at isJson
  exact isJson

/-- An object is read as the tokens of its members between brackets. -/
lemma IsObject.tokens_eq {body : String} {ms : List Member} (h : IsObject body ms) :
    tokens body.toList = braced ms := Laid.tokens_eq h (isJson_braced ms).separated

/-- The tokens of an object are those into which the text is cut. -/
theorem isObject_iff {body : String} {ms : List Member} :
    IsObject body ms ↔ tokens body.toList = braced ms := by
  constructor
  · exact IsObject.tokens_eq
  · intro cut
    rw [IsObject, ← cut]
    refine (cuts_tokens fun t mem => .inr ?_).laid
    rw [cut] at mem
    exact (isJson_braced ms).passable t mem

deriving instance DecidableEq for Token

instance (body : String) (ms : List Member) : Decidable (IsObject body ms) :=
  decidable_of_iff _ isObject_iff.symm

/-! ## The members of an object -/

/-- Tokens that begin with a member begin with no other one. -/
lemma Member.eq_of_spelling {m m' : Member} {rest rest' : List Token}
    (same : m.spelling ++ rest = m'.spelling ++ rest') : m = m' ∧ rest = rest' := by
  obtain ⟨name, ts, isJson⟩ := m
  obtain ⟨name', ts', isJson'⟩ := m'
  rw [spelling, spelling, List.cons_append, List.cons_append, List.cons_append,
    List.cons_append] at same
  injection same with names same
  injection same with _ same
  cases names
  obtain ⟨rfl, rest⟩ := isJson.eq_of_append isJson' same
  exact ⟨rfl, rest⟩

/-- A list of members is spelled in its own way. -/
lemma eq_of_listed_spelling {first : Bool} {ms ms' : List Member}
    (same : listed first (ms.map Member.spelling) = listed first (ms'.map Member.spelling)) :
    ms = ms' := by
  induction ms generalizing first ms' with
  | nil =>
    cases ms' with
    | nil => rfl
    | cons m' ms' => cases first <;> cases same
  | cons m ms ih =>
    cases ms' with
    | nil => cases first <;> cases same
    | cons m' ms' =>
      rw [List.map_cons, List.map_cons, listed, listed, List.append_assoc,
        List.append_assoc] at same
      obtain ⟨rfl, others⟩ := Member.eq_of_spelling (List.append_cancel_left same)
      rw [ih others]

/-- An object is made of one list of members only. -/
lemma braced_injective : Function.Injective braced := by
  intro ms ms' same
  rw [braced, braced, List.cons_append, List.cons_append] at same
  injection same with _ same
  exact eq_of_listed_spelling (List.append_cancel_right same)

/-- An object has the members that it has, and no others. -/
theorem IsObject.unique {body : String} {ms ms' : List Member} (h : IsObject body ms)
    (h' : IsObject body ms') : ms = ms' :=
  braced_injective (h.tokens_eq.symm.trans h'.tokens_eq)

/-! ## Values -/

instance : Inhabited Value := ⟨.null⟩

/-- The value of an object by the values of its members. -/
def valued (value : Member → Value) (ms : List Member) : Value :=
  .ofMembers (ms.map fun m => (m.name, value m))

/-- Members whose values have their forms give an object of theirs. -/
lemma forms_braced {depth : Nat} (deep : 1 < depth) {ms : List Member} {value : Member → Value}
    (each : ∀ m ∈ ms, Forms (depth - 1) m.tokens (value m)) :
    Forms depth (braced ms) (valued value ms) := by
  have own : ∀ e ∈ ms.map fun m => (⟨m.name, none, m.tokens, value m⟩ : Entry),
      Forms (depth - 1) e.tokens e.value := List.forall_mem_map.2 each
  have forms := Forms.object deep own
  rw [List.map_map, List.map_map] at forms
  exact forms

/-- The members that are read off tokens that can be passed over are those of an object. -/
lemma exists_members {depth : Nat} {entries : List Entry}
    (each : ∀ e ∈ entries, Forms depth e.tokens e.value)
    (passable : ∀ e ∈ entries, ∀ t ∈ e.spelling, t.IsPassable) :
    ∃ ms : List Member, ms.map Member.spelling = entries.map Entry.spelling ∧
      ∀ m ∈ ms, ∃ v, Forms depth m.tokens v := by
  induction entries with
  | nil => exact ⟨[], rfl, List.forall_mem_nil _⟩
  | cons e entries ih =>
    obtain ⟨forms, each⟩ := List.forall_mem_cons.1 each
    obtain ⟨own, passable⟩ := List.forall_mem_cons.1 passable
    obtain ⟨ms, same, read⟩ := ih each passable
    have isJson := forms.isJson fun t mem => own t (.tail _ (.tail _ mem))
    refine ⟨⟨e.name, e.tokens, isJson⟩ :: ms, ?_, List.forall_mem_cons.2 ⟨⟨_, forms⟩, read⟩⟩
    rw [List.map_cons, List.map_cons, same, Member.spelling, Entry.spelling,
      eq_none_of_isPassable (own _ List.mem_cons_self)]

/-- Tokens that are read as an object have members, each of which is read. -/
lemma Forms.exists_braced {depth : Nat} {ts : List Token} {v : Value} (h : Forms depth ts v)
    (passable : ∀ t ∈ ts, t.IsPassable) {members : List (String × Value)}
    (object : v = .object members) :
    ∃ ms, ts = braced ms ∧ ∀ m ∈ ms, ∃ v, Forms (depth - 1) m.tokens v := by
  cases h with
  | null | boolean | number | string | array => cases object
  | object _ each =>
    have own := List.forall_mem_map.1 (passable_enclosed passable)
    obtain ⟨ms, same, read⟩ := exists_members each own
    exact ⟨ms, by rw [braced, same], read⟩

/-- A text that is read as an object has members, each of which is read. -/
theorem isObject_of_parse {body : String} {members : List (String × Value)}
    (h : parse body.toList = .ok (.object members)) :
    ∃ ms, IsObject body ms ∧ ∀ m ∈ ms, ∃ v, Forms (depthLimit - 1) m.tokens v := by
  have forms := parse_eq_ok_iff.1 h
  have laid := (cuts_tokens fun t mem => .inl (forms.sound t mem)).laid
  obtain ⟨ms, same, read⟩ := forms.exists_braced laid.passable rfl
  rw [same] at laid
  exact ⟨ms, laid, read⟩

/-- An object is read with the values of its members. -/
lemma IsObject.parse_eq {body : String} {ms : List Member} (h : IsObject body ms)
    {value : Member → Value} (each : ∀ m ∈ ms, Forms (depthLimit - 1) m.tokens (value m)) :
    parse body.toList = .ok (valued value ms) := by
  rw [parse_eq_ok_iff, h.tokens_eq]
  exact forms_braced (by decide) each

/-- The order of members with different names makes no difference to the value. -/
lemma valued_of_perm {ms ms' : List Member} (perm : ms'.Perm ms)
    (distinct : (ms.map Member.name).Nodup) (value : Member → Value) :
    valued value ms' = valued value ms := by
  have distinct : ((ms.map fun m => (m.name, value m)).map Prod.fst).Nodup := by
    rw [List.map_map]
    exact distinct
  rw [valued, valued, Value.ofMembers_eq, Value.ofMembers_eq,
    Value.collect_of_perm (perm.map _) distinct]

/-- An object is the same value in whatever order its members stand and whichever blanks are around
the tokens. -/
theorem parse_of_perm {body body' : String} {ms ms' : List Member} (h : IsObject body ms)
    (h' : IsObject body' ms') (perm : ms'.Perm ms) (distinct : (ms.map Member.name).Nodup)
    {members : List (String × Value)} (read : parse body.toList = .ok (.object members)) :
    parse body'.toList = .ok (.object members) := by
  obtain ⟨own, isObject, each⟩ := isObject_of_parse read
  obtain rfl := h.unique isObject
  choose! value each using each
  have each' := fun m mem => each m (perm.subset mem)
  rw [h'.parse_eq each', valued_of_perm perm distinct, ← h.parse_eq each, read]

end Shortlink.Json
