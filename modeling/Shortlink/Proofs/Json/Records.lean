import Shortlink.Json.Record
import Shortlink.Proofs.Json.Values

/-!
# Records that are read back

A reader and a writer of a type go together where the reader finds the value in the tokens of what
is written, whatever comes behind. A record is filled member by member, so it is enough that the
reader and the writer of every field go together.
-/

namespace Shortlink.Json

/-- A reader restores what was written, and leaves the tokens behind it. -/
def Restores {α : Type} (read : List Token → Reading α) (write : α → Value) : Prop :=
  ∀ x rest, read ((write x).spelling ++ rest) = .ok (x, rest)

/-- What a reader restores is decoded from the text that it is written as. -/
lemma Restores.decodeWith {α : Type} {read : List Token → Reading α} {write : α → Value}
    (h : Restores read write) {x : α} (whole : (write x).IsWhole) :
    decodeWith read (write x).text.toList = .ok x := by
  have cut := Value.tokens_write (write x) whole endsNumber_nil
  have found := h x []
  rw [List.append_nil] at cut
  rw [Value.text, String.toList_ofList, Json.decodeWith, cut, show tokens [] = [] from rfl,
    readAll, found]
  rfl

/-! ## Single values -/

/-- A string is restored. -/
lemma restores_string : Restores readString .string := fun _ _ => rfl

/-- A truth value is restored. -/
lemma restores_bool : Restores readBool .boolean := fun _ _ => rfl

/-- A whole number of 64 bits is restored. -/
lemma restores_int64 : Restores readInt64 fun n => .number (.integer n.toInt) := by
  intro n rest
  have small : n.toInt < Nat.pow 2 63 := n.toInt_lt
  show (if n.toInt < Nat.pow 2 63 then _ else _) = _
  rw [if_pos small, Int64.ofInt_toInt]
  rfl

/-- What may be missing is written as `null`, so nothing else may be. -/
lemma Restores.optional {α : Type} {read : List Token → Reading α} {write : α → Value}
    (h : Restores read write) (present : ∀ x, write x ≠ .null) :
    Restores (readOptional read) fun x? => (x?.map write).getD .null := by
  intro x? rest
  cases x? with
  | none => rfl
  | some x =>
    have other : readOptional read ((write x).spelling ++ rest) =
        (read ((write x).spelling ++ rest)).map fun found => (some found.1, found.2) := by
      have present := present x
      generalize write x = v at present
      cases v with
      | null => contradiction
      | _ => rfl
    rw [h] at other
    exact other

/-- A string that may be missing is restored. -/
lemma restores_string? : Restores (readOptional readString) Value.ofString? := by
  have same : Value.ofString? = fun s? => (s?.map Value.string).getD .null :=
    funext fun s? => by cases s? <;> rfl
  rw [same]
  exact restores_string.optional fun _ h => by cases h

/-- A name out of a few, each standing for a value of its own. -/
lemma restores_choice {α : Type} {choices : List (String × α)} {name : α → String}
    (own : ∀ x, choices.find? (·.1 == name x) = some (name x, x)) :
    Restores (readChoice choices) fun x => .string (name x) := by
  intro x rest
  show pickName choices "variant identifier" (.string (.ok (name x)) none :: rest) = _
  rw [pickName, own]

/-! ## Records -/

namespace Shape

variable {σ α : Type} {s : Shape σ α}

/-- The members of an object are put into a draft one after the other. -/
inductive Fills (s : Shape σ α) : σ → List (String × Value) → σ → Prop
  | done {d : σ} : Fills s d [] d
  | field {d d' d'' : σ} {f : Field σ} {name : String} {v : Value}
    {members : List (String × Value)} :
    s.fields.find? (·.name == name) = some f → f.isRead d = false →
    (∀ rest, f.read d (v.spelling ++ rest) = .ok (d', rest)) → Fills s d' members d'' →
    Fills s d ((name, v) :: members) d''

/-- A member with the name of a free field is read into it. -/
lemma readMember_field {d d' : σ} {f : Field σ} {name : String} {v : Value}
    (found : s.fields.find? (·.name == name) = some f) (unread : f.isRead d = false)
    (own : ∀ rest, f.read d (v.spelling ++ rest) = .ok (d', rest)) (rest : List Token) :
    s.readMember d (.string (.ok name) none :: .colon :: (v.spelling ++ rest)) =
      .ok (d', rest) := by
  have named : readName (.string (.ok name) none :: .colon :: (v.spelling ++ rest)) =
      .ok (name, .colon :: (v.spelling ++ rest)) := rfl
  rw [readMember, named]
  simp only [bind, Except.bind, found, unread]
  exact own rest

/-- Every member takes a token at least. -/
lemma length_le_spellMembers (first : Bool) (members : List (String × Value)) :
    members.length ≤ (Value.spellMembers first members).length := by
  induction members generalizing first with
  | nil => exact Nat.le_refl 0
  | cons m members ih =>
    have others := ih false
    rw [Value.spellMembers]
    simp only [List.length_append, List.length_cons]
    omega

/-- The members are read up to the closing brace. -/
lemma Fills.readMembers {d d' : σ} {members : List (String × Value)} (h : s.Fills d members d')
    (first : Bool) {budget : Nat} (enough : members.length < budget) (rest : List Token) :
    s.readMembers budget first d (Value.spellMembers first members ++ .closeObject :: rest) =
      .ok (d', .closeObject :: rest) := by
  induction h generalizing first budget with
  | done =>
    cases budget with
    | zero => contradiction
    | succ budget => cases first <;> rfl
  | @field d d' d'' f name v members found unread own _ ih =>
    cases budget with
    | zero => contradiction
    | succ budget =>
      have enough : members.length < budget := Nat.lt_of_succ_lt_succ enough
      have member := readMember_field found unread own
        (Value.spellMembers false members ++ .closeObject :: rest)
      have behind := ih false enough
      have step : (s.readMember d (.string (.ok name) none :: .colon ::
          (v.spelling ++ (Value.spellMembers false members ++ .closeObject :: rest))) >>=
            fun front => s.readMembers budget false front.1 front.2) =
          .ok (d'', .closeObject :: rest) := by
        rw [member]
        exact behind
      rw [Value.spellMembers, List.append_assoc, List.append_assoc]
      -- a comma in front is all that being the first makes a difference to
      cases first with
      | true => exact step
      | false => exact step

/-- The record that is made of the draft when all members are put there. -/
lemma Fills.read {d : σ} {x : α} {members : List (String × Value)} (h : s.Fills s.blank members d)
    (finish : s.finish d = .ok x) (rest : List Token) :
    s.read ((Value.object members).spelling ++ rest) = .ok (x, rest) := by
  have enough : members.length <
      (Value.spellMembers true members ++ .closeObject :: rest).length + 1 := by
    have least := length_le_spellMembers true members
    rw [List.length_append]
    omega
  have filled := h.readMembers true enough rest
  rw [Value.spelling, List.append_assoc, List.singleton_append, List.cons_append, Shape.read,
    filled]
  show s.close d (.closeObject :: rest) = _
  rw [close, finish]
  rfl

end Shape

/-- A member that the writer of a field has written is put into the draft. -/
lemma Restores.field {σ α : Type} {read : List Token → Reading α} {write : α → Value}
    (h : Restores read write) {name : String} {get : σ → Option α} {put : α → σ → σ}
    {optional : Bool} (d : σ) (x : α) (rest : List Token) :
    (Field.of name read get put optional).read d ((write x).spelling ++ rest) =
      .ok (put x d, rest) := by
  show (read _).map _ = _
  rw [h]
  rfl

end Shortlink.Json
