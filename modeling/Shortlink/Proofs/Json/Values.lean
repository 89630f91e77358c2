import Shortlink.Json.Reader
import Shortlink.Proofs.Json.Numbers

/-!
# Values that are read back

The tokens of a value follow its syntax, and the text that is written for a value is cut into them.
What reads one type and what writes it go together where the reader finds the value in the tokens of
what is written, whatever comes behind.
-/

namespace Shortlink.Json

/-! ## The tokens of a value -/

namespace Value

mutual

/-- The tokens that a value consists of. -/
def spelling : Value → List Token
  | .null => [.null]
  | .boolean b => [.boolean b]
  | .number n => [.number (.ok n) none]
  | .string s => [.string (.ok s) none]
  | .array items => .openArray :: spellItems true items ++ [.closeArray]
  | .object members => .openObject :: spellMembers true members ++ [.closeObject]

/-- The tokens of the items of an array; the first has no comma in front. -/
def spellItems (first : Bool) : List Value → List Token
  | [] => []
  | v :: rest => (if first then [] else [.comma]) ++ v.spelling ++ spellItems false rest

/-- The tokens of the members of an object; the first has no comma in front. -/
def spellMembers (first : Bool) : List (String × Value) → List Token
  | [] => []
  | (name, v) :: rest =>
    (if first then [] else [.comma]) ++ .string (.ok name) none :: .colon :: v.spelling ++
      spellMembers false rest

/-- All numbers in a value are whole, and of 64 bits. -/
def IsWhole : Value → Prop
  | .number (.integer i) => Fits i
  | .number (.float _) => False
  | .array items => WholeItems items
  | .object members => WholeMembers members
  | .null | .boolean _ | .string _ => True

/-- The items are all of this kind. -/
def WholeItems : List Value → Prop
  | [] => True
  | v :: rest => v.IsWhole ∧ WholeItems rest

/-- The values of the members are all of this kind. -/
def WholeMembers : List (String × Value) → Prop
  | [] => True
  | (_, v) :: rest => v.IsWhole ∧ WholeMembers rest

end

/-- A comma or a closing bracket does not go on with a number. -/
lemma endsNumber_writeItems (items : List Value) {rest : List Char} (ends : EndsNumber rest) :
    EndsNumber (writeItems false items ++ rest) := by
  cases items with
  | nil => exact ends
  | cons v items => exact endsNumber_cons (by decide)

/-- The members that come behind a number end it. -/
lemma endsNumber_writeMembers (members : List (String × Value)) {rest : List Char}
    (ends : EndsNumber rest) : EndsNumber (writeMembers false members ++ rest) := by
  cases members with
  | nil => exact ends
  | cons m members => exact endsNumber_cons (by decide)

/-- The comma in front of all items but the first is read as its token. -/
lemma spells_comma (first : Bool) :
    Spells (if first then [] else [',']) (if first then [] else [.comma]) := by
  cases first with
  | true => exact fun _ => rfl
  | false => exact spells_sign rfl fun _ => rfl

/-- What stands between brackets is read on its own. -/
lemma tokens_enclosed {c c' : Char} {t t' : Token} {cs : List Char} {ts : List Token}
    (opening : Spells [c] [t]) (closing : Spells [c'] [t']) (rest : List Char)
    (inner : tokens (cs ++ c' :: rest) = ts ++ tokens (c' :: rest)) :
    tokens ((c :: cs ++ [c']) ++ rest) = (t :: ts ++ [t']) ++ tokens rest := by
  have front := opening (cs ++ c' :: rest)
  have back := closing rest
  rw [List.singleton_append] at front back
  rw [List.append_assoc, List.cons_append, List.singleton_append, front, inner, back]
  simp only [List.cons_append, List.nil_append, List.append_assoc]

mutual

/-- The text of a value is cut into the tokens of the value. -/
lemma tokens_write (v : Value) (whole : v.IsWhole) {rest : List Char} (ends : EndsNumber rest) :
    tokens (v.write ++ rest) = v.spelling ++ tokens rest := by
  cases v with
  | null => exact tokens_cons_of_scan ['u', 'l', 'l'] rfl rfl
  | boolean b =>
    cases b with
    | true => exact tokens_cons_of_scan ['r', 'u', 'e'] rfl rfl
    | false => exact tokens_cons_of_scan ['a', 'l', 's', 'e'] rfl rfl
  | number n =>
    cases n with
    | integer i => exact tokens_writeInt whole ends
    | float x => exact whole.elim
  | string s => exact spells_writeString s rest
  | array items =>
    apply tokens_enclosed (spells_sign rfl fun _ => rfl) (spells_sign rfl fun _ => rfl)
    exact tokens_writeItems true items whole (endsNumber_cons (by decide))
  | object members =>
    apply tokens_enclosed (spells_sign rfl fun _ => rfl) (spells_sign rfl fun _ => rfl)
    exact tokens_writeMembers true members whole (endsNumber_cons (by decide))

/-- The items of an array are read back as the tokens of their values. -/
lemma tokens_writeItems (first : Bool) (items : List Value) (whole : WholeItems items)
    {rest : List Char} (ends : EndsNumber rest) :
    tokens (writeItems first items ++ rest) = spellItems first items ++ tokens rest := by
  cases items with
  | nil => rfl
  | cons v items =>
    have own := tokens_write v whole.1 (endsNumber_writeItems items ends)
    have others := tokens_writeItems false items whole.2 ends
    rw [writeItems, spellItems, List.append_assoc, List.append_assoc, spells_comma, own, others]
    simp only [List.append_assoc]

/-- The members of an object are read back as the tokens of their names and values. -/
lemma tokens_writeMembers (first : Bool) (members : List (String × Value))
    (whole : WholeMembers members) {rest : List Char} (ends : EndsNumber rest) :
    tokens (writeMembers first members ++ rest) = spellMembers first members ++ tokens rest := by
  cases members with
  | nil => rfl
  | cons m members =>
    obtain ⟨name, v⟩ := m
    have colon : Spells [':'] [.colon] := spells_sign rfl fun _ => rfl
    have named := (spells_comma first).append <| (spells_writeString name).append colon
    have own := tokens_write v whole.1 (endsNumber_writeMembers members ends)
    have others := tokens_writeMembers false members whole.2 ends
    have front := named (v.write ++ (writeMembers false members ++ rest))
    rw [own, others] at front
    simpa [writeMembers, spellMembers] using front

end

end Value

end Shortlink.Json
