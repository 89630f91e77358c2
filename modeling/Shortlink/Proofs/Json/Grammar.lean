import Shortlink.Proofs.Json.Lexing
import Shortlink.Proofs.Json.Members
import Shortlink.Proofs.Json.Values

/-!
# The grammar of values

Which tokens are a value is said here without a reader: `Forms` has a rule for every kind of value.
The reader of values accepts just what it derives, and a value that is read once is derived from its
own tokens too, where its members stand in the order of their names.
-/

namespace Shortlink.Json

/-- A member of an object as it is written. -/
structure Entry where
  name : String
  skipped : Option Slip
  tokens : List Token
  value : Value

namespace Entry

/-- The member with its name and the colon. -/
def spelling (e : Entry) : List Token := .string (.ok e.name) e.skipped :: .colon :: e.tokens

/-- The member by its name and its value. -/
def member (e : Entry) : String × Value := (e.name, e.value)

end Entry

/-- Tokens one after the other with commas between them; the first has no comma in front. -/
def listed (first : Bool) : List (List Token) → List Token
  | [] => []
  | ts :: rest => (if first then [] else [.comma]) ++ ts ++ listed false rest

/-- Tokens are a value in which fewer brackets than `depth` are open at once. -/
inductive Forms : Nat → List Token → Value → Prop
  | null {depth : Nat} : Forms depth [.null] .null
  | boolean {depth : Nat} {b : Bool} : Forms depth [.boolean b] (.boolean b)
  | number {depth : Nat} {n : Number} {skipped : Option Slip} :
    Forms depth [.number (.ok n) skipped] (.number n)
  | string {depth : Nat} {s : String} {skipped : Option Slip} :
    Forms depth [.string (.ok s) skipped] (.string s)
  | array {depth : Nat} {items : List (List Token × Value)} :
    1 < depth → (∀ item ∈ items, Forms (depth - 1) item.1 item.2) →
    Forms depth (.openArray :: listed true (items.map (·.1)) ++ [.closeArray])
      (.array (items.map (·.2)))
  | object {depth : Nat} {entries : List Entry} :
    1 < depth → (∀ e ∈ entries, Forms (depth - 1) e.tokens e.value) →
    Forms depth (.openObject :: listed true (entries.map Entry.spelling) ++ [.closeObject])
      (.ofMembers (entries.map Entry.member))

/-! ## What is read -/

/-- A name is read exactly off a string token. -/
lemma eq_of_readName {ts rest : List Token} {name : String} :
    readName ts = .ok (name, rest) → ∃ skipped, ts = .string (.ok name) skipped :: rest := by
  fun_cases readName ts with
  | case1 name skipped rest =>
    rintro ⟨⟩
    exact ⟨skipped, rfl⟩
  | case2 | case3 => rintro ⟨⟩

/-- A colon is read exactly off its token. -/
lemma eq_of_readColon {ts rest : List Token} :
    readColon ts = .ok rest → ts = .colon :: rest := by
  fun_cases readColon ts with
  | case1 =>
    rintro ⟨⟩
    rfl
  | case2 | case3 => rintro ⟨⟩

/-- Where no value begins, none is read. -/
lemma noValue_ne_ok {α : Type} {ts : List Token} {x : α × List Token} : noValue ts ≠ .ok x := by
  fun_cases noValue (α := α) ts <;> rintro ⟨⟩

/-- Where items are read, either the closing bracket comes next or one item and then others. -/
lemma readItems_inv {budget depth : Nat} {first : Bool} {ts rest : List Token} {vs : List Value}
    (h : readItems (budget + 1) depth first ts = .ok (vs, rest)) :
    (vs = [] ∧ ts = .closeArray :: rest) ∨
      ∃ v vs' ts' rest', vs = v :: vs' ∧ ts = (if first then [] else [.comma]) ++ ts' ∧
        readValue budget depth ts' = .ok (v, rest') ∧
        readItems budget depth false rest' = .ok (vs', rest) := by
  rw [readItems.eq_def] at h
  dsimp only at h
  split at h
  case h_2 =>
    cases h
    exact .inl ⟨rfl, rfl⟩
  -- the first item, and one behind a comma
  case h_3 | h_5 =>
    obtain ⟨⟨v, rest'⟩, own, h⟩ := ok_of_bind_ok h
    obtain ⟨⟨vs', _⟩, others, h⟩ := ok_of_bind_ok h
    cases h
    exact .inr ⟨v, vs', _, rest', rfl, rfl, own, others⟩
  all_goals cases h

/-- Members are read up to the closing bracket, or by one member and the others behind it. -/
lemma readMembers_inv {budget depth : Nat} {first : Bool} {ts rest : List Token}
    {ms : List (String × Value)} (h : readMembers (budget + 1) depth first ts = .ok (ms, rest)) :
    (ms = [] ∧ ts = .closeObject :: rest) ∨
      ∃ name skipped v ms' ts' rest', ms = (name, v) :: ms' ∧
        ts = (if first then [] else [.comma]) ++ .string (.ok name) skipped :: .colon :: ts' ∧
        readValue budget depth ts' = .ok (v, rest') ∧
        readMembers budget depth false rest' = .ok (ms', rest) := by
  rw [readMembers.eq_def] at h
  dsimp only at h
  split at h
  case h_2 =>
    cases h
    exact .inl ⟨rfl, rfl⟩
  case h_3 | h_6 =>
    obtain ⟨⟨name, rest₁⟩, named, h⟩ := ok_of_bind_ok h
    obtain ⟨rest₂, colon, h⟩ := ok_of_bind_ok h
    obtain ⟨⟨v, rest'⟩, own, h⟩ := ok_of_bind_ok h
    obtain ⟨⟨ms', _⟩, others, h⟩ := ok_of_bind_ok h
    cases h
    obtain ⟨skipped, rfl⟩ := eq_of_readName named
    obtain rfl := eq_of_readColon colon
    exact .inr ⟨name, skipped, v, ms', rest₂, rest', rfl, rfl, own, others⟩
  all_goals cases h

mutual

/-- What is read as a value has the form of one. -/
lemma forms_of_readValue {budget depth : Nat} {ts rest : List Token} {v : Value}
    (h : readValue budget depth ts = .ok (v, rest)) :
    ∃ used, ts = used ++ rest ∧ Forms depth used v := by
  cases budget with
  | zero => cases h
  | succ budget =>
    rw [readValue.eq_def] at h
    dsimp only at h
    split at h
    · cases h
      exact ⟨[.null], rfl, .null⟩
    · cases h
      exact ⟨[_], rfl, .boolean⟩
    · cases h
      exact ⟨[_], rfl, .number⟩
    · cases h
    · cases h
      exact ⟨[_], rfl, .string⟩
    · cases h
    · split at h
      · cases h
      · obtain ⟨⟨items, rest⟩, own, same⟩ := ok_of_map_ok h
        cases same
        obtain ⟨items, forms, rfl, rfl⟩ := forms_of_readItems own
        exact ⟨_, by simp, .array (by omega) forms⟩
    · split at h
      · cases h
      · obtain ⟨⟨members, rest⟩, own, same⟩ := ok_of_map_ok h
        cases same
        obtain ⟨entries, forms, rfl, rfl⟩ := forms_of_readMembers own
        exact ⟨_, by simp, .object (by omega) forms⟩
    · exact (noValue_ne_ok h).elim

/-- What is read as the items of an array are values with commas between them. -/
lemma forms_of_readItems {budget depth : Nat} {first : Bool} {ts rest : List Token}
    {vs : List Value} (h : readItems budget depth first ts = .ok (vs, rest)) :
    ∃ items : List (List Token × Value), (∀ item ∈ items, Forms depth item.1 item.2) ∧
      vs = items.map (·.2) ∧ ts = listed first (items.map (·.1)) ++ .closeArray :: rest := by
  cases budget with
  | zero => cases h
  | succ budget =>
    obtain ⟨rfl, rfl⟩ | ⟨v, vs', ts', rest', rfl, rfl, own, others⟩ := readItems_inv h
    · exact ⟨[], List.forall_mem_nil _, rfl, rfl⟩
    · obtain ⟨used, rfl, forms⟩ := forms_of_readValue own
      obtain ⟨items, allForms, rfl, rfl⟩ := forms_of_readItems others
      exact ⟨(used, v) :: items, List.forall_mem_cons.2 ⟨forms, allForms⟩, rfl, by simp [listed]⟩

/-- What is read as the members of an object are members with commas between them. -/
lemma forms_of_readMembers {budget depth : Nat} {first : Bool} {ts rest : List Token}
    {ms : List (String × Value)} (h : readMembers budget depth first ts = .ok (ms, rest)) :
    ∃ entries : List Entry, (∀ e ∈ entries, Forms depth e.tokens e.value) ∧
      ms = entries.map Entry.member ∧
      ts = listed first (entries.map Entry.spelling) ++ .closeObject :: rest := by
  cases budget with
  | zero => cases h
  | succ budget =>
    obtain ⟨rfl, rfl⟩ | ⟨name, skipped, v, ms', ts', rest', rfl, rfl, own, others⟩ :=
      readMembers_inv h
    · exact ⟨[], List.forall_mem_nil _, rfl, rfl⟩
    · obtain ⟨used, rfl, forms⟩ := forms_of_readValue own
      obtain ⟨entries, allForms, rfl, rfl⟩ := forms_of_readMembers others
      exact ⟨⟨name, skipped, used, v⟩ :: entries, List.forall_mem_cons.2 ⟨forms, allForms⟩, rfl,
        by simp [listed, Entry.spelling]⟩

end

/-! ## What can be read -/

/-- A value begins with no closing bracket. -/
lemma Forms.exists_cons {depth : Nat} {ts : List Token} {v : Value} (h : Forms depth ts v) :
    ∃ t rest, ts = t :: rest ∧ t ≠ .closeArray := by
  cases h <;> exact ⟨_, _, rfl, by simp⟩

/-- Tokens are read as a value, given enough budget, whatever comes behind them. -/
def IsRead (depth : Nat) (ts : List Token) (v : Value) : Prop :=
  ∀ rest budget, 2 * ts.length ≤ budget → readValue budget depth (ts ++ rest) = .ok (v, rest)

/-- Items are read one by one: the first, and then the others behind it. -/
lemma readItems_step {budget depth : Nat} {first : Bool} {t : Token} (notClose : t ≠ .closeArray)
    {v : Value} {vs : List Value} {ts rest rest' : List Token}
    (own : readValue budget depth (t :: ts) = .ok (v, rest'))
    (others : readItems budget depth false rest' = .ok (vs, rest)) :
    readItems (budget + 1) depth first ((if first then [] else [.comma]) ++ t :: ts) =
      .ok (v :: vs, rest) := by
  have opened : readItems (budget + 1) depth first ((if first then [] else [.comma]) ++ t :: ts) =
      Except.bind (readValue budget depth (t :: ts)) fun x =>
        Except.bind (readItems budget depth false x.2) fun xs => .ok (x.1 :: xs.1, xs.2) := by
    cases first <;> cases t <;> first | rfl | contradiction
  rw [opened, own]
  change Except.bind (readItems budget depth false rest') _ = _
  rw [others]
  rfl

/-- Members are read one by one: the first, and then the others behind it. -/
lemma readMembers_step {budget depth : Nat} {first : Bool} {name : String} {skipped : Option Slip}
    {v : Value} {ms : List (String × Value)} {ts rest rest' : List Token}
    (own : readValue budget depth ts = .ok (v, rest'))
    (others : readMembers budget depth false rest' = .ok (ms, rest)) :
    readMembers (budget + 1) depth first
      ((if first then [] else [.comma]) ++ .string (.ok name) skipped :: .colon :: ts) =
        .ok ((name, v) :: ms, rest) := by
  have opened : readMembers (budget + 1) depth first
      ((if first then [] else [.comma]) ++ .string (.ok name) skipped :: .colon :: ts) =
        Except.bind (readValue budget depth ts) fun x =>
          Except.bind (readMembers budget depth false x.2) fun xs =>
            .ok ((name, x.1) :: xs.1, xs.2) := by
    cases first <;> rfl
  rw [opened, own]
  change Except.bind (readMembers budget depth false rest') _ = _
  rw [others]
  rfl

/-- Items that are read on their own are read in a list, up to the closing bracket. -/
lemma readItems_listed {depth : Nat} {items : List (List Token × Value)}
    (opens : ∀ item ∈ items, ∃ t rest, item.1 = t :: rest ∧ t ≠ .closeArray)
    (each : ∀ item ∈ items, IsRead depth item.1 item.2) (first : Bool) (rest : List Token)
    {budget : Nat} (enough : 2 * (listed first (items.map (·.1))).length < budget) :
    readItems budget depth first (listed first (items.map (·.1)) ++ .closeArray :: rest) =
      .ok (items.map (·.2), rest) := by
  induction items generalizing first budget with
  | nil =>
    cases budget with
    | zero => contradiction
    | succ budget => cases first <;> rfl
  | cons item items ih =>
    cases budget with
    | zero => contradiction
    | succ budget =>
      obtain ⟨⟨t, ts, same, notClose⟩, opens⟩ := List.forall_mem_cons.1 opens
      obtain ⟨own, each⟩ := List.forall_mem_cons.1 each
      simp only [List.map_cons, listed, List.length_append] at enough ⊢
      have least : 1 ≤ item.1.length := by simp [same]
      have own := own (listed false (items.map (·.1)) ++ .closeArray :: rest) budget (by omega)
      have less : 2 * (listed false (items.map (·.1))).length < budget := by omega
      have others := ih opens each false less
      rw [same, List.cons_append] at own
      rw [List.append_assoc, List.append_assoc, same, List.cons_append]
      exact readItems_step notClose own others

/-- Members whose values are read on their own are read in a list, up to the closing bracket. -/
lemma readMembers_listed {depth : Nat} {entries : List Entry}
    (each : ∀ e ∈ entries, IsRead depth e.tokens e.value) (first : Bool) (rest : List Token)
    {budget : Nat} (enough : 2 * (listed first (entries.map Entry.spelling)).length < budget) :
    readMembers budget depth first
      (listed first (entries.map Entry.spelling) ++ .closeObject :: rest) =
        .ok (entries.map Entry.member, rest) := by
  induction entries generalizing first budget with
  | nil =>
    cases budget with
    | zero => contradiction
    | succ budget => cases first <;> rfl
  | cons e entries ih =>
    cases budget with
    | zero => contradiction
    | succ budget =>
      obtain ⟨own, each⟩ := List.forall_mem_cons.1 each
      simp only [List.map_cons, listed, Entry.spelling, List.length_append, List.length_cons]
        at enough ⊢
      have own := own (listed false (entries.map Entry.spelling) ++ .closeObject :: rest) budget
        (by omega)
      have less : 2 * (listed false (entries.map Entry.spelling)).length < budget := by omega
      have others := ih each false less
      rw [List.append_assoc, List.append_assoc, List.cons_append, List.cons_append]
      exact readMembers_step own others

/-- The reader of values finds every value, whatever comes behind it. -/
lemma Forms.isRead {depth : Nat} {ts : List Token} {v : Value} (h : Forms depth ts v) :
    IsRead depth ts v := by
  induction h with
  | null | boolean | number | string =>
    intro rest budget enough
    cases budget with
    | zero => contradiction
    | succ budget => rfl
  | @array depth items deep forms ih =>
    intro rest budget enough
    cases budget with
    | zero => contradiction
    | succ budget =>
      have less : 2 * (listed true (items.map (·.1))).length < budget := by
        simp only [List.length_append, List.length_cons] at enough
        omega
      have opens := fun item mem => (forms item mem).exists_cons
      have found := readItems_listed opens ih true rest less
      rw [List.append_assoc, List.cons_append, List.singleton_append, readValue,
        if_neg (by omega), found]
      rfl
  | @object depth entries deep _ ih =>
    intro rest budget enough
    cases budget with
    | zero => contradiction
    | succ budget =>
      have less : 2 * (listed true (entries.map Entry.spelling)).length < budget := by
        simp only [List.length_append, List.length_cons] at enough
        omega
      have found := readMembers_listed ih true rest less
      rw [List.append_assoc, List.cons_append, List.singleton_append, readValue,
        if_neg (by omega), found]
      rfl

/-- Tokens are read up to their end exactly if they are a value. -/
lemma readAll_readWhole {ts : List Token} {v : Value} :
    readAll readWhole ts = .ok v ↔ Forms depthLimit ts v := by
  constructor
  · intro h
    obtain ⟨⟨v', rest⟩, own, ended⟩ := ok_of_bind_ok h
    obtain ⟨used, rfl, forms⟩ := forms_of_readValue own
    cases rest with
    | nil =>
      cases ended
      rwa [List.append_nil]
    | cons t rest => cases ended
  · intro h
    have found := h.isRead [] (2 * ts.length + 2) (by omega)
    rw [List.append_nil] at found
    rw [readAll, readWhole, found]
    rfl

/-- A text is a value exactly if its tokens are. -/
theorem parse_eq_ok_iff {cs : List Char} {v : Value} :
    parse cs = .ok v ↔ Forms depthLimit (tokens cs) v := by
  rw [← readAll_readWhole, parse, decodeWith]
  cases readAll readWhole (tokens cs) <;> simp [Except.mapError]

/-- A token in a list is a comma, or a token of one of its parts. -/
lemma mem_listed {t : Token} {first : Bool} {tss : List (List Token)}
    (mem : t ∈ listed first tss) : t = .comma ∨ ∃ ts ∈ tss, t ∈ ts := by
  induction tss generalizing first with
  | nil => cases mem
  | cons ts tss ih =>
    rw [listed, List.append_assoc, List.mem_append, List.mem_append] at mem
    obtain comma | own | others := mem
    · cases first with
      | true => cases comma
      | false => exact .inl (List.mem_singleton.1 comma)
    · exact .inr ⟨ts, List.mem_cons_self, own⟩
    · exact (ih others).imp_right fun ⟨ts', mem', own⟩ => ⟨ts', .tail ts mem', own⟩

/-- What holds of commas and of the tokens of the parts holds of all tokens of a list. -/
lemma forall_mem_listed {P : Token → Prop} (comma : P .comma) (first : Bool)
    {tss : List (List Token)} (each : ∀ ts ∈ tss, ∀ t ∈ ts, P t) : ∀ t ∈ listed first tss, P t := by
  intro t mem
  obtain rfl | ⟨ts, mem, own⟩ := mem_listed mem
  · exact comma
  · exact each ts mem t own

/-- A member is sound if its value is. -/
lemma Entry.sound_spelling {e : Entry} (h : ∀ t ∈ e.tokens, t.IsSound) :
    ∀ t ∈ e.spelling, t.IsSound := by
  rw [spelling]
  simpa [Token.IsSound] using h

/-- Nothing is wrong with the tokens of a value. -/
lemma Forms.sound {depth : Nat} {ts : List Token} {v : Value} (h : Forms depth ts v) :
    ∀ t ∈ ts, t.IsSound := by
  induction h with
  | null | boolean | number | string => simp [Token.IsSound]
  | array _ _ ih =>
    have own := forall_mem_listed trivial true (List.forall_mem_map.2 ih)
    simpa [Token.IsSound, or_imp, forall_and] using own
  | object _ _ ih =>
    have own := forall_mem_listed trivial true
      (List.forall_mem_map.2 fun e mem => Entry.sound_spelling (ih e mem))
    simpa [Token.IsSound, or_imp, forall_and] using own

/-- Blanks around a text make no difference to which value it is. -/
theorem parse_between_spaces {front back : List Char} (before : Spaces front)
    (behind : Spaces back) (cs : List Char) (v : Value) :
    parse (front ++ (cs ++ back)) = .ok v ↔ parse cs = .ok v := by
  have same {ts : List Token} (forms : Forms depthLimit ts v) :=
    tokens_between_spaces forms.sound before behind cs
  rw [parse_eq_ok_iff, parse_eq_ok_iff]
  constructor
  · intro h
    rwa [(same h).1 rfl]
  · intro h
    rwa [(same h).2 rfl]

/-! ## The tokens of a value -/

/-- The items of an array are spelled as a list. -/
lemma Value.spellItems_eq (first : Bool) (vs : List Value) :
    spellItems first vs = listed first (vs.map spelling) := by
  induction vs generalizing first with
  | nil => rfl
  | cons v vs ih => rw [spellItems, ih, List.map_cons, listed]

/-- A member as it is written with the tokens of its value. -/
def Entry.of (m : String × Value) : Entry := ⟨m.1, none, m.2.spelling, m.2⟩

/-- The members of an object are spelled as a list. -/
lemma Value.spellMembers_eq (first : Bool) (ms : List (String × Value)) :
    spellMembers first ms = listed first ((ms.map Entry.of).map Entry.spelling) := by
  induction ms generalizing first with
  | nil => rfl
  | cons m ms ih =>
    rw [spellMembers, ih, List.map_cons, List.map_cons, listed]
    rfl

/-- What is a value once is the same value in its own tokens. -/
lemma Forms.spelling {depth : Nat} {ts : List Token} {v : Value} (h : Forms depth ts v) :
    Forms depth v.spelling v := by
  induction h with
  | null => exact .null
  | boolean => exact .boolean
  | number => exact .number
  | string => exact .string
  | @array depth items deep _ ih =>
    have own : ∀ item ∈ items.map fun item => (item.2.spelling, item.2),
        Forms (depth - 1) item.1 item.2 := List.forall_mem_map.2 ih
    have forms := Forms.array deep own
    rw [List.map_map, List.map_map] at forms
    rw [Value.spelling, Value.spellItems_eq, List.map_map]
    exact forms
  | @object depth entries deep _ ih =>
    have own : ∀ e ∈ (Value.collect (entries.map Entry.member)).map Entry.of,
        Forms (depth - 1) e.tokens e.value := by
      refine List.forall_mem_map.2 fun m mem => ?_
      obtain ⟨e, own, rfl⟩ := List.mem_map.1 (Value.mem_of_mem_collect mem)
      exact ih e own
    have forms := Forms.object deep own
    have members : ((Value.collect (entries.map Entry.member)).map Entry.of).map Entry.member =
        Value.collect (entries.map Entry.member) := by
      rw [List.map_map]
      exact List.map_id _
    rw [members, Value.ofMembers_eq, Value.collect_of_ordered (Value.ordered_collect _)] at forms
    rw [Value.ofMembers_eq, Value.spelling, Value.spellMembers_eq]
    exact forms

/-- A value whose numbers are whole is read back from the text that is written for it. -/
theorem parse_text {cs : List Char} {v : Value} (h : parse cs = .ok v) (whole : v.IsWhole) :
    parse v.text.toList = .ok v := by
  have cut := v.tokens_write whole endsNumber_nil
  rw [List.append_nil] at cut
  rw [parse_eq_ok_iff, Value.text, String.toList_ofList, cut, show tokens [] = [] from rfl,
    List.append_nil]
  exact (parse_eq_ok_iff.1 h).spelling

end Shortlink.Json
