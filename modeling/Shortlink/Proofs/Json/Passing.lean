import Mathlib.Data.List.Chain
import Shortlink.Json.Skip
import Shortlink.Proofs.Json.Grammar

/-!
# Values that are passed over

`IsJson` says which tokens are a value for a reader that only passes over it: brackets may be open
to any depth, a number may be too large to be read, and a string may have half of a surrogate pair
in it. Such a value is passed over whatever comes behind it, so none is the beginning of another
one.
-/

namespace Shortlink.Json

/-- Tokens are a value, whether or not it can be read. -/
inductive IsJson : List Token → Prop
  | null : IsJson [.null]
  | boolean {b : Bool} : IsJson [.boolean b]
  | number {value : Except Slip Number} : IsJson [.number value none]
  | string {value : Except Slip String} : IsJson [.string value none]
  | array {items : List (List Token)} :
    (∀ ts ∈ items, IsJson ts) → IsJson (.openArray :: listed true items ++ [.closeArray])
  | object {members : List (Except Slip String × List Token)} :
    (∀ m ∈ members, IsJson m.2) →
    IsJson (.openObject :: listed true (members.map fun m => .string m.1 none :: .colon :: m.2) ++
      [.closeObject])

/-! ## Passing over -/

/-- Tokens are passed over as a value, whatever comes behind them. -/
def IsPassed (ts : List Token) : Prop :=
  ∀ opened rest, skip opened .value (ts ++ rest) = skip opened .more rest

/-- No value begins with the bracket that closes an array. -/
lemma IsJson.exists_cons {ts : List Token} (h : IsJson ts) :
    ∃ t rest, ts = t :: rest ∧ t ≠ .closeArray := by
  cases h <;> exact ⟨_, _, rfl, by simp⟩

/-- What is wanted inside a bracket: a value may come at once, or a comma first. -/
def wantBehind (first : Bool) : Want := if first then .first else .more

/-- Items that are passed over on their own are passed over in a list, with the bracket behind
it. -/
lemma skip_items {items : List (List Token)}
    (opens : ∀ ts ∈ items, ∃ t rest, ts = t :: rest ∧ t ≠ .closeArray)
    (each : ∀ ts ∈ items, IsPassed ts) (first : Bool) (opened : List Bracket) (rest : List Token) :
    skip (.array :: opened) (wantBehind first) (listed first items ++ .closeArray :: rest) =
      skip opened .more rest := by
  induction items generalizing first with
  | nil => cases first <;> rfl
  | cons ts items ih =>
    obtain ⟨⟨t, own, same, notClose⟩, opens'⟩ := List.forall_mem_cons.1 opens
    obtain ⟨passed, each⟩ := List.forall_mem_cons.1 each
    have others := ih opens' each false
    have start (behind : List Token) :
        skip (.array :: opened) (wantBehind first)
          ((if first then [] else [.comma]) ++ (ts ++ behind)) =
            skip (.array :: opened) .value (ts ++ behind) := by
      rw [same]
      cases first with
      | true => cases t <;> first | rfl | contradiction
      | false => rfl
    rw [listed, List.append_assoc, List.append_assoc, start, passed]
    exact others

/-- Members are passed over in a list if their values are, with the bracket behind it. -/
lemma skip_members {members : List (Except Slip String × List Token)}
    (each : ∀ m ∈ members, IsPassed m.2) (first : Bool) (opened : List Bracket)
    (rest : List Token) :
    skip (.object :: opened) (wantBehind first)
      (listed first (members.map fun m => .string m.1 none :: .colon :: m.2) ++
        .closeObject :: rest) = skip opened .more rest := by
  induction members generalizing first with
  | nil => cases first <;> rfl
  | cons m members ih =>
    obtain ⟨own, each⟩ := List.forall_mem_cons.1 each
    have others := ih each false
    rw [List.map_cons, listed, List.append_assoc, List.append_assoc]
    cases first with
    | true => exact (own _ _).trans others
    | false => exact (own _ _).trans others

/-- A value is passed over, whatever comes behind it. -/
lemma IsJson.isPassed {ts : List Token} (h : IsJson ts) : IsPassed ts := by
  induction h with
  | null | boolean | number | string =>
    intro opened rest
    cases opened <;> rfl
  | @array items values ih =>
    intro opened rest
    have inner := skip_items (fun ts mem => (values ts mem).exists_cons) ih true opened rest
    rw [List.append_assoc, List.singleton_append, List.cons_append]
    cases opened <;> exact inner
  | object values ih =>
    intro opened rest
    have inner := skip_members ih true opened rest
    rw [List.append_assoc, List.singleton_append, List.cons_append]
    cases opened <;> exact inner

/-- A value in front of a text is passed over as one. -/
lemma IsJson.skipValue {ts : List Token} (h : IsJson ts) (rest : List Token) :
    skipValue (ts ++ rest) = .ok rest :=
  (h.isPassed [] rest).trans (by cases rest <;> rfl)

/-- Two values at the front of one text are the same. -/
lemma IsJson.eq_of_append {ts ts' rest rest' : List Token} (h : IsJson ts) (h' : IsJson ts')
    (same : ts ++ rest = ts' ++ rest') : ts = ts' ∧ rest = rest' := by
  have found := h.skipValue rest
  rw [same, h'.skipValue rest'] at found
  cases found
  exact ⟨List.append_cancel_right same, rfl⟩

/-! ## Values that are read -/

/-- If all tokens of a list can be passed over, those of its parts can. -/
lemma passable_listed {tss : List (List Token)} {first : Bool}
    (h : ∀ t ∈ listed first tss, t.IsPassable) : ∀ ts ∈ tss, ∀ t ∈ ts, t.IsPassable := by
  induction tss generalizing first with
  | nil => exact List.forall_mem_nil _
  | cons ts tss ih =>
    rw [listed, List.append_assoc] at h
    obtain ⟨-, h⟩ := List.forall_mem_append.1 h
    obtain ⟨own, others⟩ := List.forall_mem_append.1 h
    exact List.forall_mem_cons.2 ⟨own, ih others⟩

/-- If all tokens between brackets can be passed over, those of the parts can. -/
lemma passable_enclosed {t t' : Token} {tss : List (List Token)}
    (h : ∀ t'' ∈ t :: listed true tss ++ [t'], t''.IsPassable) :
    ∀ ts ∈ tss, ∀ t'' ∈ ts, t''.IsPassable :=
  passable_listed (List.forall_mem_append.1 (List.forall_mem_cons.1 h).2).1

/-- A string that can be passed over has no slip in the way. -/
lemma eq_none_of_isPassable {value : Except Slip String} {skipped : Option Slip}
    (h : (Token.string value skipped).IsPassable) : skipped = none := by
  cases skipped with
  | none => rfl
  | some slip => exact h.elim

/-- What can be read can be passed over. -/
lemma Forms.isJson {depth : Nat} {ts : List Token} {v : Value} (h : Forms depth ts v)
    (passable : ∀ t ∈ ts, t.IsPassable) : IsJson ts := by
  induction h with
  | null => exact .null
  | boolean => exact .boolean
  | @number _ _ skipped =>
    cases skipped with
    | none => exact .number
    | some slip => exact (passable _ List.mem_cons_self).elim
  | string =>
    obtain rfl := eq_none_of_isPassable (passable _ List.mem_cons_self)
    exact .string
  | @array _ items _ _ ih =>
    have own := List.forall_mem_map.1 (passable_enclosed passable)
    exact .array (List.forall_mem_map.2 fun item mem => ih item mem (own item mem))
  | @object _ entries _ _ ih =>
    have own := List.forall_mem_map.1 (passable_enclosed passable)
    have names : entries.map Entry.spelling =
        (entries.map fun e => (Except.ok e.name, e.tokens)).map fun m =>
          Token.string m.1 none :: .colon :: m.2 := by
      rw [List.map_map]
      refine List.map_congr_left fun e mem => ?_
      rw [Entry.spelling, eq_none_of_isPassable (own e mem _ List.mem_cons_self)]
      rfl
    rw [names]
    refine .object (List.forall_mem_map.2 fun e mem => ih e mem fun t mem' => own e mem t ?_)
    exact .tail _ (.tail _ mem')

/-! ## The tokens of a value -/

/-- All tokens of a value can be passed over. -/
lemma IsJson.passable {ts : List Token} (h : IsJson ts) : ∀ t ∈ ts, t.IsPassable := by
  induction h with
  | null | boolean | number | string => exact List.forall_mem_singleton.2 trivial
  | array _ ih =>
    have own := forall_mem_listed trivial true ih
    simpa [Token.IsPassable, or_imp, forall_and] using own
  | @object members _ ih =>
    have each : ∀ ts ∈ members.map fun m => Token.string m.1 none :: .colon :: m.2,
        ∀ t ∈ ts, t.IsPassable :=
      List.forall_mem_map.2 fun m mem => by simpa [Token.IsPassable] using ih m mem
    have own := forall_mem_listed trivial true each
    simpa [Token.IsPassable, or_imp, forall_and] using own

/-! ## Neighbours -/

/-- A bracket, a comma or a colon. -/
def Token.IsMark : Token → Prop
  | .openArray | .closeArray | .openObject | .closeObject | .comma | .colon => True
  | _ => False

/-- No two tokens stand side by side without a mark. -/
def Separated (ts : List Token) : Prop := ts.IsChain fun t t' => t.IsMark ∨ t'.IsMark

/-- A mark may stand in front of tokens. -/
lemma Separated.cons {t : Token} {ts : List Token} (mark : t.IsMark) (h : Separated ts) :
    Separated (t :: ts) :=
  List.isChain_cons.2 ⟨fun _ _ => .inl mark, h⟩

/-- Tokens may be put together at a mark. -/
lemma Separated.append_cons {t : Token} {ts ts' : List Token} (h : Separated ts) (mark : t.IsMark)
    (h' : Separated (t :: ts')) : Separated (ts ++ t :: ts') := by
  refine List.isChain_append.2 ⟨h, h', ?_⟩
  rintro _ _ _ ⟨⟩
  exact .inr mark

/-- Parts with commas between them are separated if each of them is. -/
lemma separated_listed {tss : List (List Token)} (each : ∀ ts ∈ tss, Separated ts) (close : Token)
    (mark : close.IsMark) (first : Bool) : Separated (listed first tss ++ [close]) := by
  induction tss generalizing first with
  | nil => exact List.isChain_singleton _
  | cons ts tss ih =>
    obtain ⟨own, each⟩ := List.forall_mem_cons.1 each
    have others := ih each false
    have behind : Separated (ts ++ (listed false tss ++ [close])) := by
      cases tss with
      | nil => exact own.append_cons mark others
      | cons ts' tss => exact own.append_cons trivial others
    rw [listed, List.append_assoc, List.append_assoc]
    cases first with
    | true => exact behind
    | false => exact behind.cons trivial

/-- The name of a member is parted from its value by the colon. -/
lemma Separated.member {ts : List Token} (h : Separated ts) (name : Except Slip String) :
    Separated (.string name none :: .colon :: ts) := by
  refine List.isChain_cons.2 ⟨?_, h.cons trivial⟩
  rintro _ ⟨⟩
  exact .inr trivial

/-- In a value no two tokens stand side by side without a mark. -/
lemma IsJson.separated {ts : List Token} (h : IsJson ts) : Separated ts := by
  induction h with
  | null | boolean | number | string => exact List.isChain_singleton _
  | array _ ih => exact (separated_listed ih .closeArray trivial true).cons trivial
  | object _ ih =>
    have each := List.forall_mem_map.2 fun m mem => (ih m mem).member m.1
    exact (separated_listed each .closeObject trivial true).cons trivial

end Shortlink.Json
