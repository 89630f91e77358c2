import Mathlib.Data.List.Nodup
import Shortlink.Json.Record
import Shortlink.Proofs.Json.Objects

/-!
# Records by their members

A record is read from an object member by member. Nothing that comes behind a value has a part in
how the value is read, and what two members put into a draft does not depend on which of them comes
first; so the order of the members does not matter as long as no name is there twice. Members that
the record does not have do not matter at all.
-/

namespace Shortlink.Json

/-- Every list of tokens takes a token at least. -/
lemma length_le_listed (tss : List (List Token)) (full : ∀ ts ∈ tss, ts ≠ []) (first : Bool) :
    tss.length ≤ (listed first tss).length := by
  induction tss generalizing first with
  | nil => exact Nat.le_refl 0
  | cons ts tss ih =>
    obtain ⟨own, full⟩ := List.forall_mem_cons.1 full
    have some := List.length_pos_iff.2 own
    have others := ih full false
    rw [listed]
    simp only [List.length_append, List.length_cons]
    omega

/-! ## Readers of values -/

section

variable {α β : Type}

/-- What comes behind a value makes no difference to a reader. -/
def Confined (read : List Token → Reading α) : Prop :=
  ∀ ts, IsJson ts → ∀ rest,
    (read (ts ++ rest)).toOption = (read ts).toOption.map fun found => (found.1, rest)

/-- Reading a string does not look behind it. -/
lemma confined_string : Confined readString := by
  intro ts value rest
  cases value with
  | @string value => cases value <;> rfl
  | @number value => cases value <;> rfl
  | _ => rfl

/-- Reading a whole number does not look behind it. -/
lemma confined_int64 : Confined readInt64 := by
  intro ts value rest
  cases value with
  | @string value => cases value <;> rfl
  | @number value =>
    obtain slip | ⟨i | x⟩ := value
    · rfl
    · show (if i < Nat.pow 2 63 then _ else _ : Reading Int64).toOption =
        (if i < Nat.pow 2 63 then _ else _ : Reading Int64).toOption.map _
      split <;> rfl
    · rfl
  | _ => rfl

/-- A reader that does not look behind a value does not if the value may be null. -/
lemma Confined.optional {read : List Token → Reading α} (h : Confined read) :
    Confined (readOptional read) := by
  intro ts value rest
  have own := h ts value rest
  cases value with
  | null => rfl
  | boolean | number | string | array | object =>
    simp only [readOptional, List.cons_append, List.nil_append, toOption_map] at own ⊢
    rw [own]
    cases (read _).toOption <;> rfl

/-- A function of what is read does not look behind the value. -/
lemma Confined.map {read : List Token → Reading α} (h : Confined read) (f : α → β) :
    Confined fun ts => (read ts).map fun found => (f found.1, found.2) := by
  intro ts value rest
  have own := h ts value rest
  simp only [toOption_map] at own ⊢
  rw [own]
  cases (read ts).toOption <;> rfl

end

/-! ## Fields -/

section

variable {σ : Type}

namespace Field

/-- The draft with a value in the field, if the field is still free and the value can be read. -/
def put? (f : Field σ) (d : σ) (ts : List Token) : Option σ :=
  if f.isRead d then none else (f.read d ts).toOption.map (·.1)

/-- It does not matter which of two fields is filled first. -/
def Apart (f g : Field σ) : Prop :=
  ∀ d ts ts', (f.put? d ts).bind (g.put? · ts') = (g.put? d ts').bind (f.put? · ts)

/-- It does not matter either which of the two is named first. -/
instance : Std.Symm (Apart (σ := σ)) where
  symm _ _ h d ts ts' := (h d ts' ts).symm

variable {α β : Type} {name name' : String} {read : List Token → Reading α}
  {read' : List Token → Reading β} {get : σ → Option α} {get' : σ → Option β} {put : α → σ → σ}
  {put' : β → σ → σ} {optional optional' : Bool}

/-- A field with a place of its own is filled once, with what is read. -/
lemma put?_of (d : σ) (ts : List Token) :
    (Field.of name read get put optional).put? d ts =
      if (get d).isSome then none else (read ts).toOption.map fun found => put found.1 d := by
  rw [put?]
  show (if (get d).isSome then none else ((read ts).map _).toOption.map _) = _
  rw [toOption_map, Option.map_map]
  rfl

/-- Fields that are kept in different places are filled apart. -/
lemma apart_of (get_put' : ∀ y d, get (put' y d) = get d)
    (get'_put : ∀ x d, get' (put x d) = get' d)
    (put_put' : ∀ x y d, put' y (put x d) = put x (put' y d)) :
    Apart (Field.of name read get put optional) (Field.of name' read' get' put' optional') := by
  intro d ts ts'
  simp only [put?_of]
  cases held : (get d).isSome <;> cases held' : (get' d).isSome <;>
    cases (read ts).toOption <;> cases (read' ts').toOption <;>
    simp [get_put', get'_put, put_put', held, held']

/-- A field with a place of its own is read by a confined reader if its value is. -/
lemma confined_of (h : Confined read) (d : σ) :
    Confined ((Field.of name read get put optional).read d) := h.map fun x => put x d

end Field

end

/-! ## Records -/

namespace Shape

variable {σ α : Type} (s : Shape σ α)

/-- The names of the members that are read. -/
def names : List String := s.fields.map (·.name)

/-- The draft with what a member puts there. -/
def put? (d : σ) (m : Member) : Option σ :=
  match s.fields.find? (·.name == m.name) with
  | none => some d
  | some f => f.put? d m.tokens

/-- The draft with what the members put there one after the other. -/
def fill (d? : Option σ) (ms : List Member) : Option σ :=
  ms.foldl (fun d? m => d?.bind (s.put? · m)) d?

/-- The record that members are read as. -/
def record? (ms : List Member) : Option α :=
  (s.fill (some s.blank) ms).bind fun d => (s.finish d).toOption

/-- Each field is read from a value and put into a place of its own. -/
structure Lawful : Prop where
  confined : ∀ f ∈ s.fields, ∀ d, Confined (f.read d)
  apart : s.fields.Pairwise Field.Apart

variable {s}

/-- A draft that is lost stays lost. -/
lemma fill_none (ms : List Member) : s.fill none ms = none := by
  induction ms with
  | nil => rfl
  | cons m ms ih => exact ih

/-! ### Reading -/

/-- A member as it is written is put into the draft. -/
lemma readMember_spelling (lawful : s.Lawful) (d : σ) (m : Member) (rest : List Token) :
    (s.readMember d (m.spelling ++ rest)).toOption = (s.put? d m).map fun d => (d, rest) := by
  have named : readName (m.spelling ++ rest) = .ok (m.name, .colon :: (m.tokens ++ rest)) := rfl
  have colon : readColon (.colon :: (m.tokens ++ rest)) = .ok (m.tokens ++ rest) := rfl
  rw [readMember, named, put?]
  simp only [bind, Except.bind, colon]
  cases found : s.fields.find? (·.name == m.name) with
  | none =>
    simp only [m.isJson.skipValue]
    rfl
  | some f =>
    have own := lawful.confined f (List.mem_of_find?_eq_some found) d m.tokens m.isJson rest
    simp only [Field.put?]
    cases f.isRead d with
    | true => rfl
    | false =>
      simp only [Bool.false_eq_true, if_false]
      rw [own]
      cases (f.read d m.tokens).toOption <;> rfl

/-- Members as they are written are put into the draft, up to the closing bracket. -/
lemma readMembers_listed (lawful : s.Lawful) (ms : List Member) (first : Bool) (d : σ)
    (rest : List Token) {budget : Nat} (enough : ms.length < budget) :
    (s.readMembers budget first d
      (listed first (ms.map Member.spelling) ++ .closeObject :: rest)).toOption =
        (s.fill (some d) ms).map fun d => (d, .closeObject :: rest) := by
  induction ms generalizing first d budget with
  | nil =>
    cases budget with
    | zero => contradiction
    | succ budget => cases first <;> rfl
  | cons m ms ih =>
    cases budget with
    | zero => contradiction
    | succ budget =>
      have enough : ms.length < budget := Nat.lt_of_succ_lt_succ enough
      have step (behind : List Token) :
          s.readMembers (budget + 1) first d
            ((if first then [] else [.comma]) ++ (m.spelling ++ behind)) =
              s.readMember d (m.spelling ++ behind) >>= fun found =>
                s.readMembers budget false found.1 found.2 := by
        cases first <;> rfl
      rw [List.map_cons, listed, List.append_assoc, List.append_assoc, step, toOption_bind,
        readMember_spelling lawful]
      show _ = (s.fill (s.put? d m) ms).map _
      cases s.put? d m with
      | none =>
        rw [fill_none]
        rfl
      | some d => exact ih false d enough

/-- The record is read from the members alone. -/
lemma readAll_braced (lawful : s.Lawful) (ms : List Member) :
    (readAll s.read (braced ms)).toOption = s.record? ms := by
  have least := length_le_listed (ms.map Member.spelling) (by simp [Member.spelling]) true
  have enough : ms.length <
      (listed true (ms.map Member.spelling) ++ [Token.closeObject]).length + 1 := by
    rw [List.length_map] at least
    rw [List.length_append]
    omega
  have filled := readMembers_listed lawful ms true s.blank [] enough
  rw [readAll, toOption_bind, braced, List.cons_append, Shape.read, toOption_bind, filled, record?]
  cases s.fill (some s.blank) ms with
  | none => rfl
  | some d =>
    show ((s.close d [.closeObject]).toOption.bind _) = (s.finish d).toOption
    rw [close]
    cases s.finish d <;> rfl

/-- A text that is an object is read as a record from its members alone. -/
lemma decode_of_isObject (lawful : s.Lawful) {body : String} {ms : List Member}
    (h : IsObject body ms) : (decodeWith s.read body.toList).toOption = s.record? ms := by
  rw [← readAll_braced lawful, ← h.tokens_eq]
  exact toOption_mapError _ _

/-! ### The order of members -/

/-- A member that is not read leaves the draft as it is. -/
lemma put?_of_not_mem {m : Member} (unread : m.name ∉ s.names) (d : σ) : s.put? d m = some d := by
  have missing : s.fields.find? (·.name == m.name) = none := by
    refine List.find?_eq_none.2 fun f mem same => unread ?_
    exact List.mem_map.2 ⟨f, mem, beq_iff_eq.1 same⟩
  rw [put?, missing]

/-- Members of other names may be put in either order. -/
lemma put?_comm (lawful : s.Lawful) {m m' : Member} (other : m.name ≠ m'.name) (d : σ) :
    (s.put? d m).bind (s.put? · m') = (s.put? d m').bind (s.put? · m) := by
  cases found : s.fields.find? (·.name == m.name) with
  | none => simp [put?, found]
  | some f =>
    cases found' : s.fields.find? (·.name == m'.name) with
    | none => simp [put?, found, found']
    | some f' =>
      simp only [put?, found, found']
      refine lawful.apart.forall (List.mem_of_find?_eq_some found)
        (List.mem_of_find?_eq_some found') ?_ d m.tokens m'.tokens
      rintro rfl
      have name := List.find?_some found
      have name' := List.find?_some found'
      exact other ((beq_iff_eq.1 name).symm.trans (beq_iff_eq.1 name'))

/-- The order of members with different names makes no difference to the draft. -/
lemma fill_of_perm (lawful : s.Lawful) {ms ms' : List Member} (perm : ms'.Perm ms)
    (distinct : (ms.map Member.name).Nodup) (d? : Option σ) : s.fill d? ms' = s.fill d? ms := by
  refine (perm.symm.foldl_eq' (fun m mem m' mem' d? => ?_) d?).symm
  by_cases same : m.name = m'.name
  · rw [List.inj_on_of_nodup_map distinct mem mem' same]
  · cases d? with
    | none => rfl
    | some d => exact put?_comm lawful same d

/-- The members that are read. -/
def known (s : Shape σ α) (ms : List Member) : List Member := ms.filter (·.name ∈ s.names)

/-- The members that are read of two lists are those of both. -/
lemma known_append (ms ms' : List Member) : s.known (ms ++ ms') = s.known ms ++ s.known ms' :=
  List.filter_append _ _

/-- The draft comes of the members that are read. -/
lemma fill_known (ms : List Member) (d? : Option σ) : s.fill d? (s.known ms) = s.fill d? ms := by
  rw [fill, known, List.foldl_filter, fill]
  congr 1
  funext d? m
  split
  · rfl
  · next unread =>
    have unread : m.name ∉ s.names := by simpa using unread
    simp [put?_of_not_mem unread]

/-- The record is the same in whatever order the members stand and whichever others are among
them. -/
theorem record?_of_perm (lawful : s.Lawful) {ms ms' extra : List Member}
    (perm : ms'.Perm (extra ++ ms)) (distinct : (ms.map Member.name).Nodup)
    (unread : ∀ m ∈ extra, m.name ∉ s.names) : s.record? ms' = s.record? ms := by
  have none : s.known extra = [] := List.filter_eq_nil_iff.2 (by simpa using unread)
  have known : (s.known ms').Perm (s.known (extra ++ ms)) := perm.filter _
  rw [known_append, none, List.nil_append] at known
  have distinct : ((s.known ms).map Member.name).Nodup :=
    distinct.sublist (List.filter_sublist.map _)
  rw [record?, record?, ← fill_known ms', ← fill_known ms, fill_of_perm lawful known distinct]

end Shape

end Shortlink.Json
