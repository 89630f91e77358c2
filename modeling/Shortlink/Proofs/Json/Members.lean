import Mathlib.Data.List.Induction
import Mathlib.Data.String.Basic
import Shortlink.Json.Value

/-!
# The order of members

An object keeps its members in the order of their names, whatever order they are put there in. Once
in order they stay as they are.
-/

namespace Shortlink.Json.Value

variable {name : String} {v : Value} {ms : List (String × Value)}

/-- Each member stands in front of those with a later name. -/
def Ordered (ms : List (String × Value)) : Prop := ms.Pairwise (·.1 < ·.1)

/-- The members that an object has of these. -/
def collect (ms : List (String × Value)) : List (String × Value) :=
  ms.foldl (fun acc m => insert m.1 m.2 acc) []

/-- An object has the members that are collected from a list. -/
lemma ofMembers_eq (ms : List (String × Value)) : ofMembers ms = .object (collect ms) := rfl

/-! ## One more member -/

/-- A member behind an insertion is the new one or an old one. -/
lemma mem_insert {m : String × Value} :
    m ∈ insert name v ms → m = (name, v) ∨ m ∈ ms := by
  fun_induction insert name v ms with
  | case1 => simp
  | case2 w rest => exact fun mem => (List.mem_cons.1 mem).imp_right (.tail _)
  | case3 => exact List.mem_cons.1
  | case4 n w rest _ _ ih =>
    intro mem
    obtain rfl | mem := List.mem_cons.1 mem
    · exact .inr List.mem_cons_self
    · exact (ih mem).imp_right (.tail _)

/-- A new name is put somewhere among the others. -/
lemma perm_insert (new : name ∉ ms.map Prod.fst) : (insert name v ms).Perm ((name, v) :: ms) := by
  induction ms with
  | nil => exact .refl _
  | cons m ms ih =>
    obtain ⟨other, new⟩ := List.ne_and_not_mem_of_not_mem_cons new
    rw [insert, if_neg other]
    split
    · exact .refl _
    · exact ((ih new).cons m).trans (.swap _ _ _)

/-- Inserting a member keeps the members in order. -/
lemma ordered_insert (h : Ordered ms) : Ordered (insert name v ms) := by
  fun_induction insert name v ms with
  | case1 => exact List.pairwise_singleton _ _
  | case2 w rest => exact List.pairwise_cons.2 (List.pairwise_cons.1 h)
  | case3 n w rest _ less =>
    have behind : ∀ m ∈ rest, n < m.1 := (List.pairwise_cons.1 h).1
    refine List.pairwise_cons.2 ⟨List.forall_mem_cons.2 ⟨less, fun m mem => ?_⟩, h⟩
    exact less.trans (behind m mem)
  | case4 n w rest other notLess ih =>
    obtain ⟨behind, others⟩ := List.pairwise_cons.1 h
    have less : n < name := lt_of_le_of_ne (not_lt.1 notLess) (Ne.symm other)
    refine List.pairwise_cons.2 ⟨fun m mem => ?_, ih others⟩
    obtain rfl | mem := mem_insert mem
    · exact less
    · exact behind m mem

/-- A member with the last name of all goes behind the others. -/
lemma insert_eq_append (last : ∀ m ∈ ms, m.1 < name) : insert name v ms = ms ++ [(name, v)] := by
  induction ms with
  | nil => rfl
  | cons m ms ih =>
    obtain ⟨less, last⟩ := List.forall_mem_cons.1 last
    rw [insert, if_neg less.ne', if_neg less.not_gt, ih last]
    rfl

/-! ## All members -/

/-- The last member of a list is inserted last. -/
lemma collect_concat (ms : List (String × Value)) (m : String × Value) :
    collect (ms ++ [m]) = insert m.1 m.2 (collect ms) := by
  rw [collect, List.foldl_append]
  rfl

/-- An object has no members that are not put there. -/
lemma mem_of_mem_collect {m : String × Value} (mem : m ∈ collect ms) : m ∈ ms := by
  induction ms using List.reverseRecOn with
  | nil => exact mem
  | append_singleton ms m' ih =>
    rw [collect_concat] at mem
    obtain rfl | early := mem_insert mem
    · exact List.mem_concat_self
    · exact List.mem_append_left _ (ih early)

/-- Collected members are in order. -/
lemma ordered_collect (ms : List (String × Value)) : Ordered (collect ms) := by
  induction ms using List.reverseRecOn with
  | nil => exact List.Pairwise.nil
  | append_singleton ms m ih =>
    rw [collect_concat]
    exact ordered_insert ih

/-- Members that are in order stay as they are. -/
lemma collect_of_ordered (h : Ordered ms) : collect ms = ms := by
  induction ms using List.reverseRecOn with
  | nil => rfl
  | append_singleton ms m ih =>
    obtain ⟨front, -, last⟩ := List.pairwise_append.1 h
    have last : ∀ m' ∈ ms, m'.1 < m.1 := fun m' mem => last m' mem m List.mem_cons_self
    rw [collect_concat, ih front, insert_eq_append last]

/-- Members with different names are collected as they are, up to their order. -/
lemma perm_collect (distinct : (ms.map Prod.fst).Nodup) : (collect ms).Perm ms := by
  induction ms using List.reverseRecOn with
  | nil => exact .refl _
  | append_singleton ms m ih =>
    have front : (m :: ms).map Prod.fst |>.Nodup :=
      ((List.perm_append_singleton m ms).map Prod.fst).nodup_iff.1 distinct
    obtain ⟨new, front⟩ := List.nodup_cons.1 front
    have own := ih front
    have new : m.1 ∉ (collect ms).map Prod.fst := fun mem => new ((own.map Prod.fst).subset mem)
    rw [collect_concat]
    exact (perm_insert new).trans ((own.cons m).trans (List.perm_append_singleton m ms).symm)

/-- Members with names of their own are the same object in whatever order they are put there. -/
lemma collect_of_perm {ms' : List (String × Value)} (perm : ms'.Perm ms)
    (distinct : (ms.map Prod.fst).Nodup) : collect ms' = collect ms := by
  have distinct' : (ms'.map Prod.fst).Nodup := (perm.map Prod.fst).nodup_iff.2 distinct
  have same : (collect ms').Perm (collect ms) :=
    (perm_collect distinct').trans (perm.trans (perm_collect distinct).symm)
  refine List.Perm.eq_of_pairwise ?_ (ordered_collect ms') (ordered_collect ms) same
  exact fun m m' _ _ less more => (less.asymm more).elim

end Shortlink.Json.Value
