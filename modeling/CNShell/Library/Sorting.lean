import Mathlib.Data.List.Forall2
import Mathlib.Data.List.Sort

/-! Sorting by a comparison that orders the elements of one list. -/

namespace CNShell

variable {α : Type u} {le : α → α → Bool} {values : List α}

/-- A comparison is a total preorder of the elements of a list. -/
structure Orders (le : α → α → Bool) (values : List α) : Prop where
  total : ∀ a ∈ values, ∀ b ∈ values, le a b = true ∨ le b a = true
  trans : ∀ a ∈ values, ∀ b ∈ values, ∀ c ∈ values, le a b = true → le b c = true → le a c = true

/-- How many elements of a list come before one. -/
def rank (le : α → α → Bool) (values : List α) (a : α) : Nat := values.countP fun b => !le a b

namespace Orders

variable {a b : α}

theorem before_of_before (orders : Orders le values) (left : a ∈ values) (right : b ∈ values)
    (reached : le a b = true) : ∀ c ∈ values, (!le a c) = true → (!le b c) = true := by
  intro c member strict
  rw [Bool.not_eq_true'] at strict ⊢
  by_contra after
  -- Otherwise the first element would reach the third one by the second.
  have through := orders.trans a left b right c member reached (by simpa using after)
  rw [strict] at through
  cases through

theorem rank_le (orders : Orders le values) (left : a ∈ values) (right : b ∈ values)
    (reached : le a b = true) : rank le values a ≤ rank le values b :=
  List.countP_mono_left (orders.before_of_before left right reached)

theorem rank_lt (orders : Orders le values) (left : a ∈ values) (right : b ∈ values)
    (strict : le b a = false) : rank le values a < rank le values b := by
  have reached : le a b = true := (orders.total a left b right).resolve_right (by simp [strict])
  have self : le a a = true := (orders.total a left a left).elim id id
  have more := orders.before_of_before left right reached
  -- The first element itself is counted for the second one only.
  obtain ⟨before, after, rfl⟩ := List.append_of_mem left
  have early := List.countP_mono_left fun c member => more c (List.mem_append_left _ member)
  have late := List.countP_mono_left fun c member =>
    more c (List.mem_append_right _ (List.mem_cons_of_mem a member))
  simp only [rank, List.countP_append, List.countP_cons, self, strict] at early late ⊢
  simp only [Bool.not_true, Bool.not_false, if_true, Bool.false_eq_true, if_false]
  omega

theorem of_rank_eq (orders : Orders le values) (left : a ∈ values) (right : b ∈ values)
    (same : rank le values a = rank le values b) : le a b = true := by
  by_contra strict
  have less := orders.rank_lt right left (by simpa using strict)
  omega

theorem forall₂_of_perm (orders : Orders le values) {first second : List α} (left : first.Perm values)
    (right : second.Perm values) (up : first.Pairwise fun a b => le a b = true)
    (up' : second.Pairwise fun a b => le a b = true) :
    List.Forall₂ (fun a b => le a b = true ∧ le b a = true) first second := by
  -- The ranks of a sorted list rise, and two rising lists of the same numbers are one list.
  have rises : ∀ {list : List α}, list.Perm values → (list.Pairwise fun a b => le a b = true) →
      (list.map (rank le values)).Pairwise (· ≤ ·) := by
    intro list perm sorted
    rw [List.pairwise_map]
    exact sorted.imp_of_mem fun first second reached =>
      orders.rank_le (perm.mem_iff.mp first) (perm.mem_iff.mp second) reached
  have same : first.map (rank le values) = second.map (rank le values) :=
    ((left.trans right.symm).map _).eq_of_pairwise (fun _ _ _ _ => Nat.le_antisymm)
      (rises left up) (rises right up')
  have lengths : first.length = second.length := (left.trans right.symm).length_eq
  rw [List.forall₂_iff_get]
  refine ⟨lengths, fun i inFirst inSecond => ?_⟩
  have member := left.mem_iff.mp (List.get_mem first ⟨i, inFirst⟩)
  have member' := right.mem_iff.mp (List.get_mem second ⟨i, inSecond⟩)
  have equal : rank le values (first.get ⟨i, inFirst⟩) = rank le values (second.get ⟨i, inSecond⟩) := by
    have at_i := congrArg (fun ranks => ranks[i]?) same
    simpa [inFirst, inSecond] using at_i
  exact ⟨orders.of_rank_eq member member' equal, orders.of_rank_eq member' member equal.symm⟩

theorem pairwise_mergeSort (orders : Orders le values) : (values.mergeSort le).Pairwise fun a b => le a b = true := by
  -- On the type of the list's elements the comparison is a total preorder outright.
  let reaches : {a // a ∈ values} → {a // a ∈ values} → Bool := fun a b => le a.1 b.1
  have merged : (values.attach.mergeSort reaches).map Subtype.val = values.mergeSort le := by
    rw [List.map_mergeSort (s := le) fun a _ b _ => rfl, List.attach_map_subtype_val]
  have sorted : (values.attach.mergeSort reaches).Pairwise fun a b => reaches a b = true := by
    apply List.pairwise_mergeSort
    · intro a b c first second
      exact orders.trans a.1 a.2 b.1 b.2 c.1 c.2 first second
    · intro a b
      simpa [reaches] using orders.total a.1 a.2 b.1 b.2
  rw [← merged, List.pairwise_map]
  exact sorted

end Orders

end CNShell
