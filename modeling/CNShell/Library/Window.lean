import Mathlib.Data.List.Infix
import Mathlib.Data.List.Nodup

/-! Lists of rows with consecutive numbers, and the filters that cut a piece off one end of a list. -/

namespace CNShell

/-- The rows carry consecutive numbers from a first one up to, but not including, a next one. -/
inductive Consecutive {ρ : Type u} (number : ρ → Int) : Int → List ρ → Int → Prop
  | nil (next : Int) : Consecutive number next [] next
  | cons {row : ρ} {first next : Int} {rest : List ρ} (numbered : number row = first)
      (tail : Consecutive number (first + 1) rest next) : Consecutive number first (row :: rest) next

namespace Consecutive

variable {ρ : Type u} {number : ρ → Int} {first middle next : Int} {rows front back : List ρ}

theorem next_eq (window : Consecutive number first rows next) : next = first + rows.length := by
  induction window with
  | nil => simp
  | cons numbered tail ih =>
    simp only [List.length_cons]
    omega

theorem map_number (window : Consecutive number first rows next) :
    rows.map number = (List.range rows.length).map fun (i : Nat) => first + i := by
  induction window with
  | nil => rfl
  | cons numbered tail ih =>
    rw [List.map_cons, ih, numbered, List.length_cons, List.range_succ_eq_map, List.map_cons,
      List.map_map, Int.natCast_zero, Int.add_zero]
    -- Both tails count on from one more than the first number.
    congr 1
    refine List.map_congr_left fun i _ => ?_
    simp only [Function.comp_apply, Nat.succ_eq_add_one, Int.natCast_add, Int.natCast_one]
    omega

theorem bounds (window : Consecutive number first rows next) {row : ρ} (member : row ∈ rows) :
    first ≤ number row ∧ number row < next := by
  induction window with
  | nil => exact absurd member List.not_mem_nil
  | cons numbered tail ih =>
    have length := tail.next_eq
    -- The row is the first one, or it lies in the window that starts one later.
    rcases List.mem_cons.mp member with rfl | later
    · omega
    · have inside := ih later
      omega

theorem append (window : Consecutive number first front middle)
    (following : Consecutive number middle back next) :
    Consecutive number first (front ++ back) next := by
  induction window with
  | nil => exact following
  | cons numbered tail ih => exact .cons numbered (ih following)

theorem snoc (window : Consecutive number first rows next) {row : ρ} (numbered : number row = next) :
    Consecutive number first (rows ++ [row]) (next + 1) :=
  window.append (.cons numbered (.nil _))

theorem split (window : Consecutive number first (front ++ back) next) :
    ∃ middle, Consecutive number first front middle ∧ Consecutive number middle back next := by
  induction front generalizing first with
  | nil => exact ⟨first, .nil first, window⟩
  | cons row rest ih =>
    cases window with
    | cons numbered tail =>
      obtain ⟨middle, before, after⟩ := ih tail
      exact ⟨middle, .cons numbered before, after⟩

theorem suffix (window : Consecutive number first rows next) (cut : back <:+ rows) :
    ∃ middle, Consecutive number middle back next := by
  obtain ⟨front, rfl⟩ := cut
  obtain ⟨middle, -, after⟩ := window.split
  exact ⟨middle, after⟩

theorem initial (window : Consecutive number first rows next) (cut : front <+: rows) :
    ∃ middle, Consecutive number first front middle := by
  obtain ⟨back, rfl⟩ := cut
  obtain ⟨middle, before, -⟩ := window.split
  exact ⟨middle, before⟩

theorem head (window : Consecutive number first rows next) {row : ρ}
    (found : rows.head? = some row) : number row = first := by
  cases window with
  | nil => cases found
  | cons numbered tail => exact Option.some.inj found ▸ numbered

theorem last (window : Consecutive number first rows next) {row : ρ}
    (found : rows.getLast? = some row) : number row + 1 = next := by
  induction window with
  | nil => cases found
  | @cons row first next rest numbered tail ih =>
    -- The last row is the first one only when nothing follows it.
    cases rest with
    | nil =>
      cases tail
      obtain rfl := Option.some.inj found
      simpa using numbered
    | cons following rest => exact ih (by simpa using found)

theorem map_eq_range' {count : ρ → Nat}
    (window : Consecutive (fun row => (count row : Int)) first rows next) :
    rows.map count = List.range' first.toNat rows.length := by
  induction window with
  | nil => rfl
  | cons numbered tail ih =>
    rw [List.map_cons, List.length_cons, List.range'_succ, ← numbered, Int.toNat_natCast]
    refine congrArg (List.cons _) (ih.trans ?_)
    rw [← numbered]
    rfl

theorem eq_range' {numbers : List Nat}
    (window : Consecutive (fun number : Nat => (number : Int)) first numbers next) :
    numbers = List.range' first.toNat numbers.length := by
  have range := @map_eq_range' _ _ _ _ id window
  rwa [List.map_id] at range

theorem cut (window : Consecutive number first rows next) {middle : Int} (above : first ≤ middle)
    (below : middle ≤ next) :
    ∃ front back, rows = front ++ back ∧ Consecutive number first front middle ∧
      Consecutive number middle back next := by
  have length := window.next_eq
  obtain ⟨cut, before, after⟩ : ∃ cut,
      Consecutive number first (rows.take (middle - first).toNat) cut ∧
      Consecutive number cut (rows.drop (middle - first).toNat) next := by
    rw [← List.take_append_drop (middle - first).toNat rows] at window
    exact window.split
  have place := before.next_eq
  rw [List.length_take] at place
  -- The cut lies as many rows behind the first number as the middle does.
  obtain rfl : cut = middle := by omega
  exact ⟨_, _, (List.take_append_drop _ _).symm, before, after⟩

end Consecutive

section Cuts

variable {α : Type u} {rows : List α} {keep : α → Bool}

theorem filter_suffix (upward : rows.Pairwise fun earlier later => keep earlier = true → keep later = true) :
    rows.filter keep <:+ rows := by
  induction upward with
  | nil => exact List.suffix_rfl
  | @cons row rest later _ ih =>
    cases kept : keep row with
    | true =>
      -- Once a row is kept, the whole rest is.
      rw [List.filter_eq_self.mpr]
      intro other member
      rcases List.mem_cons.mp member with rfl | after
      · exact kept
      · exact later other after kept
    | false =>
      rw [List.filter_cons_of_neg (by simp [kept])]
      exact ih.trans (List.suffix_cons row rest)

theorem filter_initial (downward : rows.Pairwise fun earlier later => keep later = true → keep earlier = true) :
    rows.filter keep <+: rows := by
  induction downward with
  | nil => exact List.prefix_rfl
  | @cons row rest later _ ih =>
    cases kept : keep row with
    | true =>
      rw [List.filter_cons_of_pos kept]
      exact (List.prefix_cons_inj row).mpr ih
    | false =>
      -- Once a row is dropped, the whole rest is.
      have none : rest.filter keep = [] := by
        refine List.filter_eq_nil_iff.mpr fun other member kept' => ?_
        have impossible := later other member kept'
        simp [kept] at impossible
      rw [List.filter_cons_of_neg (by simp [kept]), none]
      exact List.nil_prefix

theorem filter_mem_back {κ : Type v} [DecidableEq κ] {key : α → κ} {front back : List α}
    (unique : ((front ++ back).map key).Nodup) :
    (front ++ back).filter (fun row => decide (key row ∈ back.map key)) = back := by
  rw [List.map_append, List.nodup_append] at unique
  obtain ⟨-, -, apart⟩ := unique
  rw [List.filter_append, List.filter_eq_nil_iff.mpr, List.nil_append, List.filter_eq_self.mpr]
  · exact fun row member => decide_eq_true (List.mem_map_of_mem member)
  · intro row member kept
    exact apart _ (List.mem_map_of_mem member) _ (of_decide_eq_true kept) rfl

theorem filter_not_mem_front {κ : Type v} [DecidableEq κ] {key : α → κ} {front back : List α}
    (unique : ((front ++ back).map key).Nodup) :
    (front ++ back).filter (fun row => !decide (key row ∈ front.map key)) = back := by
  rw [List.map_append, List.nodup_append] at unique
  obtain ⟨-, -, apart⟩ := unique
  rw [List.filter_append, List.filter_eq_nil_iff.mpr, List.nil_append, List.filter_eq_self.mpr]
  · intro row member
    have absent : key row ∉ front.map key := fun held =>
      apart _ held _ (List.mem_map_of_mem member) rfl
    simp [absent]
  · intro row member kept
    simp [List.mem_map_of_mem member] at kept

end Cuts

end CNShell
