import Mathlib.Data.List.Nodup
import Mathlib.Logic.Function.Basic

/-! A function that is changed at the keys of a list, one key after the other. -/

namespace CNShell

section Updates

variable {α : Type u} {κ : Type v} {β : Type w} [DecidableEq κ]

/-- A function after each item of a list has changed its value at the item's key. -/
def updates (key : α → κ) (change : α → β → β) (items : List α) (values : κ → β) : κ → β :=
  items.foldl (fun values item => Function.update values (key item) (change item (values (key item)))) values

variable {key : α → κ} {change : α → β → β} {items : List α} {values : κ → β}

@[simp] theorem updates_nil : updates key change [] values = values := rfl

@[simp] theorem updates_cons (item : α) : updates key change (item :: items) values =
    updates key change items (Function.update values (key item) (change item (values (key item)))) := rfl

theorem updates_of_not_mem {place : κ} (absent : place ∉ items.map key) :
    updates key change items values place = values place := by
  induction items generalizing values with
  | nil => rfl
  | cons first rest ih =>
    simp only [List.map_cons, List.mem_cons, not_or] at absent
    rw [updates_cons, ih absent.2, Function.update_of_ne absent.1]

theorem updates_of_mem (distinct : (items.map key).Nodup) {item : α} (member : item ∈ items) :
    updates key change items values (key item) = change item (values (key item)) := by
  induction items generalizing values with
  | nil => cases member
  | cons first rest ih =>
    obtain ⟨fresh, distinct⟩ := List.nodup_cons.mp distinct
    rcases List.mem_cons.mp member with rfl | later
    · -- The items behind the first one have other keys.
      rw [updates_cons, updates_of_not_mem fresh, Function.update_self]
    · have other : key item ≠ key first := fun same => fresh (same ▸ List.mem_map_of_mem later)
      rw [updates_cons, ih distinct later, Function.update_of_ne other]

theorem updates_apply (place : κ) : updates key change items values place =
    (items.filter fun item => key item = place).foldl (fun value item => change item value) (values place) := by
  induction items generalizing values with
  | nil => rfl
  | cons first rest ih =>
    rw [updates_cons, ih]
    by_cases here : key first = place
    · rw [List.filter_cons_of_pos (by simpa using here), List.foldl_cons, ← here, Function.update_self]
    · rw [List.filter_cons_of_neg (by simpa using here), Function.update_of_ne (Ne.symm here)]

theorem updates_holds (holds : β → Prop) (each : ∀ item value, holds (change item value)) {place : κ}
    (member : place ∈ items.map key) : holds (updates key change items values place) := by
  induction items generalizing values with
  | nil => cases member
  | cons first rest ih =>
    rw [updates_cons]
    by_cases later : place ∈ rest.map key
    · exact ih later
    · -- The first item is the last one with this key.
      obtain rfl : place = key first := (List.mem_cons.mp member).resolve_right later
      rw [updates_of_not_mem later, Function.update_self]
      exact each _ _

end Updates

end CNShell
