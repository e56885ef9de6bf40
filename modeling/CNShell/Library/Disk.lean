import Mathlib.Data.List.Infix

/-! Trees of directories: the entries of a disk, each under the names that lead to it. -/

namespace CNShell

/-- The entries of a tree of directories, each at the names that lead to it. -/
abbrev Disk (ν : Type u) (κ : Type v) := List (List ν × κ)

namespace Disk

/-- Neither of two places lies at or below the other. -/
structure Apart {ν : Type u} (first second : List ν) : Prop where
  left : ¬first <+: second
  right : ¬second <+: first

section Apart

variable {ν : Type u} {first second below : List ν}

theorem Apart.symm (apart : Apart first second) : Apart second first := ⟨apart.right, apart.left⟩

theorem Apart.not_prefix (apart : Apart first second) : ¬first <+: second ++ below := fun leads =>
  (List.prefix_or_prefix_of_prefix leads (List.prefix_append second below)).elim apart.left apart.right

theorem Apart.append (apart : Apart first second) : Apart (first ++ below) second where
  left leads := apart.left ((List.prefix_append _ _).trans leads)
  right := apart.symm.not_prefix

theorem apart_of_ne {directory : List ν} {name other : ν} (differ : name ≠ other) :
    Apart (directory ++ [name]) (directory ++ [other]) := by
  constructor <;> simp [List.prefix_append_right_inj, differ, Ne.symm differ]

end Apart

variable {ν : Type u} {κ : Type v} [DecidableEq ν]

/-- The entry at a place. -/
def find (disk : Disk ν κ) (place : List ν) : Option κ :=
  (List.find? (fun entry => decide (entry.1 = place)) disk).map Prod.snd

/-- What is found at the places below one, the place itself included. -/
def tree (disk : Disk ν κ) (place : List ν) : List ν → Option κ := fun below => disk.find (place ++ below)

/-- A disk without what is at a place and below it. -/
def prune (disk : Disk ν κ) (place : List ν) : Disk ν κ := List.filter (fun entry => !decide (place <+: entry.1)) disk

/-- What is at a place and below it, as a disk of its own. -/
def branch (disk : Disk ν κ) (place : List ν) : Disk ν κ :=
  List.filterMap (fun entry =>
    if place <+: entry.1 then some (entry.1.drop place.length, entry.2) else none) disk

/-- A disk with another one at a place. -/
def graft (disk : Disk ν κ) (place : List ν) (other : Disk ν κ) : Disk ν κ :=
  List.map (fun entry => (place ++ entry.1, entry.2)) other ++ disk.prune place

/-- A disk with what was at one place at another one. -/
def move (disk : Disk ν κ) (source target : List ν) : Disk ν κ :=
  (disk.prune source).graft target (disk.branch source)

/-- A disk with one entry set. -/
def put (disk : Disk ν κ) (place : List ν) (entry : κ) : Disk ν κ := (place, entry) :: disk

/-- A disk with one entry removed. -/
def erase (disk : Disk ν κ) (place : List ν) : Disk ν κ := List.filter (fun entry => !decide (entry.1 = place)) disk

/-- The names of the entries of a directory. -/
def children (disk : Disk ν κ) (place : List ν) : List ν :=
  (List.filterMap (fun entry =>
    if place <+: entry.1 then (match entry.1.drop place.length with
      | [name] => some name
      | _ => none) else none) disk).dedup

/-- Nothing is below a place. -/
def Bare (disk : Disk ν κ) (place : List ν) : Prop := ∀ entry ∈ disk, place <+: entry.1 → entry.1 = place

instance (disk : Disk ν κ) (place : List ν) : Decidable (disk.Bare place) :=
  inferInstanceAs (Decidable (∀ entry ∈ disk, place <+: entry.1 → entry.1 = place))

section Find

variable {disk : Disk ν κ} {place other : List ν}

@[simp] theorem find_nil : find ([] : Disk ν κ) place = none := rfl

theorem find_cons (entry : List ν × κ) :
    find (entry :: disk) place = if entry.1 = place then some entry.2 else find disk place := by
  by_cases here : entry.1 = place <;> simp [find, here]

@[simp] theorem find_put {entry : κ} :
    (disk.put place entry).find other = if place = other then some entry else disk.find other :=
  find_cons (place, entry)

theorem find_filter {keeps : List ν → Bool} :
    find (List.filter (fun entry => keeps entry.1) disk) place = if keeps place then disk.find place else none := by
  induction disk with
  | nil => simp
  | cons entry rest ih =>
    rw [List.filter_cons, find_cons]
    by_cases here : entry.1 = place
    · -- The entry in front is the one looked for, so whether it is kept decides.
      subst here
      cases kept : keeps entry.1 with
      | true => simp [find_cons]
      | false => simpa [kept] using ih
    · cases kept : keeps entry.1 <;> simp [find_cons, here, ih]

@[simp] theorem find_prune : (disk.prune place).find other = if place <+: other then none else disk.find other := by
  rw [prune, @find_filter _ _ _ _ _ fun here => !decide (place <+: here)]
  by_cases below : place <+: other <;> simp [below]

@[simp] theorem find_erase : (disk.erase place).find other = if other = place then none else disk.find other := by
  rw [erase, @find_filter _ _ _ _ _ fun here => !decide (here = place)]
  by_cases same : other = place <;> simp [same]

@[simp] theorem find_branch : (disk.branch place).find other = disk.find (place ++ other) := by
  induction disk with
  | nil => rfl
  | cons entry rest ih =>
    rw [find_cons, ← ih]
    by_cases below : place <+: entry.1
    · obtain ⟨names, whole⟩ := below
      have kept : branch (entry :: rest) place = (names, entry.2) :: branch rest place := by
        simp [branch, ← whole]
      rw [kept, find_cons, ← whole]
      simp
    · have dropped : branch (entry :: rest) place = branch rest place := by simp [branch, below]
      have differ : entry.1 ≠ place ++ other := fun same => below (same ▸ List.prefix_append _ _)
      rw [dropped, if_neg differ]

@[simp] theorem find_graft {added : Disk ν κ} :
    (disk.graft place added).find other =
      if place <+: other then added.find (other.drop place.length) else disk.find other := by
  rw [graft]
  -- The entries added come first, each under the place.
  induction added with
  | nil => simp
  | cons entry rest ih =>
    rw [List.map_cons, List.cons_append, find_cons, ih, find_cons]
    by_cases below : place <+: other
    · obtain ⟨names, rfl⟩ := below
      simp
    · have differ : place ++ entry.1 ≠ other := fun same => below (same ▸ List.prefix_append _ _)
      simp [below, differ]

@[simp] theorem find_move {source target : List ν} :
    (disk.move source target).find other =
      if target <+: other then disk.find (source ++ other.drop target.length)
      else if source <+: other then none else disk.find other := by
  rw [move, find_graft, find_branch, find_prune]

section Elsewhere

variable {source target : List ν} {entry : κ} {added : Disk ν κ}

theorem find_put_of_not (elsewhere : ¬place <+: other) : (disk.put place entry).find other = disk.find other := by
  rw [find_put, if_neg]
  rintro rfl
  exact elsewhere List.prefix_rfl

theorem find_erase_of_not (elsewhere : ¬place <+: other) : (disk.erase place).find other = disk.find other := by
  rw [find_erase, if_neg]
  rintro rfl
  exact elsewhere List.prefix_rfl

theorem find_graft_of_not (elsewhere : ¬place <+: other) : (disk.graft place added).find other = disk.find other := by
  rw [find_graft, if_neg elsewhere]

theorem find_move_of_not (old : ¬source <+: other) (new : ¬target <+: other) :
    (disk.move source target).find other = disk.find other := by
  rw [find_move, if_neg new, if_neg old]

end Elsewhere

theorem Bare.find (bare : disk.Bare place) {below : List ν} (proper : below ≠ []) :
    disk.find (place ++ below) = none := by
  rw [Disk.find, Option.map_eq_none_iff, List.find?_eq_none]
  intro entry member same
  have here : entry.1 = place ++ below := by simpa using same
  have only := bare entry member (here ▸ List.prefix_append _ _)
  exact proper (by simpa [only] using here)

end Find

section Tree

variable {disk added : Disk ν κ} {place other : List ν}

theorem tree_congr {changed : Disk ν κ} (same : ∀ names, place <+: names → changed.find names = disk.find names) :
    changed.tree place = disk.tree place :=
  funext fun _ => same _ (List.prefix_append _ _)

@[simp] theorem tree_graft_self : (disk.graft place added).tree place = added.tree [] := by
  funext below
  simp [tree]

@[simp] theorem tree_move_target {source target : List ν} :
    (disk.move source target).tree target = disk.tree source := by
  funext below
  simp [tree]

theorem tree_move_source {source target : List ν} (apart : Apart target source) :
    (disk.move source target).tree source = fun _ => none := by
  funext below
  simp [tree, apart.not_prefix]

theorem tree_move_apart {source target : List ν} (old : Apart source other) (new : Apart target other) :
    (disk.move source target).tree other = disk.tree other := by
  funext below
  simp [tree, old.not_prefix, new.not_prefix]

theorem tree_nil : disk.tree place [] = disk.find place := by simp [tree]

@[simp] theorem tree_branch : (disk.branch place).tree [] = disk.tree place := by
  funext below
  simp [tree]

end Tree

end Disk

end CNShell
