import Mathlib.Data.List.Infix

/-! A stream on its way through a buffer: what is left of it, what is held, and what was given on. -/

namespace CNShell

/-- How far a stream has come; nothing of it is lost, repeated or put in another place. -/
structure Conduit {α : Type u} (stream : List α) where
  /-- What was not read yet. -/
  left : List α
  /-- What was read, and not written yet. -/
  held : List α
  /-- What was written. -/
  given : List α
  whole : given ++ (held ++ left) = stream

namespace Conduit

variable {α : Type u} {stream : List α}

/-- Nothing of a stream was read yet. -/
def start (stream : List α) : Conduit stream := ⟨stream, [], [], rfl⟩

/-- Some more of the stream is read. -/
def read (conduit : Conduit stream) (count : Nat) : Conduit stream where
  left := conduit.left.drop count
  held := conduit.held ++ conduit.left.take count
  given := conduit.given
  whole := by
    rw [List.append_assoc, List.take_append_drop]
    exact conduit.whole

/-- Some of what is held is written. -/
def write (conduit : Conduit stream) (count : Nat) : Conduit stream where
  left := conduit.left
  held := conduit.held.drop count
  given := conduit.given ++ conduit.held.take count
  whole := by
    rw [List.append_assoc, ← List.append_assoc (conduit.held.take count), List.take_append_drop]
    exact conduit.whole

/-- What was read of the stream. -/
def taken (conduit : Conduit stream) : List α := stream.take (stream.length - conduit.left.length)

/-- What was not written yet, read or not. -/
def rest (conduit : Conduit stream) : List α := conduit.held ++ conduit.left

section Fields

variable (conduit : Conduit stream) (count : Nat)

@[simp] theorem left_read : (conduit.read count).left = conduit.left.drop count := rfl

@[simp] theorem held_read : (conduit.read count).held = conduit.held ++ conduit.left.take count := rfl

@[simp] theorem left_write : (conduit.write count).left = conduit.left := rfl

@[simp] theorem held_write : (conduit.write count).held = conduit.held.drop count := rfl

@[simp] theorem rest_read : (conduit.read count).rest = conduit.rest := by
  rw [rest, rest, held_read, left_read, List.append_assoc, List.take_append_drop]

theorem rest_write (fits : count ≤ conduit.held.length) : (conduit.write count).rest = conduit.rest.drop count :=
  (List.drop_append_of_le_length fits).symm

theorem rest_write_eq_nil (fits : count ≤ conduit.held.length) :
    (conduit.write count).rest = [] ↔ count = conduit.rest.length := by
  have most : count ≤ conduit.rest.length := fits.trans (by simp [rest])
  rw [rest_write conduit count fits, List.drop_eq_nil_iff]
  omega

end Fields

variable {conduit : Conduit stream}

theorem taken_eq (conduit : Conduit stream) : conduit.taken = conduit.given ++ conduit.held := by
  -- The length of what is left says where it begins.
  have split : ∀ front back whole : List α, front ++ back = whole → whole.take (whole.length - back.length) = front := by
    rintro front back _ rfl
    simp
  exact split _ _ _ ((List.append_assoc _ _ _).trans conduit.whole)

theorem given_prefix (conduit : Conduit stream) : conduit.given <+: conduit.taken :=
  ⟨conduit.held, conduit.taken_eq.symm⟩

theorem given_eq_iff : conduit.given = stream ↔ conduit.rest = [] := by
  have split : ∀ front back whole : List α, front ++ back = whole → (front = whole ↔ back = []) := by
    rintro front back _ rfl
    exact List.self_eq_append_right
  exact split _ _ _ conduit.whole

end Conduit

end CNShell
