import Mathlib.Algebra.Order.Ring.Int

/-! Decimal numbers as they are read from texts. -/

namespace CNShell

/-- The number some digits stand for, and none where there are no digits or another character. -/
def parseDigits (digits : List Char) : Option Nat :=
  if digits ≠ [] ∧ (digits.all fun digit => decide ('0' ≤ digit ∧ digit ≤ '9')) = true then
    some (digits.foldl (fun value digit => value * 10 + (digit.toNat - '0'.toNat)) 0)
  else none

/-- The digits of a number that may have a plus sign. -/
def unsigned : List Char → List Char
  | '+' :: digits => digits
  | digits => digits

/-- The number of 64 bits without a sign that a text stands for. -/
def parseU64 (value : String) : Option Nat :=
  (parseDigits (unsigned value.toList)).filter fun number => number < 2 ^ 64

/-- The number of 64 bits with a sign that a text stands for. -/
def parseI64 (value : String) : Option Int :=
  match value.toList with
  | '-' :: digits => ((parseDigits digits).filter fun number => number ≤ 2 ^ 63).map fun number => -(number : Int)
  | digits => ((parseDigits (unsigned digits)).filter fun number => number < 2 ^ 63).map fun number => (number : Int)

theorem parseI64_of_parseU64 {value : String} {number : Nat} (read : parseU64 value = some number)
    (small : number < 2 ^ 63) : parseI64 value = some (number : Int) := by
  obtain ⟨digits, -⟩ := Option.filter_eq_some_iff.mp read
  unfold parseI64
  split
  · next negative =>
    -- A minus sign is no digit.
    rw [negative] at digits
    simp [unsigned, parseDigits] at digits
  · have kept : (some number).filter (fun number => decide (number < 2 ^ 63)) = some number :=
      Option.filter_eq_some_iff.mpr ⟨rfl, decide_eq_true small⟩
    rw [digits, kept]
    rfl

example : parseI64 "-60" = some (-60) := by decide

end CNShell
