import Mathlib.Algebra.Ring.Int.Defs
import Mathlib.Algebra.Ring.Nat

/-! Casts between the signed and unsigned 64-bit readings of one machine word. -/

namespace CNShell

/-- The integers a signed 64-bit word can hold. -/
def InI64 (value : Int) : Prop := -2 ^ 63 ≤ value ∧ value < 2 ^ 63

instance (value : Int) : Decidable (InI64 value) := inferInstanceAs (Decidable (_ ∧ _))

/-- The cast `as u64` of a signed word, which keeps its bits. -/
def asU64 (value : Int) : UInt64 := UInt64.ofNat (value % 2 ^ 64).toNat

/-- The cast `as i64` of an unsigned word, which keeps its bits. -/
def asI64 (word : UInt64) : Int := if word.toNat < 2 ^ 63 then word.toNat else word.toNat - 2 ^ 64

theorem toNat_asU64 (value : Int) : ((asU64 value).toNat : Int) = value % 2 ^ 64 := by
  -- The remainder is below the word size, so storing it loses nothing.
  unfold asU64
  rw [UInt64.toNat_ofNat']
  omega

theorem toNat_asU64_of_nonneg {value : Int} (low : 0 ≤ value) (high : value < 2 ^ 64) :
    ((asU64 value).toNat : Int) = value := by
  rw [toNat_asU64, Int.emod_eq_of_lt low high]

@[simp] theorem asU64_asI64 (word : UInt64) : asU64 (asI64 word) = word := by
  -- Both readings are congruent modulo the word size.
  apply UInt64.toNat_inj.mp
  have below : word.toNat < 2 ^ 64 := word.toNat_lt
  have read := toNat_asU64 (asI64 word)
  have congruent : asI64 word = word.toNat ∨ asI64 word = word.toNat - 2 ^ 64 := by
    unfold asI64
    split <;> simp
  omega

theorem asI64_asU64 {value : Int} (fits : InI64 value) : asI64 (asU64 value) = value := by
  have read := toNat_asU64 value
  obtain ⟨low, high⟩ := fits
  unfold asI64
  split <;> omega

theorem toNat_asU64_succ {value : Int} (room : (asU64 value).toNat + 1 < 2 ^ 64) :
    (asU64 (value + 1)).toNat = (asU64 value).toNat + 1 := by
  have before := toNat_asU64 value
  have after := toNat_asU64 (value + 1)
  omega

end CNShell
