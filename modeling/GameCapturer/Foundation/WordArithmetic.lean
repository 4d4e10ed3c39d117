import Mathlib.Tactic.Ring

/-!
# Exact ranges of fixed-width integer arithmetic

C integer expressions are modelled by Lean's fixed-width types, whose products
and sums wrap.  This module states when a wrapping operation returns the exact
mathematical value, and what the usual conversions do to that value: promotion
of a 16-bit operand, sign extension to 64 bits, and truncation to an unsigned
32-bit word.
-/

namespace Foundation

namespace WordArithmetic

/-- The least value of a 32-bit signed integer. -/
def intMin : Int := -2147483648

/-- The greatest value of a 32-bit signed integer. -/
def intMax : Int := 2147483647

/-- A mathematical integer is representable as a 32-bit signed integer. -/
def FitsInt (value : Int) : Prop :=
  intMin ≤ value ∧ value ≤ intMax

instance (value : Int) : Decidable (FitsInt value) :=
  inferInstanceAs (Decidable (_ ∧ _))

/-- The signed product leaves the 32-bit range. -/
def MulOverflows (left right : Int32) : Prop :=
  ¬ FitsInt (left.toInt * right.toInt)

instance (left right : Int32) : Decidable (MulOverflows left right) :=
  inferInstanceAs (Decidable (¬ _))

/-- Balanced reduction does not move a representable value. -/
theorem bmod_of_fitsInt
    {value : Int}
    (fits : FitsInt value) :
    value.bmod (2 ^ 32) = value := by
  unfold FitsInt intMin intMax at fits
  exact Int.bmod_eq_of_le_mul_two (by omega) (by omega)

/-- A signed product that does not overflow is exact. -/
theorem toInt_mul_of_fitsInt
    {left right : Int32}
    (fits : FitsInt (left.toInt * right.toInt)) :
    (left * right).toInt = left.toInt * right.toInt := by
  rw [Int32.toInt_mul, bmod_of_fitsInt fits]

/-- A signed sum that does not overflow is exact. -/
theorem toInt_add_of_fitsInt
    {left right : Int32}
    (fits : FitsInt (left.toInt + right.toInt)) :
    (left + right).toInt = left.toInt + right.toInt := by
  rw [Int32.toInt_add, bmod_of_fitsInt fits]

/-- Converting a representable natural number to a signed integer is exact. -/
theorem toInt_ofNat_of_le
    {value : Nat}
    (small : (value : Int) ≤ intMax) :
    (Int32.ofNat value).toInt = value := by
  rw [Int32.toInt_ofNat']
  exact bmod_of_fitsInt
    ⟨by unfold intMin; omega, small⟩

/-- An unsigned product below `2 ^ 32` is exact. -/
theorem toNat_mul_of_lt
    {left right : UInt32}
    (small : left.toNat * right.toNat < 2 ^ 32) :
    (left * right).toNat = left.toNat * right.toNat := by
  rw [UInt32.toNat_mul, Nat.mod_eq_of_lt small]

/-- An unsigned word below `2 ^ 31` keeps its value as a signed integer. -/
theorem toInt_toInt32_of_lt
    {value : UInt32}
    (small : value.toNat < 2 ^ 31) :
    value.toInt32.toInt = value.toNat := by
  have word :
      value.toInt32.toInt = (value.toNat : Int).bmod (2 ^ 32) :=
    BitVec.toInt_eq_toNat_bmod _
  rw [word]
  exact bmod_of_fitsInt
    ⟨by unfold intMin; omega, by unfold intMax; omega⟩

/-- An unsigned word from `2 ^ 31` on is negative as a signed integer. -/
theorem toInt_toInt32_neg_of_le
    {value : UInt32}
    (large : 2 ^ 31 ≤ value.toNat) :
    value.toInt32.toInt < 0 := by
  have word :
      value.toInt32.toInt = (value.toNat : Int).bmod (2 ^ 32) :=
    BitVec.toInt_eq_toNat_bmod _
  have bound : value.toNat < 2 ^ 32 := value.toNat_lt
  rw [Int.bmod_def] at word
  split at word <;> omega

/-- Integer promotion of an unsigned 16-bit operand. -/
def promote (value : UInt16) : Int32 :=
  value.toUInt32.toInt32

/-- Promotion keeps the value. -/
@[simp] theorem toInt_promote (value : UInt16) :
    (promote value).toInt = value.toNat := by
  have small : value.toNat < 2 ^ 16 := value.toNat_lt
  have shape : promote value = Int32.ofNat value.toNat := by
    rw [promote, ← UInt32.toInt32_ofNat', UInt32.ofNat_uInt16ToNat]
  rw [shape]
  exact toInt_ofNat_of_le (by unfold intMax; omega)

/-- Conversion of a signed integer to an unsigned 64-bit word. -/
def signExtend (value : Int32) : UInt64 :=
  value.toInt64.toUInt64

/-- Sign extension keeps a nonnegative value. -/
theorem toNat_signExtend_of_nonneg
    {value : Int32}
    (nonnegative : 0 ≤ value.toInt) :
    ((signExtend value).toNat : Int) = value.toInt := by
  have upper := value.toInt_lt
  have extended : value.toInt64.toInt = value.toInt :=
    Int32.toInt_toInt64 value
  have word : value.toInt64.toInt =
      ((signExtend value).toNat : Int).bmod (2 ^ 64) := by
    rw [signExtend]
    exact BitVec.toInt_eq_toNat_bmod _
  have bound : (signExtend value).toNat < 2 ^ 64 :=
    (signExtend value).toNat_lt
  rw [extended] at word
  rw [Int.bmod_def] at word
  split at word <;> omega

/-- Sign extension makes a negative value one of the largest words. -/
theorem le_toNat_signExtend_of_neg
    {value : Int32}
    (negative : value.toInt < 0) :
    2 ^ 64 - 2 ^ 31 ≤ (signExtend value).toNat := by
  have lower := value.le_toInt
  have extended : value.toInt64.toInt = value.toInt :=
    Int32.toInt_toInt64 value
  have word : value.toInt64.toInt =
      ((signExtend value).toNat : Int).bmod (2 ^ 64) := by
    rw [signExtend]
    exact BitVec.toInt_eq_toNat_bmod _
  have bound : (signExtend value).toNat < 2 ^ 64 :=
    (signExtend value).toNat_lt
  rw [extended] at word
  rw [Int.bmod_def] at word
  split at word <;> omega

/-- Conversion of a signed integer to an unsigned 32-bit word. -/
def truncate (value : Int32) : UInt32 :=
  value.toUInt32

/-- Truncation keeps a nonnegative value. -/
theorem toNat_truncate_of_nonneg
    {value : Int32}
    (nonnegative : 0 ≤ value.toInt) :
    ((truncate value).toNat : Int) = value.toInt := by
  have upper := value.toInt_lt
  have word : value.toInt =
      ((truncate value).toNat : Int).bmod (2 ^ 32) := by
    rw [truncate]
    exact BitVec.toInt_eq_toNat_bmod _
  have bound : (truncate value).toNat < 2 ^ 32 :=
    (truncate value).toNat_lt
  rw [Int.bmod_def] at word
  split at word <;> omega

end WordArithmetic

end Foundation
