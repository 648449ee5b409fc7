import Mathlib.Data.List.Basic

/-!
# `Idx` and `size_t`

chatd.h numbers the messages of a chat by `typedef int32_t Idx` and sizes its vectors by
`size_t`. Both are modelled over `Int` and `Nat`: an `Idx` is an integer in the 32-bit signed
range, `wrap` is the two's-complement truncation an expression undergoes when it is stored as
an `Idx`, and `toSize` is the sign extension an `Idx` undergoes when C++ compares it with a
vector's `size()`. Signed overflow in `int` arithmetic is taken to wrap like the stores do.
-/

namespace MegaChat

/-- A value of `Idx`, that is of `int32_t`. -/
structure Idx where
  val : Int
  ge_min : -2147483648 ≤ val
  le_max : val ≤ 2147483647
  deriving DecidableEq

namespace Idx

/-- The `Idx` an integer is stored as: its residue modulo `2^32` in `[-2^31, 2^31)`. -/
def wrap (x : Int) : Idx :=
  ⟨(x + 2147483648) % 4294967296 - 2147483648, by omega, by omega⟩

/-- An `Idx` converted to `size_t`: its residue modulo `2^64`. -/
def toSize (i : Idx) : Nat := (i.val % 18446744073709551616).toNat

/-- `INT32_MIN`. -/
def min : Idx := ⟨-2147483648, by decide, by decide⟩

/-- `INT32_MAX`. -/
def max : Idx := ⟨2147483647, by decide, by decide⟩

theorem ext {i j : Idx} (same : i.val = j.val) : i = j := by
  cases i; cases j; simp_all

theorem val_bounds (i : Idx) : -2147483648 ≤ i.val ∧ i.val ≤ 2147483647 :=
  ⟨i.ge_min, i.le_max⟩

@[simp]
theorem wrap_val (x : Int) : (wrap x).val = (x + 2147483648) % 4294967296 - 2147483648 := rfl

@[simp]
theorem min_val : min.val = -2147483648 := rfl

@[simp]
theorem max_val : max.val = 2147483647 := rfl

theorem wrap_val_of_mem {x : Int} (low : -2147483648 ≤ x) (high : x ≤ 2147483647) :
    (wrap x).val = x := by
  simp only [wrap_val]; omega

@[simp]
theorem wrap_self (i : Idx) : wrap i.val = i := by
  have := i.val_bounds
  cases i
  simp only [wrap, mk.injEq]
  omega

/-- A non-negative `Idx` keeps its value in `size_t`. -/
theorem toSize_of_nonneg {i : Idx} (nonneg : 0 ≤ i.val) : (i.toSize : Int) = i.val := by
  have := i.val_bounds
  simp only [toSize]; omega

/-- A negative `Idx` becomes a `size_t` of at least `2^64 - 2^31`, larger than any vector. -/
theorem toSize_of_neg {i : Idx} (neg : i.val < 0) : 18446744071562067968 ≤ i.toSize := by
  have := i.val_bounds
  simp only [toSize]; omega

/-- The `size_t` an in-range non-negative difference is compared as: the difference itself
while it is below `2^31`, otherwise at least `2^63` (the stored `Idx` is negative). -/
theorem toSize_wrap {d : Int} (nonneg : 0 ≤ d) (lt : d < 4294967296) :
    ((wrap d).toSize : Int) = d ∧ d < 2147483648 ∨
      9223372036854775808 ≤ (wrap d).toSize ∧ 2147483648 ≤ d := by
  by_cases small : d < 2147483648
  · exact .inl ⟨toSize_of_nonneg (by simp only [wrap_val]; omega) |>.trans
      (wrap_val_of_mem (by omega) (by omega)), small⟩
  · exact .inr ⟨le_trans (by decide) (toSize_of_neg (by simp only [wrap_val]; omega)),
      by omega⟩

end Idx

end MegaChat
