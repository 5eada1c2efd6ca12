/-
Naturals as doubles.

A double has room for 53 significant bits.  A natural number that needs more is
rounded to the nearest one that does not, the one with the even significand if
two are equally near.
-/

import Mathlib.Algebra.GroupWithZero.Nat
import Mathlib.Data.Nat.Log

namespace Doubles

/-- The nearest multiple of `2 ^ shift`. -/
def roundTo (shift number : Nat) : Nat :=
  let quotient := number / 2 ^ shift
  let rest := number % 2 ^ shift
  if 2 * rest < 2 ^ shift ∨ (2 * rest = 2 ^ shift ∧ quotient % 2 = 0) then
    quotient * 2 ^ shift
  else (quotient + 1) * 2 ^ shift

def round (number : Nat) : Nat :=
  roundTo (number.log2 - 52) number

theorem roundTo_of_dvd {shift number : Nat} (divides : 2 ^ shift ∣ number) :
    roundTo shift number = number := by
  have rest : number % 2 ^ shift = 0 := Nat.mod_eq_zero_of_dvd divides
  have exactly : number / 2 ^ shift * 2 ^ shift = number := Nat.div_mul_cancel divides
  have positive : 0 < 2 ^ shift := Nat.two_pow_pos shift
  unfold roundTo
  rw [rest]
  exact (if_pos (Or.inl positive)).trans exactly

/-- A number with at most 53 bits above its trailing zeros is a double. -/
theorem round_of_dvd {scale number : Nat} (divides : 2 ^ scale ∣ number)
    (fits : number < 2 ^ (53 + scale)) : round number = number := by
  apply roundTo_of_dvd
  refine Nat.dvd_trans (Nat.pow_dvd_pow 2 ?_) divides
  by_cases zero : number = 0
  · rw [zero, Nat.log2_zero]
    exact Nat.zero_le scale
  · have bits := (Nat.log2_lt zero).mpr fits
    omega

end Doubles
