/-
Checked 256-bit arithmetic.

Quantities are natural numbers below the word bound.  The checked operations
return nothing exactly when the machine operation would panic.
-/

import Mathlib.Algebra.GroupWithZero.Nat

namespace Words

/-- One past the largest 256-bit word. -/
def wordBound : Nat := 2 ^ 256

def checkedAdd (left right : Nat) : Option Nat :=
  if left + right < wordBound then some (left + right) else none

def checkedMul (left right : Nat) : Option Nat :=
  if left * right < wordBound then some (left * right) else none

def checkedDiv (left right : Nat) : Option Nat :=
  if right = 0 then none else some (left / right)

@[simp]
theorem checkedAdd_eq_some {left right sum : Nat} :
    checkedAdd left right = some sum ↔ left + right < wordBound ∧ left + right = sum := by
  simp only [checkedAdd, Option.ite_none_right_eq_some, Option.some.injEq]

@[simp]
theorem checkedMul_eq_some {left right product : Nat} :
    checkedMul left right = some product ↔
      left * right < wordBound ∧ left * right = product := by
  simp only [checkedMul, Option.ite_none_right_eq_some, Option.some.injEq]

@[simp]
theorem checkedDiv_eq_some {left right quotient : Nat} :
    checkedDiv left right = some quotient ↔ right ≠ 0 ∧ left / right = quotient := by
  simp only [checkedDiv, Option.ite_none_left_eq_some, Option.some.injEq, ne_eq]

end Words
