/-
Digits and blanks in texts.

Hexadecimal digits are read in either case.  A byte is written as two of them
and read back from them, and a number is read back from its digits up to what
they leave out.  Which letters count as blank differs from one language to the
next, so stripping takes them as a parameter.
-/

import Mathlib.Algebra.GroupWithZero.Nat
import Mathlib.Data.List.TakeWhile
import Mathlib.Tactic.Common

namespace Texts

/-! ### Hexadecimal digits -/

def hexDigit (char : Char) : Option Nat :=
  if '0' ≤ char ∧ char ≤ '9' then some (char.toNat - '0'.toNat)
  else if 'a' ≤ char ∧ char ≤ 'f' then some (char.toNat - 'a'.toNat + 10)
  else if 'A' ≤ char ∧ char ≤ 'F' then some (char.toNat - 'A'.toNat + 10)
  else none

theorem hexDigit_digitChar (digit : Fin 16) :
    hexDigit (Nat.digitChar digit.val) = some digit.val := by
  revert digit
  decide

theorem mapM_hexDigit (digits : List Nat) (small : ∀ digit ∈ digits, digit < 16) :
    (digits.map Nat.digitChar).mapM hexDigit = some digits := by
  induction digits with
  | nil => rfl
  | cons digit rest ih =>
      have read : hexDigit (Nat.digitChar digit) = some digit :=
        hexDigit_digitChar ⟨digit, small digit List.mem_cons_self⟩
      rw [List.map_cons, List.mapM_cons, read,
        ih (fun other member => small other (List.mem_cons_of_mem digit member))]
      rfl

theorem hexDigit_high (byte : UInt8) :
    hexDigit (Nat.digitChar (byte.toNat / 16)) = some (byte.toNat / 16) := by
  have bounded : byte.toNat < 256 := byte.toNat_lt
  exact hexDigit_digitChar ⟨byte.toNat / 16, by omega⟩

theorem hexDigit_low (byte : UInt8) :
    hexDigit (Nat.digitChar (byte.toNat % 16)) = some (byte.toNat % 16) :=
  hexDigit_digitChar ⟨byte.toNat % 16, Nat.mod_lt _ (by decide)⟩

theorem ofNat_digits (byte : UInt8) :
    UInt8.ofNat (byte.toNat / 16 * 16 + byte.toNat % 16) = byte := by
  rw [Nat.div_add_mod', UInt8.ofNat_toNat]

/-- Reading the digits of a number gives the number back, up to what they leave
out. -/
theorem foldl_digits (value count start : Nat) :
    ((List.range count).reverse.map (fun position => value / 16 ^ position % 16)).foldl
        (fun number digit => number * 16 + digit) start =
      start * 16 ^ count + value % 16 ^ count := by
  induction count generalizing start with
  | zero => simp [Nat.mod_one]
  | succ count ih =>
      rw [List.range_succ, List.reverse_append, List.reverse_singleton, List.singleton_append,
        List.map_cons, List.foldl_cons, ih, Nat.mod_pow_succ, Nat.pow_succ, Nat.add_mul,
        Nat.mul_assoc start 16, Nat.mul_comm 16, Nat.mul_comm (value / 16 ^ count % 16)]
      omega

/-! ### Blanks -/

/-- The text without the blanks at its ends. -/
def stripped (blank : Char → Bool) (text : List Char) : List Char :=
  ((text.dropWhile blank).reverse.dropWhile blank).reverse

theorem dropWhile_of_plain {blank : Char → Bool} {text : List Char}
    (plain : ∀ letter ∈ text, blank letter = false) : text.dropWhile blank = text := by
  cases text with
  | nil => rfl
  | cons letter rest =>
      rw [List.dropWhile_cons, plain letter List.mem_cons_self]
      rfl

theorem stripped_of_plain {blank : Char → Bool} {text : List Char}
    (plain : ∀ letter ∈ text, blank letter = false) : stripped blank text = text := by
  have turned : ∀ letter ∈ text.reverse, blank letter = false := by
    intro letter member
    exact plain letter (List.mem_reverse.mp member)
  rw [stripped, dropWhile_of_plain plain, dropWhile_of_plain turned, List.reverse_reverse]

theorem toNat_of_isDigit {letter : Char} (digit : letter.isDigit = true) :
    48 ≤ letter.toNat ∧ letter.toNat ≤ 57 := by
  simp only [Char.isDigit, Bool.and_eq_true, decide_eq_true_eq] at digit
  exact ⟨digit.1, digit.2⟩

end Texts
