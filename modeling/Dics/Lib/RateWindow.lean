/-
Rate limits with a lazily restarted window.

A limiter keeps the start of its window and what was paid in it.  The first
payment after the window's end opens the next window at its own time.  Two
openings are at least a window's width apart, so an interval of that width
meets at most two windows.
-/

import Mathlib.Algebra.GroupWithZero.Nat
import Mathlib.Algebra.BigOperators.Group.List.Basic

namespace RateWindow

/-- A payment, and whether it opened a new window. -/
structure Payment where
  time : Nat
  amount : Nat
  opens : Bool
  deriving DecidableEq

def total (payments : List Payment) : Nat := (payments.map Payment.amount).sum

/-- The payments in the half-open interval that starts at `first`. -/
def within (first width : Nat) (payments : List Payment) : List Payment :=
  payments.filter (fun payment =>
    decide (first ≤ payment.time ∧ payment.time < first + width))

/-- The payments since the last one that opened a window, that one included. -/
def sinceOpening (payments : List Payment) : List Payment :=
  payments.foldl (fun current payment =>
    if payment.opens = true then [payment] else current ++ [payment]) []

theorem total_append (left right : List Payment) :
    total (left ++ right) = total left + total right := by
  rw [total, List.map_append, List.sum_append]
  rfl

theorem total_singleton (payment : Payment) : total [payment] = payment.amount := by
  rw [total, List.map_singleton, List.sum_singleton]

theorem within_append (first width : Nat) (left right : List Payment) :
    within first width (left ++ right) = within first width left ++ within first width right :=
  List.filter_append _ _

theorem total_within_le (first width : Nat) (payments : List Payment) :
    total (within first width payments) ≤ total payments := by
  induction payments with
  | nil => exact Nat.le_refl _
  | cons payment rest ih =>
      unfold within total at ih ⊢
      rw [List.filter_cons]
      split
      · rw [List.map_cons, List.sum_cons, List.map_cons, List.sum_cons]
        exact Nat.add_le_add_left ih _
      · rw [List.map_cons, List.sum_cons]
        exact Nat.le_add_left_of_le ih

theorem total_within_eq_zero {first width : Nat} {payments : List Payment}
    (outside : ∀ payment ∈ payments, payment.time < first ∨ first + width ≤ payment.time) :
    total (within first width payments) = 0 := by
  have none : within first width payments = [] := by
    apply List.filter_eq_nil_iff.mpr
    intro payment member inside
    have bounds := of_decide_eq_true inside
    have apart := outside payment member
    omega
  rw [none]
  rfl

theorem sinceOpening_snoc (payments : List Payment) (payment : Payment) :
    sinceOpening (payments ++ [payment]) =
      if payment.opens = true then [payment] else sinceOpening payments ++ [payment] := by
  simp only [sinceOpening, List.foldl_append, List.foldl_cons, List.foldl_nil]

/-- A limiter with window `start` and `paid` in it, after these payments.  The
payments of closed windows are kept apart: an interval that reaches into the
open window meets only the last of the closed ones. -/
structure Tracked (limit width start paid : Nat) (payments closed : List Payment) : Prop where
  split : payments = closed ++ sinceOpening payments
  exact : total (sinceOpening payments) = paid
  limited : paid ≤ limit
  closedBefore : ∀ payment ∈ closed, payment.time ≤ start
  openAfter : ∀ payment ∈ sinceOpening payments, start ≤ payment.time
  overlap : ∀ first, start < first + width → total (within first width closed) ≤ limit
  intervals : ∀ first, total (within first width payments) ≤ 2 * limit

theorem Tracked.initial (limit width start : Nat) : Tracked limit width start 0 [] [] where
  split := rfl
  exact := rfl
  limited := Nat.zero_le _
  closedBefore := fun _ member => nomatch member
  openAfter := fun _ member => nomatch member
  overlap := fun _ _ => Nat.zero_le _
  intervals := fun _ => Nat.zero_le _

section Rules

variable {limit width start paid : Nat} {payments closed : List Payment}

/-- A payment inside the open window. -/
theorem Tracked.pay (before : Tracked limit width start paid payments closed)
    (payment : Payment) (stays : payment.opens = false) (later : start ≤ payment.time)
    (fits : paid + payment.amount ≤ limit) :
    Tracked limit width start (paid + payment.amount) (payments ++ [payment]) closed := by
  have since : sinceOpening (payments ++ [payment]) = sinceOpening payments ++ [payment] := by
    rw [sinceOpening_snoc, stays]
    rfl
  have split : payments ++ [payment] = closed ++ (sinceOpening payments ++ [payment]) := by
    rw [← List.append_assoc, ← before.split]
  have paidNow : total (sinceOpening payments ++ [payment]) = paid + payment.amount := by
    rw [total_append, total_singleton, before.exact]
  have openAfter : ∀ other ∈ sinceOpening payments ++ [payment], start ≤ other.time := by
    intro other member
    rcases List.mem_append.mp member with earlier | last
    · exact before.openAfter other earlier
    · rw [List.mem_singleton.mp last]
      exact later
  refine ⟨?_, ?_, fits, before.closedBefore, ?_, before.overlap, ?_⟩
  · rw [since]
    exact split
  · rw [since]
    exact paidNow
  · rw [since]
    exact openAfter
  · intro first
    rw [split, within_append, total_append]
    by_cases reaches : start < first + width
    · have inClosed := before.overlap first reaches
      have inOpen := total_within_le first width (sinceOpening payments ++ [payment])
      rw [paidNow] at inOpen
      omega
    · have noneOpen : total (within first width (sinceOpening payments ++ [payment])) = 0 := by
        apply total_within_eq_zero
        intro other member
        right
        have bound := openAfter other member
        omega
      have old := before.intervals first
      rw [before.split, within_append, total_append] at old
      omega

/-- A payment after the window's end opens the next window. -/
theorem Tracked.payOpening (before : Tracked limit width start paid payments closed)
    (payment : Payment) (reopens : payment.opens = true)
    (ended : start + width ≤ payment.time)
    (last : ∀ other ∈ payments, other.time ≤ payment.time) (fits : payment.amount ≤ limit) :
    Tracked limit width payment.time payment.amount (payments ++ [payment]) payments := by
  have since : sinceOpening (payments ++ [payment]) = [payment] := by
    rw [sinceOpening_snoc, if_pos reopens]
  have overlap : ∀ first, payment.time < first + width →
      total (within first width payments) ≤ limit := by
    intro first reaches
    have noneClosed : total (within first width closed) = 0 := by
      apply total_within_eq_zero
      intro other member
      left
      have bound := before.closedBefore other member
      omega
    have inOpen := total_within_le first width (sinceOpening payments)
    have exact := before.exact
    have limited := before.limited
    rw [before.split, within_append, total_append]
    omega
  refine ⟨?_, ?_, fits, last, ?_, overlap, ?_⟩
  · rw [since]
  · rw [since, total_singleton]
  · rw [since]
    intro other member
    exact Nat.le_of_eq (congrArg Payment.time (List.mem_singleton.mp member).symm)
  · intro first
    rw [within_append, total_append]
    by_cases reaches : payment.time < first + width
    · have inOld := overlap first reaches
      have inNew := total_within_le first width [payment]
      rw [total_singleton] at inNew
      omega
    · have noneNew : total (within first width [payment]) = 0 := by
        apply total_within_eq_zero
        intro other member
        right
        rw [List.mem_singleton.mp member]
        omega
      have old := before.intervals first
      omega

end Rules

end RateWindow
