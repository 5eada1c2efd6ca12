/-
An approval as a budget.

Apart from a new approval by the owner, nothing ever raises what a spender may
still take from the owner, and each transfer the spender makes for the owner
uses up as much of it as it moves.
-/

import Dics.Lib.Tokens

open Transactions Words

namespace Tokens

variable {Account : Type} [DecidableEq Account] [Zero Account]

def Bank.allowance (bank : Bank Account) (token owner spender : Account) : Nat :=
  (bank token).allowances owner spender

/-- The owner sets what the spender may take of a token. -/
def Approves (token owner spender : Account) (asked sender : Account) (act : Act Account) :
    Prop :=
  asked = token ∧ sender = owner ∧ ∃ amount, act = .approve spender amount

theorem act_approve_allowance {bank next : Bank Account} {token owner spender : Account}
    {amount : Nat} {movements : List (Movement Account)}
    (done : bank.act token owner (.approve spender amount) = .ok (next, movements)) :
    next.allowance token owner spender = amount := by
  obtain ⟨approved, approving, same⟩ := bind_eq_ok.mp done
  cases same
  simp only [Token.approve, require_bind_eq_ok, pure_eq_ok] at approving
  obtain ⟨_, _, rfl⟩ := approving
  simp only [Bank.allowance, Function.update_self]

omit [Zero Account] in
theorem allowance_update_le {bank : Bank Account} {asked : Account} {changed : Token Account}
    (token owner spender : Account)
    (bounded : asked = token →
      changed.allowances owner spender ≤ (bank asked).allowances owner spender) :
    Bank.allowance (Function.update bank asked changed) token owner spender ≤
      bank.allowance token owner spender := by
  unfold Bank.allowance
  by_cases same : token = asked
  · subst same
    rw [Function.update_self]
    exact bounded rfl
  · have kept : Function.update bank asked changed token = bank token :=
      Function.update_of_ne same _ _
    exact Nat.le_of_eq (congrArg (fun found => found.allowances owner spender) kept)

theorem act_allowance_le {bank next : Bank Account} {asked sender : Account}
    {act : Act Account} {movements : List (Movement Account)} {token owner spender : Account}
    (done : bank.act asked sender act = .ok (next, movements))
    (other : ¬Approves token owner spender asked sender act) :
    next.allowance token owner spender ≤ bank.allowance token owner spender := by
  cases act with
  | transfer recipient amount =>
      obtain ⟨_, rfl, _⟩ := act_transfer_eq_ok done
      exact allowance_update_le token owner spender (fun _ => Nat.le_refl _)
  | approve allowed amount =>
      obtain ⟨approved, approving, same⟩ := bind_eq_ok.mp done
      cases same
      apply allowance_update_le
      intro sameToken
      simp only [Token.approve, require_bind_eq_ok, pure_eq_ok] at approving
      obtain ⟨_, _, rfl⟩ := approving
      by_cases sameOwner : owner = sender
      · subst sameOwner
        have others : spender ≠ allowed := by
          rintro rfl
          exact other ⟨sameToken, rfl, amount, rfl⟩
        simp only [Function.update_self, Function.update_of_ne others, Nat.le_refl]
      · simp only [Function.update_of_ne sameOwner, Nat.le_refl]
  | transferFrom payer recipient amount =>
      obtain ⟨moved, moving, same⟩ := bind_eq_ok.mp done
      cases same
      obtain ⟨_, _, _, _, allowances⟩ := transferFrom_eq_ok moving
      exact allowance_update_le token owner spender (fun _ => allowances owner spender)

/-- A limited allowance falls by what is taken. -/
theorem act_transferFrom_allowance {bank next : Bank Account}
    {token spender owner recipient : Account} {amount : Nat}
    {movements : List (Movement Account)}
    (limited : bank.allowance token owner spender ≠ wordBound - 1)
    (done : bank.act token spender (.transferFrom owner recipient amount) =
      .ok (next, movements)) :
    next.allowance token owner spender + amount = bank.allowance token owner spender := by
  obtain ⟨moved, moving, same⟩ := bind_eq_ok.mp done
  cases same
  obtain ⟨spent, allowed, transferred⟩ := bind_eq_ok.mp moving
  obtain ⟨_, _, _, rfl⟩ := transfer_eq_ok.mp transferred
  unfold Bank.allowance at limited ⊢
  rw [Token.spendAllowance, if_neg limited] at allowed
  simp only [Token.approve, require_bind_eq_ok, pure_eq_ok] at allowed
  obtain ⟨within, _, _, rfl⟩ := allowed
  simp only [Function.update_self, move_allowances]
  omega

end Tokens
