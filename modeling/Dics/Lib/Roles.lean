/-
Role-based access control.

A table says which account holds which role.  One distinguished role may grant
and revoke every role; a holder may also give up a role of its own.
-/

import Dics.Lib.Transactions
import Mathlib.Logic.Function.Basic

open Transactions

namespace Roles

abbrev Table (Role Account : Type) := Role → Account → Bool

inductive Change (Role Account : Type) where
  | grantRole (role : Role) (account : Account)
  | revokeRole (role : Role) (account : Account)
  | renounceRole (role : Role) (callerConfirmation : Account)
  deriving DecidableEq

variable {Role Account Error : Type} [DecidableEq Role] [DecidableEq Account]

def Table.empty : Table Role Account := fun _ _ => false

def Table.assign (table : Table Role Account) (role : Role) (account : Account)
    (held : Bool) : Table Role Account :=
  Function.update table role (Function.update (table role) account held)

/-- The role whose holding a change sets, the account it concerns and the new
value. -/
def Change.target : Change Role Account → Role × Account × Bool
  | .grantRole role account => (role, account, true)
  | .revokeRole role account => (role, account, false)
  | .renounceRole role account => (role, account, false)

/-- Granting and revoking need the administering role, renouncing needs the
caller to name itself. -/
def Change.apply (adminRole : Role) (denied : Error) (sender : Account)
    (table : Table Role Account) (change : Change Role Account) :
    Except Error (Table Role Account) := do
  match change with
  | .grantRole _ _ => require (table adminRole sender = true) denied
  | .revokeRole _ _ => require (table adminRole sender = true) denied
  | .renounceRole _ callerConfirmation => require (callerConfirmation = sender) denied
  let (role, account, held) := change.target
  return table.assign role account held

theorem Table.assign_holds {table : Table Role Account} {role target : Role}
    {account other : Account} {held : Bool}
    (now : table.assign target other held role account = true) :
    table role account = true ∨ role = target ∧ account = other ∧ held = true := by
  unfold Table.assign at now
  by_cases sameRole : role = target
  · subst sameRole
    rw [Function.update_self] at now
    by_cases sameAccount : account = other
    · subst sameAccount
      rw [Function.update_self] at now
      exact Or.inr ⟨rfl, rfl, now⟩
    · rw [Function.update_of_ne sameAccount] at now
      exact Or.inl now
  · rw [Function.update_of_ne sameRole] at now
    exact Or.inl now

theorem Change.apply_holds {adminRole role : Role} {denied : Error} {sender account : Account}
    {table next : Table Role Account} {change : Change Role Account}
    (done : change.apply adminRole denied sender table = .ok next)
    (held : next role account = true) :
    table role account = true ∨ change = .grantRole role account := by
  cases change with
  | grantRole granted other =>
      simp only [Change.apply, require_bind_eq_ok, pure_eq_ok] at done
      obtain ⟨_, rfl⟩ := done
      rcases Table.assign_holds held with before | ⟨rfl, rfl, _⟩
      · exact Or.inl before
      · exact Or.inr rfl
  | revokeRole revoked other =>
      simp only [Change.apply, require_bind_eq_ok, pure_eq_ok] at done
      obtain ⟨_, rfl⟩ := done
      rcases Table.assign_holds held with before | ⟨_, _, impossible⟩
      · exact Or.inl before
      · cases impossible
  | renounceRole renounced other =>
      simp only [Change.apply, require_bind_eq_ok, pure_eq_ok] at done
      obtain ⟨_, rfl⟩ := done
      rcases Table.assign_holds held with before | ⟨_, _, impossible⟩
      · exact Or.inl before
      · cases impossible

/-! ### Circles of holders -/

/-- Roles are held inside the circle only. -/
def Table.Within (table : Table Role Account) (circle : Account → Prop) : Prop :=
  ∀ role account, table role account = true → circle account

omit [DecidableEq Role] [DecidableEq Account] in
theorem Table.within_empty (circle : Account → Prop) :
    (Table.empty : Table Role Account).Within circle := by
  intro role account held
  cases held

theorem Table.Within.assign {table : Table Role Account} {circle : Account → Prop}
    (within : table.Within circle) {role : Role} {account : Account} {held : Bool}
    (member : circle account) : (table.assign role account held).Within circle := by
  intro other holder now
  rcases Table.assign_holds now with before | ⟨_, same, _⟩
  · exact within other holder before
  · rw [same]
    exact member

theorem Change.sender_of_grant {adminRole role : Role} {denied : Error}
    {sender account : Account} {table next : Table Role Account}
    (done : (Change.grantRole role account).apply adminRole denied sender table = .ok next) :
    table adminRole sender = true := by
  simp only [Change.apply, require_bind_eq_ok, pure_eq_ok] at done
  exact done.1

theorem Change.apply_within {adminRole : Role} {denied : Error} {sender : Account}
    {table next : Table Role Account} {change : Change Role Account} {circle : Account → Prop}
    (within : table.Within circle)
    (done : change.apply adminRole denied sender table = .ok next)
    (inward : circle sender → ∀ role account, change = .grantRole role account → circle account) :
    next.Within circle := by
  intro role account held
  rcases Change.apply_holds done held with before | rfl
  · exact within role account before
  · exact inward (within adminRole sender (Change.sender_of_grant done)) role account rfl

/-- Someone without a role can only renounce, and that changes nothing. -/
theorem Change.apply_of_stranger {adminRole : Role} {denied : Error} {sender : Account}
    {table next : Table Role Account} {change : Change Role Account}
    (stranger : ∀ role, table role sender = false)
    (done : change.apply adminRole denied sender table = .ok next) :
    next = table ∧ ∃ role, change = .renounceRole role sender := by
  cases change with
  | grantRole role account =>
      simp only [Change.apply, stranger adminRole, require_bind_eq_ok] at done
      exact absurd done.1 Bool.false_ne_true
  | revokeRole role account =>
      simp only [Change.apply, stranger adminRole, require_bind_eq_ok] at done
      exact absurd done.1 Bool.false_ne_true
  | renounceRole role callerConfirmation =>
      simp only [Change.apply, require_bind_eq_ok, pure_eq_ok] at done
      obtain ⟨rfl, rfl⟩ := done
      refine ⟨?_, role, rfl⟩
      unfold Table.assign
      rw [Change.target, ← stranger role, Function.update_eq_self, Function.update_eq_self]

end Roles
