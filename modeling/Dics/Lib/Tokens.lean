/-
A standard fungible token.

Balances and allowances are total functions.  A transfer moves exactly the
requested amount or reverts.  Accounts carry a zero account that can neither
send nor receive.
-/

import Dics.Lib.Transactions
import Dics.Lib.Words
import Mathlib.Logic.Function.Basic

open Transactions Words

namespace Tokens

structure Token (Account : Type) where
  balances : Account → Nat
  allowances : Account → Account → Nat
  totalSupply : Nat

inductive TokenError where
  | invalidSender
  | invalidReceiver
  | insufficientBalance
  | insufficientAllowance
  | supplyOverflow
  deriving DecidableEq

variable {Account : Type} [DecidableEq Account]

structure Movement (Account : Type) where
  token : Account
  sender : Account
  recipient : Account
  amount : Nat
  deriving DecidableEq

def Token.move (token : Token Account) (sender recipient : Account) (amount : Nat) :
    Token Account :=
  let debited := Function.update token.balances sender (token.balances sender - amount)
  { token with balances := Function.update debited recipient (debited recipient + amount) }

@[simp]
theorem move_allowances (token : Token Account) (sender recipient : Account) (amount : Nat) :
    (token.move sender recipient amount).allowances = token.allowances := rfl

theorem move_balances_of_ne (token : Token Account) {sender recipient account : Account}
    (amount : Nat) (notSender : account ≠ sender) (notRecipient : account ≠ recipient) :
    (token.move sender recipient amount).balances account = token.balances account := by
  simp only [Token.move, Function.update_of_ne notRecipient, Function.update_of_ne notSender]

theorem move_balances_sender (token : Token Account) {sender recipient : Account}
    (amount : Nat) (distinct : sender ≠ recipient) :
    (token.move sender recipient amount).balances sender = token.balances sender - amount := by
  simp only [Token.move, Function.update_of_ne distinct, Function.update_self]

theorem move_balances_recipient (token : Token Account) {sender recipient : Account}
    (amount : Nat) (distinct : sender ≠ recipient) :
    (token.move sender recipient amount).balances recipient =
      token.balances recipient + amount := by
  simp only [Token.move, Function.update_self, Function.update_of_ne distinct.symm]

theorem move_balances_self (token : Token Account) {account : Account} {amount : Nat}
    (covered : amount ≤ token.balances account) :
    (token.move account account amount).balances account = token.balances account := by
  simp only [Token.move, Function.update_self]
  omega

/-- Only the account that sends can lose anything. -/
theorem move_balances_le (token : Token Account) {sender account : Account}
    (recipient : Account) (amount : Nat) (notSender : account ≠ sender) :
    token.balances account ≤ (token.move sender recipient amount).balances account := by
  by_cases receives : account = recipient
  · subst receives
    rw [move_balances_recipient token amount notSender.symm]
    exact Nat.le_add_right _ _
  · exact Nat.le_of_eq (move_balances_of_ne token amount notSender receives).symm

theorem move_zero_balances_le (token : Token Account) (sender recipient account : Account) :
    token.balances account ≤ (token.move sender recipient 0).balances account := by
  by_cases sends : account = sender
  · subst sends
    by_cases receives : account = recipient
    · subst receives
      simp only [Token.move, Nat.sub_zero, Function.update_self, Nat.add_zero, Nat.le_refl]
    · exact Nat.le_of_eq (move_balances_sender token 0 receives).symm
  · exact move_balances_le token recipient 0 sends

theorem balances_le_move_add (token : Token Account) (sender recipient : Account)
    (amount : Nat) :
    token.balances sender ≤ (token.move sender recipient amount).balances sender + amount := by
  by_cases same : sender = recipient
  · subst same
    simp only [Token.move, Function.update_self]
    omega
  · rw [move_balances_sender token amount same]
    omega

/-! ### Operations -/

variable [Zero Account]

def Token.transfer (token : Token Account) (sender recipient : Account) (amount : Nat) :
    Except TokenError (Token Account) := do
  require (sender ≠ 0) .invalidSender
  require (recipient ≠ 0) .invalidReceiver
  require (amount ≤ token.balances sender) .insufficientBalance
  return token.move sender recipient amount

def Token.approve (token : Token Account) (owner spender : Account) (amount : Nat) :
    Except TokenError (Token Account) := do
  require (owner ≠ 0) .invalidSender
  require (spender ≠ 0) .invalidReceiver
  return { token with
    allowances := Function.update token.allowances owner
      (Function.update (token.allowances owner) spender amount) }

/-- Spending from the largest allowance leaves it as it is. -/
def Token.spendAllowance (token : Token Account) (owner spender : Account) (amount : Nat) :
    Except TokenError (Token Account) :=
  if token.allowances owner spender = wordBound - 1 then .ok token
  else do
    require (amount ≤ token.allowances owner spender) .insufficientAllowance
    token.approve owner spender (token.allowances owner spender - amount)

def Token.transferFrom (token : Token Account) (spender owner recipient : Account)
    (amount : Nat) : Except TokenError (Token Account) := do
  let spent ← token.spendAllowance owner spender amount
  spent.transfer owner recipient amount

def Token.mint (token : Token Account) (account : Account) (amount : Nat) :
    Except TokenError (Token Account) := do
  require (account ≠ 0) .invalidReceiver
  let supply ← orRevert .supplyOverflow (checkedAdd token.totalSupply amount)
  return { token with
    balances := Function.update token.balances account (token.balances account + amount)
    totalSupply := supply }

def Token.burn (token : Token Account) (account : Account) (amount : Nat) :
    Except TokenError (Token Account) := do
  require (account ≠ 0) .invalidSender
  require (amount ≤ token.balances account) .insufficientBalance
  return { token with
    balances := Function.update token.balances account (token.balances account - amount)
    totalSupply := token.totalSupply - amount }

abbrev Bank (Account : Type) := Account → Token Account

/-- What an account can ask of a token directly. -/
inductive Act (Account : Type) where
  | transfer (recipient : Account) (amount : Nat)
  | approve (spender : Account) (amount : Nat)
  | transferFrom (owner recipient : Account) (amount : Nat)
  deriving DecidableEq

def Bank.act (bank : Bank Account) (token sender : Account) :
    Act Account → Except TokenError (Bank Account × List (Movement Account))
  | .transfer recipient amount => do
      let next ← (bank token).transfer sender recipient amount
      return (Function.update bank token next, [⟨token, sender, recipient, amount⟩])
  | .approve spender amount => do
      let next ← (bank token).approve sender spender amount
      return (Function.update bank token next, [])
  | .transferFrom owner recipient amount => do
      let next ← (bank token).transferFrom sender owner recipient amount
      return (Function.update bank token next, [⟨token, owner, recipient, amount⟩])

/-! ### What a successful operation did -/

theorem transfer_eq_ok {token next : Token Account} {sender recipient : Account} {amount : Nat} :
    token.transfer sender recipient amount = .ok next ↔
      sender ≠ 0 ∧ recipient ≠ 0 ∧ amount ≤ token.balances sender ∧
        next = token.move sender recipient amount := by
  simp only [Token.transfer, require_bind_eq_ok, pure_eq_ok]
  constructor
  · rintro ⟨sends, receives, covered, rfl⟩
    exact ⟨sends, receives, covered, rfl⟩
  · rintro ⟨sends, receives, covered, rfl⟩
    exact ⟨sends, receives, covered, rfl⟩

theorem approve_eq_ok {token next : Token Account} {owner spender : Account} {amount : Nat}
    (done : token.approve owner spender amount = .ok next) :
    next.balances = token.balances ∧ next.totalSupply = token.totalSupply ∧
      ∀ other, other ≠ owner → next.allowances other = token.allowances other := by
  simp only [Token.approve, require_bind_eq_ok, pure_eq_ok] at done
  obtain ⟨_, _, rfl⟩ := done
  refine ⟨rfl, rfl, ?_⟩
  intro other different
  exact Function.update_of_ne different _ _

/-- A spender moves an owner's tokens exactly as the owner would, only up to
what that owner allowed, and no allowance grows. -/
theorem transferFrom_eq_ok {token next : Token Account} {spender owner recipient : Account}
    {amount : Nat} (done : token.transferFrom spender owner recipient amount = .ok next) :
    (token.allowances owner spender = wordBound - 1 ∨
        amount ≤ token.allowances owner spender) ∧
      amount ≤ token.balances owner ∧
      next.balances = (token.move owner recipient amount).balances ∧
      next.totalSupply = token.totalSupply ∧
      ∀ holder other, next.allowances holder other ≤ token.allowances holder other := by
  obtain ⟨spent, allowed, moved⟩ := bind_eq_ok.mp done
  obtain ⟨_, _, covered, rfl⟩ := transfer_eq_ok.mp moved
  unfold Token.spendAllowance at allowed
  split at allowed
  · rename_i largest
    cases allowed
    exact ⟨Or.inl largest, covered, rfl, rfl, fun _ _ => Nat.le_refl _⟩
  · simp only [Token.approve, require_bind_eq_ok, pure_eq_ok] at allowed
    obtain ⟨within, _, _, rfl⟩ := allowed
    refine ⟨Or.inr within, covered, rfl, rfl, ?_⟩
    intro holder other
    by_cases sameHolder : holder = owner
    · subst sameHolder
      by_cases sameSpender : other = spender
      · subst sameSpender
        simp only [move_allowances, Function.update_self]
        exact Nat.sub_le _ _
      · simp only [move_allowances, Function.update_self, Function.update_of_ne sameSpender,
          Nat.le_refl]
    · simp only [move_allowances, Function.update_of_ne sameHolder, Nat.le_refl]

theorem mint_eq_ok {token next : Token Account} {account : Account} {amount : Nat} :
    token.mint account amount = .ok next ↔
      account ≠ 0 ∧ token.totalSupply + amount < wordBound ∧
        next = { token with
          balances := Function.update token.balances account (token.balances account + amount)
          totalSupply := token.totalSupply + amount } := by
  simp only [Token.mint, require_bind_eq_ok, orRevert_bind_eq_ok, checkedAdd_eq_some, pure_eq_ok]
  constructor
  · rintro ⟨receives, supply, ⟨bounded, rfl⟩, rfl⟩
    exact ⟨receives, bounded, rfl⟩
  · rintro ⟨receives, bounded, rfl⟩
    exact ⟨receives, _, ⟨bounded, rfl⟩, rfl⟩

theorem burn_eq_ok {token next : Token Account} {account : Account} {amount : Nat} :
    token.burn account amount = .ok next ↔
      account ≠ 0 ∧ amount ≤ token.balances account ∧
        next = { token with
          balances := Function.update token.balances account (token.balances account - amount)
          totalSupply := token.totalSupply - amount } := by
  simp only [Token.burn, require_bind_eq_ok, pure_eq_ok]
  constructor
  · rintro ⟨holds, covered, rfl⟩
    exact ⟨holds, covered, rfl⟩
  · rintro ⟨holds, covered, rfl⟩
    exact ⟨holds, covered, rfl⟩

theorem act_transfer_eq_ok {bank next : Bank Account} {token sender recipient : Account}
    {amount : Nat} {movements : List (Movement Account)}
    (done : bank.act token sender (.transfer recipient amount) = .ok (next, movements)) :
    amount ≤ (bank token).balances sender ∧
      next = Function.update bank token ((bank token).move sender recipient amount) ∧
      movements = [⟨token, sender, recipient, amount⟩] := by
  obtain ⟨moved, transferred, same⟩ := bind_eq_ok.mp done
  obtain ⟨_, _, covered, rfl⟩ := transfer_eq_ok.mp transferred
  cases same
  exact ⟨covered, rfl, rfl⟩

/-- A covered transfer between real accounts succeeds. -/
theorem act_transfer_of_covered (bank : Bank Account) {token sender recipient : Account}
    {amount : Nat} (sends : sender ≠ 0) (receives : recipient ≠ 0)
    (covered : amount ≤ (bank token).balances sender) :
    bank.act token sender (.transfer recipient amount) =
      .ok (Function.update bank token ((bank token).move sender recipient amount),
        [⟨token, sender, recipient, amount⟩]) := by
  apply bind_eq_ok.mpr
  exact ⟨_, transfer_eq_ok.mpr ⟨sends, receives, covered, rfl⟩, rfl⟩

omit [Zero Account] in
theorem update_move_allowances (bank : Bank Account) (token sender recipient : Account)
    (amount : Nat) (other : Account) :
    (Function.update bank token ((bank token).move sender recipient amount) other).allowances =
      (bank other).allowances := by
  by_cases same : other = token
  · subst same
    rw [Function.update_self]
    rfl
  · rw [Function.update_of_ne same]

/-! ### Accounts that approve nobody -/

/-- No token lets anyone spend for the holder. -/
def Bank.Unapproved (bank : Bank Account) (holder : Account) : Prop :=
  ∀ token spender, (bank token).allowances holder spender = 0

/-- What others ask of a token takes nothing from a holder that approved
nobody. -/
structure Untouched (holder : Account) (bank next : Bank Account)
    (movements : List (Movement Account)) : Prop where
  unapproved : next.Unapproved holder
  balances : ∀ token, (bank token).balances holder ≤ (next token).balances holder
  movements : ∀ movement ∈ movements, movement.sender = holder → movement.amount = 0

omit [DecidableEq Account] [Zero Account] in
theorem Untouched.of_unchanged {bank : Bank Account} {holder : Account}
    (unapproved : bank.Unapproved holder) : Untouched holder bank bank [] where
  unapproved := unapproved
  balances _ := Nat.le_refl _
  movements _ member := by cases member

omit [Zero Account] in
theorem Bank.Unapproved.update {bank : Bank Account} {holder token : Account}
    (unapproved : bank.Unapproved holder) {next : Token Account}
    (allowances : ∀ spender, next.allowances holder spender ≤
      (bank token).allowances holder spender) :
    Bank.Unapproved (Function.update bank token next) holder := by
  intro other spender
  by_cases same : other = token
  · subst same
    rw [Function.update_self]
    have bounded := allowances spender
    rw [unapproved other spender] at bounded
    exact Nat.le_zero.mp bounded
  · rw [Function.update_of_ne same]
    exact unapproved other spender

omit [Zero Account] in
private theorem balances_le_update {bank : Bank Account} {holder token : Account}
    {next : Token Account} (kept : (bank token).balances holder ≤ next.balances holder)
    (other : Account) :
    (bank other).balances holder ≤ (Function.update bank token next other).balances holder := by
  by_cases same : other = token
  · subst same
    rw [Function.update_self]
    exact kept
  · have unchanged : Function.update bank token next other = bank other :=
      Function.update_of_ne same _ _
    exact Nat.le_of_eq (congrArg (fun found => found.balances holder) unchanged).symm

private theorem amount_of_unapproved {bank : Bank Account} {token spender owner recipient : Account}
    {amount : Nat} {next : Token Account} (unapproved : bank.Unapproved owner)
    (done : (bank token).transferFrom spender owner recipient amount = .ok next) : amount = 0 := by
  obtain ⟨allowed, _⟩ := transferFrom_eq_ok done
  rw [unapproved token spender] at allowed
  rcases allowed with largest | within
  · exact absurd largest (by decide)
  · exact Nat.le_zero.mp within

/-- Nobody's allowances grow unless somebody approves. -/
theorem act_unapproved {bank next : Bank Account} {token sender holder : Account}
    {act : Act Account} {movements : List (Movement Account)}
    (unapproved : bank.Unapproved holder)
    (noApproval : ∀ spender amount, sender = holder → act ≠ .approve spender amount)
    (done : bank.act token sender act = .ok (next, movements)) : next.Unapproved holder := by
  cases act with
  | transfer recipient amount =>
      obtain ⟨_, rfl, _⟩ := act_transfer_eq_ok done
      exact unapproved.update (fun _ => Nat.le_refl _)
  | approve spender amount =>
      have notHolder : sender ≠ holder := fun same => noApproval spender amount same rfl
      obtain ⟨approved, approving, same⟩ := bind_eq_ok.mp done
      cases same
      obtain ⟨_, _, allowances⟩ := approve_eq_ok approving
      apply unapproved.update
      intro other
      exact Nat.le_of_eq (congrFun (allowances holder notHolder.symm) other)
  | transferFrom owner recipient amount =>
      obtain ⟨moved, moving, same⟩ := bind_eq_ok.mp done
      cases same
      obtain ⟨_, _, _, _, allowances⟩ := transferFrom_eq_ok moving
      exact unapproved.update (allowances holder)

theorem act_transferFrom_eq_ok {bank next : Bank Account}
    {token spender owner recipient : Account} {amount : Nat}
    {movements : List (Movement Account)}
    (done : bank.act token spender (.transferFrom owner recipient amount) =
      .ok (next, movements)) :
    amount ≤ (bank token).balances owner ∧
      (next token).balances = ((bank token).move owner recipient amount).balances ∧
      (∀ other, other ≠ token → next other = bank other) ∧
      movements = [⟨token, owner, recipient, amount⟩] := by
  obtain ⟨moved, moving, same⟩ := bind_eq_ok.mp done
  cases same
  obtain ⟨_, covered, balances, _, _⟩ := transferFrom_eq_ok moving
  refine ⟨covered, ?_, ?_, rfl⟩
  · rw [Function.update_self, balances]
  · intro other different
    exact Function.update_of_ne different _ _

/-- The largest allowance is not used up. -/
theorem transferFrom_of_largest {token next : Token Account} {spender owner recipient : Account}
    {amount : Nat} (largest : token.allowances owner spender = wordBound - 1)
    (done : token.transferFrom spender owner recipient amount = .ok next) :
    next = token.move owner recipient amount := by
  obtain ⟨spent, allowed, moved⟩ := bind_eq_ok.mp done
  rw [Token.spendAllowance, if_pos largest] at allowed
  cases allowed
  exact (transfer_eq_ok.mp moved).2.2.2

/-- A transfer between real accounts that is covered and allowed succeeds. -/
theorem act_transferFrom_of_allowed (bank : Bank Account)
    {token spender owner recipient : Account} {amount : Nat} (spends : spender ≠ 0)
    (sends : owner ≠ 0) (receives : recipient ≠ 0)
    (allowed : amount ≤ (bank token).allowances owner spender)
    (covered : amount ≤ (bank token).balances owner) :
    ∃ next, bank.act token spender (.transferFrom owner recipient amount) =
      .ok (next, [⟨token, owner, recipient, amount⟩]) := by
  have spending : ∃ spent, (bank token).spendAllowance owner spender amount = .ok spent ∧
      spent.balances = (bank token).balances := by
    unfold Token.spendAllowance
    split
    · exact ⟨_, rfl, rfl⟩
    · simp only [Token.approve, require_bind_eq_ok, pure_eq_ok]
      exact ⟨_, ⟨allowed, sends, spends, rfl⟩, rfl⟩
  obtain ⟨spent, spendsAllowance, balances⟩ := spending
  rw [← balances] at covered
  have moves := transfer_eq_ok.mpr ⟨sends, receives, covered, rfl⟩
  exact ⟨_, bind_eq_ok.mpr ⟨_, bind_eq_ok.mpr ⟨_, spendsAllowance, moves⟩, rfl⟩⟩

theorem act_transferFrom_received {bank next : Bank Account}
    {token spender owner recipient : Account} {amount : Nat}
    {movements : List (Movement Account)} (distinct : owner ≠ recipient)
    (done : bank.act token spender (.transferFrom owner recipient amount) =
      .ok (next, movements)) :
    (next token).balances recipient = (bank token).balances recipient + amount := by
  obtain ⟨_, balances, _, _⟩ := act_transferFrom_eq_ok done
  rw [balances, move_balances_recipient _ amount distinct]

theorem act_untouched {bank next : Bank Account} {token sender holder : Account}
    {act : Act Account} {movements : List (Movement Account)}
    (unapproved : bank.Unapproved holder) (notHolder : sender ≠ holder)
    (done : bank.act token sender act = .ok (next, movements)) :
    Untouched holder bank next movements := by
  refine ⟨act_unapproved unapproved (fun _ _ same => absurd same notHolder) done, ?_, ?_⟩
  · cases act with
    | transfer recipient amount =>
        obtain ⟨_, rfl, _⟩ := act_transfer_eq_ok done
        exact balances_le_update (move_balances_le _ _ _ notHolder.symm)
    | approve spender amount =>
        obtain ⟨approved, approving, same⟩ := bind_eq_ok.mp done
        cases same
        obtain ⟨balances, _, _⟩ := approve_eq_ok approving
        apply balances_le_update
        exact Nat.le_of_eq (congrFun balances holder).symm
    | transferFrom owner recipient amount =>
        obtain ⟨moved, moving, same⟩ := bind_eq_ok.mp done
        cases same
        obtain ⟨_, _, balances, _, _⟩ := transferFrom_eq_ok moving
        apply balances_le_update
        rw [balances]
        by_cases same : holder = owner
        · subst same
          rw [amount_of_unapproved unapproved moving]
          exact move_zero_balances_le _ _ _ _
        · exact move_balances_le _ _ _ same
  · intro movement member fromHolder
    cases act with
    | transfer recipient amount =>
        obtain ⟨_, _, rfl⟩ := act_transfer_eq_ok done
        rw [List.mem_singleton.mp member] at fromHolder
        exact absurd fromHolder notHolder
    | approve spender amount =>
        obtain ⟨approved, approving, same⟩ := bind_eq_ok.mp done
        cases same
        cases member
    | transferFrom owner recipient amount =>
        obtain ⟨moved, moving, same⟩ := bind_eq_ok.mp done
        cases same
        rw [List.mem_singleton.mp member] at fromHolder ⊢
        have same : owner = holder := fromHolder
        subst same
        exact amount_of_unapproved unapproved moving

end Tokens
