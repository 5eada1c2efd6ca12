/-
The position of a user who stays away.

While a user makes no call, prices and risk parameters may change and everybody
else may act.  The position then only shrinks, and only by liquidations of it at
moments when it was liquidatable; these account for all that is gone.
-/

import Dics.Chain.Liquidation
import Dics.Chain.Liveness

open Transactions Tokens Words

namespace Dics.Vault

/-- A liquidation writes the liquidated position and no other. -/
theorem liquidate_positions {self user : Address} {debtToCover : Nat} {msg : Msg}
    {world next : World} {receipt : Receipt Event}
    (done : liquidate self user debtToCover msg world = .ok (next, receipt)) :
    ∀ other, other ≠ user → next.vault.positions other = world.vault.positions other := by
  obtain ⟨position, change⟩ := liquidate_ok done
  intro other distinct
  rw [change.positions, Function.update_of_ne distinct]

/-- Every other function writes the caller's position at most. -/
theorem callFn_others {self : Address} {msg : Msg} {world next : World} {receipt : Receipt Event}
    {fn : Fn} (done : callFn self msg world fn = .ok (next, receipt))
    (noLiquidation : ∀ user debtToCover, fn ≠ .liquidate user debtToCover) :
    ∀ other, other ≠ msg.sender → next.vault.positions other = world.vault.positions other := by
  intro other distinct
  cases fn with
  | liquidate user debtToCover => exact absurd rfl (noLiquidation user debtToCover)
  | depositCollateral amount =>
      obtain ⟨_, change⟩ := depositCollateral_ok done
      rw [change.positions, Function.update_of_ne distinct]
  | withdrawCollateral amount =>
      obtain ⟨_, change⟩ := withdrawCollateral_ok done
      rw [change.positions, Function.update_of_ne distinct]
  | mintStableCoin amount =>
      obtain ⟨_, change⟩ := mintStableCoin_ok done
      rw [change.positions, Function.update_of_ne distinct]
  | repayDebt amount =>
      obtain ⟨_, change⟩ := repayDebt_ok done
      rw [change.positions, Function.update_of_ne distinct]
  | setStableCoin stableCoinAddress =>
      simp only [callFn, setStableCoin, onlyRole, require_bind_eq_ok, pure_eq_ok] at done
      obtain ⟨_, _, same⟩ := done
      cases same
      rfl
  | _ => rw [(administration_unmoved done rfl).1.positions]

end Dics.Vault

namespace Dics.Cdp

open Vault (World Position)

variable {addresses : Addresses}

/-- The debt of `user` that a call covers as a liquidator. -/
def Call.covers (user : Address) (call : Call addresses) : Option Nat :=
  match call.target with
  | .vault (.liquidate liquidated debtToCover) =>
      if liquidated = user then some debtToCover else none
  | _ => none

def coveredDebt (user : Address) (commits : List (Commit addresses)) : Nat :=
  (commits.map fun commit => (commit.call.covers user).getD 0).sum

def seizedCollateral (user : Address) (commits : List (Commit addresses)) : Nat :=
  (commits.map fun commit =>
    if (commit.call.covers user).isSome then Vault.collateralSeized commit.output else 0).sum

/-- A liquidation was due and took no more than the covered debt and penalty
were worth. -/
structure FairLiquidation (user : Address) (debtToCover : Nat) (commit : Commit addresses) :
    Prop where
  due : Vault.isLiquidatable commit.before user = some true
  fair : Vault.collateralSeized commit.output * commit.before.price * 10000 ≤
    debtToCover * 10 ^ 18 * (10000 + commit.before.vault.liquidationPenaltyBps)

/-- `start` is the position the user left behind. -/
structure LeftAlone (user : Address) (start : Position) (world : World)
    (past : List (Commit addresses)) : Prop where
  debt : (world.vault.positions user).debtAmount + coveredDebt user past = start.debtAmount
  collateral : (world.vault.positions user).collateralAmount + seizedCollateral user past =
    start.collateralAmount
  liquidations : ∀ commit ∈ past, ∀ debtToCover ∈ commit.call.covers user,
    FairLiquidation user debtToCover commit

theorem coveredDebt_snoc (user : Address) (past : List (Commit addresses))
    (commit : Commit addresses) :
    coveredDebt user (past ++ [commit]) =
      coveredDebt user past + (commit.call.covers user).getD 0 := by
  simp only [coveredDebt, List.map_append, List.map_cons, List.map_nil, List.sum_append,
    List.sum_cons, List.sum_nil, Nat.add_zero]

theorem seizedCollateral_snoc (user : Address) (past : List (Commit addresses))
    (commit : Commit addresses) :
    seizedCollateral user (past ++ [commit]) =
      seizedCollateral user past +
        (if (commit.call.covers user).isSome then Vault.collateralSeized commit.output else 0) := by
  simp only [seizedCollateral, List.map_append, List.map_cons, List.map_nil, List.sum_append,
    List.sum_cons, List.sum_nil, Nat.add_zero]

section Steps

variable {user : Address} {start : Position} {world next : World}
  {past : List (Commit addresses)} {call : Call addresses} {receipt : Receipt Vault.Event}

theorem LeftAlone.untouched (before : LeftAlone user start world past)
    (covers : call.covers user = none)
    (same : next.vault.positions user = world.vault.positions user) :
    LeftAlone user start next (past ++ [⟨world, call, receipt, next⟩]) := by
  refine ⟨?_, ?_, ?_⟩
  · rw [coveredDebt_snoc, covers, same]
    exact before.debt
  · rw [seizedCollateral_snoc, covers, same]
    exact before.collateral
  · intro commit member debtToCover covered
    rcases List.mem_append.mp member with earlier | last
    · exact before.liquidations commit earlier debtToCover covered
    · rw [List.mem_singleton.mp last, covers] at covered
      cases covered

theorem LeftAlone.liquidated (before : LeftAlone user start world past) {debtToCover : Nat}
    (target : call.target = .vault (.liquidate user debtToCover))
    (done : Vault.liquidate addresses.vault user debtToCover call.msg world =
      .ok (next, receipt)) :
    LeftAlone user start next (past ++ [⟨world, call, receipt, next⟩]) := by
  have covers : call.covers user = some debtToCover := by
    rw [Call.covers, target]
    exact if_pos rfl
  have did := Vault.liquidate_liquidated done
  have owed := before.debt
  have held := before.collateral
  refine ⟨?_, ?_, ?_⟩
  · have covered := did.covered
    rw [coveredDebt_snoc, covers, did.position]
    show _ - debtToCover + (_ + debtToCover) = _
    omega
  · have seized := did.seized_le_held
    rw [seizedCollateral_snoc, covers, did.position]
    show _ - Vault.collateralSeized receipt + (_ + Vault.collateralSeized receipt) = _
    omega
  · intro commit member amount covered
    rcases List.mem_append.mp member with earlier | last
    · exact before.liquidations commit earlier amount covered
    · rw [List.mem_singleton.mp last] at covered ⊢
      rw [Option.mem_def, covers] at covered
      cases covered
      refine ⟨Vault.isLiquidatable_eq_true.mpr (Vault.liquidate_breached done), ?_⟩
      calc Vault.collateralSeized receipt * world.price * 10000
          ≤ Vault.fullSeizure world.price world.vault.liquidationPenaltyBps debtToCover *
              world.price * 10000 :=
            Nat.mul_le_mul_right _ (Nat.mul_le_mul_right _ did.seized_le_full)
        _ ≤ debtToCover * 10 ^ 18 * (10000 + world.vault.liquidationPenaltyBps) :=
            Vault.fullSeizure_value_le _ _ _

theorem leftAlone_step (before : LeftAlone user start world past)
    (done : exec addresses world call = .ok (next, receipt)) (away : call.msg.sender ≠ user) :
    LeftAlone user start next (past ++ [⟨world, call, receipt, next⟩]) := by
  unfold exec at done
  cases target : call.target with
  | vault fn =>
      rw [target] at done
      have called := mapError_eq_ok.mp done
      by_cases liquidates : ∃ debtToCover, fn = .liquidate user debtToCover
      · obtain ⟨debtToCover, rfl⟩ := liquidates
        exact before.liquidated target called
      · have covers : call.covers user = none := by
          rw [Call.covers, target]
          split
          · rename_i liquidated debtToCover same
            cases same
            refine if_neg ?_
            rintro rfl
            exact liquidates ⟨debtToCover, rfl⟩
          · rfl
        refine before.untouched covers ?_
        by_cases others : ∃ other debtToCover, fn = .liquidate other debtToCover
        · obtain ⟨other, debtToCover, rfl⟩ := others
          refine Vault.liquidate_positions called user ?_
          rintro rfl
          exact liquidates ⟨debtToCover, rfl⟩
        · refine Vault.callFn_others called ?_ user away.symm
          intro other debtToCover same
          exact others ⟨other, debtToCover, same⟩
  | coin address fn =>
      rw [target] at done
      obtain ⟨_, _, same⟩ := bind_eq_ok.mp done
      cases same
      refine before.untouched ?_ rfl
      rw [Call.covers, target]
  | oracle address fn =>
      rw [target] at done
      obtain ⟨_, _, same⟩ := bind_eq_ok.mp done
      cases same
      refine before.untouched ?_ rfl
      rw [Call.covers, target]
  | token token act =>
      rw [target] at done
      obtain ⟨⟨_, _⟩, _, same⟩ := bind_eq_ok.mp done
      cases same
      refine before.untouched ?_ rfl
      rw [Call.covers, target]

end Steps

/-- Whatever others do while a user stays away, and however the price moves, the
user loses debt and collateral to liquidations only, exactly as much as these
cover and seize, and each of them was due and fairly priced when it was made. -/
theorem absent_user_loses_only_to_liquidations (deployment : Deployment)
    (calls later : List (Call deployment.addresses)) (user : Address)
    (away : ∀ commit ∈ Transactions.history (exec deployment.addresses) (deployment.run calls)
      later, commit.call.msg.sender ≠ user) :
    LeftAlone user ((deployment.run calls).vault.positions user)
      (Transactions.run (exec deployment.addresses) (deployment.run calls) later)
      (Transactions.history (exec deployment.addresses) (deployment.run calls) later) := by
  refine @run_induction _ _ _ _ (exec deployment.addresses)
    (LeftAlone user ((deployment.run calls).vault.positions user))
    (fun commit => commit.call.msg.sender ≠ user) (deployment.run calls) ?_ ?_ later away
  · exact ⟨rfl, rfl, fun _ member => absurd member List.not_mem_nil⟩
  · intro world past call next receipt before done elsewhere
    exact leftAlone_step before done elsewhere

/-- `0xA1` owes `100` on `90` units of collateral and hands its stablecoins to `0xB2`. -/
def departedCalls : List (Call sampleAddresses) :=
  [ownerCall (.vault (.setStableCoin 0x5C)),
   ownerCall (.coin 0x5C (.setVault 0x5A)),
   borrowerCall (.vault (.depositCollateral 90)),
   borrowerCall (.vault (.mintStableCoin 100)),
   borrowerCall (.coin 0x5C (.transfer 0xB2 100)),
   ownerCall (.oracle 0x99 (.changeRole (.grantRole .priceSetter 0xAD)))]

/-- The price falls to one and a half, and `0xB2` covers `60` of the debt. -/
def liquidatorCalls : List (Call sampleAddresses) :=
  [ownerCall (.oracle 0x99 (.setPrice (15 * 10 ^ 17))),
   sampleCall 0xB2 (by decide) (by decide) (.vault (.liquidate 0xA1 60))]

theorem absent_user_loses_only_to_liquidations_sample :
    (sampleDeployment.run departedCalls).vault.positions 0xA1 = ⟨90, 100⟩ ∧
      (Transactions.run (exec sampleAddresses) (sampleDeployment.run departedCalls)
        liquidatorCalls).vault.positions 0xA1 = ⟨46, 40⟩ ∧
      LeftAlone 0xA1 ((sampleDeployment.run departedCalls).vault.positions 0xA1)
        (Transactions.run (exec sampleAddresses) (sampleDeployment.run departedCalls)
          liquidatorCalls)
        (Transactions.history (exec sampleAddresses) (sampleDeployment.run departedCalls)
          liquidatorCalls) :=
  ⟨by decide +kernel, by decide +kernel,
    absent_user_loses_only_to_liquidations sampleDeployment departedCalls liquidatorCalls 0xA1
      (by decide +kernel)⟩

end Dics.Cdp
