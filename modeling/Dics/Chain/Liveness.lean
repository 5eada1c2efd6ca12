/-
Calls that nobody can block.

A position with debt is proof that its stablecoin takes orders from this Vault,
and the Vault holds the collateral of all positions.  In every reachable state a
user can therefore leave, whatever the price and the risk parameters are; a
liquidation can be stopped by its own arithmetic only.
-/

import Dics.Chain.Liquidation

open Transactions Tokens Words Totals

namespace Dics.Cdp

open Vault (World Position)

/-- Whoever owes stablecoins borrowed them through this Vault, and the Vault
holds what it owes.  No assumption is made on how the pair was wired. -/
structure Custody (addresses : Addresses) (collateral : Address) (world : World) : Prop where
  collateralToken : world.vault.collateralToken = collateral
  unapproved : world.tokens.Unapproved addresses.vault
  backing : totalCollateral world ≤ vaultBalance addresses collateral world
  coin : ∀ user, (world.vault.positions user).debtAmount ≠ 0 →
    world.vault.stableCoinSet = true ∧
      (world.coins world.vault.stableCoin).vault = addresses.vault

theorem custody_start (deployment : Deployment) :
    Custody deployment.addresses deployment.args.collateralTokenAddress deployment.start := by
  have backed := backed_start deployment
  exact ⟨backed.collateralToken, backed.unapproved, backed.backing,
    fun _ owes => absurd rfl owes⟩

section Steps

variable {addresses : Addresses} {collateral : Address} {world next : World}

/-- Minting and burning show the coin's vault; every other change leaves the
debts as they are. -/
private theorem coin_rebalanced {msg : Msg} {user : Address} {position : Position}
    (before : Custody addresses collateral world)
    (change : Vault.Rebalanced addresses.vault msg world next user position) (other : Address)
    (owes : (next.vault.positions other).debtAmount ≠ 0) :
    next.vault.stableCoinSet = true ∧
      (next.coins next.vault.stableCoin).vault = addresses.vault := by
  rw [change.wiring.stableCoin, change.wiring.stableCoinSet]
  cases change.debt with
  | kept coins same =>
      rw [coins]
      rw [change.positions] at owes
      by_cases changed : other = user
      · subst changed
        rw [Function.update_self, same] at owes
        exact before.coin other owes
      · rw [Function.update_of_ne changed] at owes
        exact before.coin other owes
  | minted recipient amount coin wired done coins grown =>
      obtain ⟨isVault, sameVault, _⟩ := StableCoin.mint_ok done
      rw [coins, Function.update_self]
      exact ⟨wired, sameVault.trans isVault.symm⟩
  | burned account amount coin wired done coins covered shrunk =>
      obtain ⟨isVault, sameVault, _⟩ := StableCoin.burn_ok done
      rw [coins, Function.update_self]
      exact ⟨wired, sameVault.trans isVault.symm⟩

private theorem custody_of_unmoved (before : Custody addresses collateral world)
    (unmoved : Vault.Unmoved world next)
    (coin : ∀ user, (world.vault.positions user).debtAmount ≠ 0 →
      next.vault.stableCoinSet = true ∧
        (world.coins next.vault.stableCoin).vault = addresses.vault) :
    Custody addresses collateral next := by
  refine ⟨unmoved.collateralToken.trans before.collateralToken, ?_, ?_, ?_⟩
  · rw [unmoved.tokens]
    exact before.unapproved
  · unfold totalCollateral vaultBalance
    rw [unmoved.tokens, unmoved.positions]
    exact before.backing
  · rw [unmoved.positions, unmoved.coins]
    exact coin

private theorem custody_vault {call : Call addresses} {fn : Vault.Fn}
    {receipt : Receipt Vault.Event} (before : Custody addresses collateral world)
    (done : Vault.callFn addresses.vault call.msg world fn = .ok (next, receipt)) :
    Custody addresses collateral next := by
  rcases Vault.callFn_cases done with
    ⟨user, position, change⟩ | ⟨address, sets, unmoved, _⟩ | ⟨unmoved, sameCoin, sameSet⟩
  · obtain ⟨backing, unapproved⟩ := backing_rebalanced call.outside before.collateralToken
      before.unapproved before.backing change
    exact ⟨change.wiring.collateralToken.trans before.collateralToken, unapproved, backing,
      coin_rebalanced before change⟩
  · apply custody_of_unmoved before unmoved
    intro user owes
    subst sets
    simp only [Vault.callFn, Vault.setStableCoin, Vault.onlyRole, require_bind_eq_ok] at done
    have set := (before.coin user owes).1
    rw [done.2.1] at set
    cases set
  · apply custody_of_unmoved before unmoved
    rw [sameCoin, sameSet]
    exact before.coin

theorem custody_step {call : Call addresses} {receipt : Receipt Vault.Event}
    (deployed : addresses.vault ≠ 0) (before : Custody addresses collateral world)
    (done : exec addresses world call = .ok (next, receipt)) :
    Custody addresses collateral next := by
  unfold exec at done
  cases target : call.target with
  | vault fn =>
      rw [target] at done
      exact custody_vault before (mapError_eq_ok.mp done)
  | coin address fn =>
      rw [target] at done
      obtain ⟨coin, called, same⟩ := bind_eq_ok.mp done
      cases same
      refine { before with coin := ?_ }
      intro user owes
      obtain ⟨set, vault⟩ := before.coin user owes
      refine ⟨set, ?_⟩
      change (Function.update world.coins address coin world.vault.stableCoin).vault = _
      by_cases here : world.vault.stableCoin = address
      · rw [here] at vault ⊢
        rw [Function.update_self]
        have isSet : (world.coins address).vault ≠ 0 := by
          rw [vault]
          exact deployed
        exact (StableCoin.callFn_vault isSet (mapError_eq_ok.mp called)).trans vault
      · rw [Function.update_of_ne here]
        exact vault
  | oracle address fn =>
      rw [target] at done
      obtain ⟨oracle, _, same⟩ := bind_eq_ok.mp done
      cases same
      exact custody_of_unmoved before ⟨rfl, rfl, rfl, rfl⟩ before.coin
  | token token act =>
      rw [target] at done
      obtain ⟨⟨tokens, movements⟩, acted, same⟩ := bind_eq_ok.mp done
      cases same
      have untouched := act_untouched before.unapproved call.outside (mapError_eq_ok.mp acted)
      exact
        { before with
          unapproved := untouched.unapproved
          backing := Nat.le_trans before.backing (untouched.balances collateral) }

end Steps

theorem custody_run (deployment : Deployment) (deployed : deployment.addresses.vault ≠ 0)
    (calls : List (Call deployment.addresses)) :
    Custody deployment.addresses deployment.args.collateralTokenAddress
      (deployment.run calls) := by
  refine @run_induction _ _ _ _ (exec deployment.addresses)
    (fun world _ =>
      Custody deployment.addresses deployment.args.collateralTokenAddress world)
    (fun _ => True) deployment.start (custody_start deployment) ?_ calls
    (fun _ _ => trivial)
  intro world past call next receipt before done _
  exact custody_step deployed before done

theorem Custody.held {addresses : Addresses} {collateral : Address} {world : World}
    (custody : Custody addresses collateral world) (user : Address) :
    (world.vault.positions user).collateralAmount ≤
      (world.tokens collateral).balances addresses.vault :=
  Nat.le_trans (le_tally Position.collateralAmount world.vault.positions user) custody.backing

end Dics.Cdp

/-! ### Leaving -/

namespace Dics.Vault

/-- The same world under another price and other risk parameters. -/
def World.repriced (world : World)
    (priceScaled minCollateralRatioBps liquidationPenaltyBps : Nat) : World :=
  { world with
    vault := { world.vault with
      minCollateralRatioBps := minCollateralRatioBps
      liquidationPenaltyBps := liquidationPenaltyBps }
    oracles := Function.update world.oracles world.vault.priceOracle
      { world.oracles world.vault.priceOracle with priceScaled := priceScaled } }

/-- Repays the whole debt, if there is one. -/
def repayAll (self : Address) (msg : Msg) (world : World) : Except Error World :=
  if (world.vault.positions msg.sender).debtAmount = 0 then .ok world
  else (repayDebt self (world.vault.positions msg.sender).debtAmount msg world).map Prod.fst

/-- Withdraws the whole collateral, if there is any. -/
def withdrawAll (self : Address) (msg : Msg) (world : World) : Except Error World :=
  if (world.vault.positions msg.sender).collateralAmount = 0 then .ok world
  else
    (withdrawCollateral self (world.vault.positions msg.sender).collateralAmount msg world).map
      Prod.fst

section Leaving

variable {self : Address} {msg : Msg} {world : World}

/-- What repaying everything leaves: the collateral and the tokens as they were,
and no debt. -/
structure Repaid (user : Address) (world repaid : World) : Prop where
  position : repaid.vault.positions user =
    ⟨(world.vault.positions user).collateralAmount, 0⟩
  paused : repaid.vault.paused = world.vault.paused
  collateralToken : repaid.vault.collateralToken = world.vault.collateralToken
  tokens : repaid.tokens = world.tokens

theorem repayAll_succeeds (real : msg.sender ≠ 0) (unpaused : world.vault.paused = false)
    (wired : (world.vault.positions msg.sender).debtAmount ≠ 0 →
      world.vault.stableCoinSet = true ∧ (world.coins world.vault.stableCoin).vault = self)
    (funded : (world.vault.positions msg.sender).debtAmount ≤
      (world.coins world.vault.stableCoin).token.balances msg.sender) :
    ∃ repaid, repayAll self msg world = .ok repaid ∧ Repaid msg.sender world repaid := by
  unfold repayAll
  by_cases noDebt : (world.vault.positions msg.sender).debtAmount = 0
  · rw [if_pos noDebt]
    refine ⟨world, rfl, ?_, rfl, rfl, rfl⟩
    rw [← noDebt]
  · rw [if_neg noDebt]
    obtain ⟨set, vault⟩ := wired noDebt
    obtain ⟨coin, burned⟩ := StableCoin.burn_of_covered vault real funded
    have done : ∃ receipt, repayDebt self (world.vault.positions msg.sender).debtAmount msg world =
        .ok ((world.setCoin coin).setPosition msg.sender
          { world.vault.positions msg.sender with
            debtAmount := (world.vault.positions msg.sender).debtAmount -
              (world.vault.positions msg.sender).debtAmount }, receipt) := by
      simp only [repayDebt, whenNotPaused, require_bind_eq_ok]
      exact ⟨_, unpaused, set, noDebt, Nat.le_refl _,
        bind_eq_ok.mpr ⟨coin, mapError_eq_ok.mpr burned, rfl⟩⟩
    obtain ⟨receipt, repaid⟩ := done
    rw [repaid]
    refine ⟨_, rfl, ?_, rfl, rfl, rfl⟩
    simp only [World.setPosition, Function.update_self, Nat.sub_self]

/-- Without debt no ratio is computed, so a withdrawal needs the tokens only. -/
theorem withdrawAll_succeeds (deployed : self ≠ 0) (real : msg.sender ≠ 0)
    (outside : msg.sender ≠ self) (unpaused : world.vault.paused = false)
    (noDebt : (world.vault.positions msg.sender).debtAmount = 0)
    (held : (world.vault.positions msg.sender).collateralAmount ≤
      (world.tokens world.vault.collateralToken).balances self) :
    ∃ left, withdrawAll self msg world = .ok left ∧
      left.vault.positions msg.sender = ⟨0, 0⟩ ∧
      (left.tokens world.vault.collateralToken).balances msg.sender =
        (world.tokens world.vault.collateralToken).balances msg.sender +
          (world.vault.positions msg.sender).collateralAmount := by
  unfold withdrawAll
  by_cases empty : (world.vault.positions msg.sender).collateralAmount = 0
  · rw [if_pos empty]
    refine ⟨world, rfl, ?_, ?_⟩
    · have whole : world.vault.positions msg.sender =
          ⟨(world.vault.positions msg.sender).collateralAmount,
            (world.vault.positions msg.sender).debtAmount⟩ := rfl
      rw [empty, noDebt] at whole
      exact whole
    · rw [empty, Nat.add_zero]
  · rw [if_neg empty]
    have sent := act_transfer_of_covered world.tokens deployed real held
    have meets : meetsMinRatio world 0 0 = some true := rfl
    have done : ∃ receipt, withdrawCollateral self
        (world.vault.positions msg.sender).collateralAmount msg world =
        .ok ({ world with
            tokens := Function.update world.tokens world.vault.collateralToken
              ((world.tokens world.vault.collateralToken).move self msg.sender
                (world.vault.positions msg.sender).collateralAmount) }.setPosition msg.sender
          ⟨0, 0⟩, receipt) := by
      simp only [withdrawCollateral, whenNotPaused, require_bind_eq_ok, orRevert_bind_eq_ok,
        noDebt, Nat.sub_self]
      exact ⟨_, unpaused, empty, Nat.le_refl _, true, meets, rfl,
        bind_eq_ok.mpr ⟨_, mapError_eq_ok.mpr sent, rfl⟩⟩
    obtain ⟨receipt, withdrawn⟩ := done
    rw [withdrawn]
    refine ⟨_, rfl, Function.update_self _ _ _, ?_⟩
    simp only [World.setPosition, Function.update_self]
    exact move_balances_recipient _ _ outside.symm

end Leaving

end Dics.Vault

namespace Dics.Cdp

open Vault (World Position)

/-- Whoever holds the stablecoins they owe can repay and withdraw everything,
at any price and under any risk parameters. -/
theorem user_can_leave (deployment : Deployment) (deployed : deployment.addresses.vault ≠ 0)
    (calls : List (Call deployment.addresses)) (user : Address) (real : user ≠ 0)
    (outside : user ≠ deployment.addresses.vault)
    (unpaused : (deployment.run calls).vault.paused = false)
    (funded : ((deployment.run calls).vault.positions user).debtAmount ≤
      ((deployment.run calls).coins
        (deployment.run calls).vault.stableCoin).token.balances user)
    (priceScaled minCollateralRatioBps liquidationPenaltyBps repaidAt withdrawnAt : Nat) :
    ∃ repaid left,
      Vault.repayAll deployment.addresses.vault ⟨user, repaidAt⟩
          ((deployment.run calls).repriced priceScaled minCollateralRatioBps
            liquidationPenaltyBps) = .ok repaid ∧
        Vault.withdrawAll deployment.addresses.vault ⟨user, withdrawnAt⟩ repaid = .ok left ∧
        left.vault.positions user = ⟨0, 0⟩ ∧
        (left.tokens deployment.args.collateralTokenAddress).balances user =
          ((deployment.run calls).tokens
              deployment.args.collateralTokenAddress).balances user +
            ((deployment.run calls).vault.positions user).collateralAmount := by
  have custody := custody_run deployment deployed calls
  obtain ⟨repaid, repays, after⟩ := @Vault.repayAll_succeeds deployment.addresses.vault
    ⟨user, repaidAt⟩ ((deployment.run calls).repriced priceScaled minCollateralRatioBps
      liquidationPenaltyBps) real unpaused (custody.coin user) funded
  have token : repaid.vault.collateralToken = deployment.args.collateralTokenAddress :=
    after.collateralToken.trans custody.collateralToken
  have tokens : repaid.tokens = (deployment.run calls).tokens := after.tokens
  have position : repaid.vault.positions user =
      ⟨((deployment.run calls).vault.positions user).collateralAmount, 0⟩ := after.position
  have collateral : (repaid.vault.positions user).collateralAmount =
      ((deployment.run calls).vault.positions user).collateralAmount := by rw [position]
  have noDebt : (repaid.vault.positions user).debtAmount = 0 := by rw [position]
  have held : (repaid.vault.positions user).collateralAmount ≤
      (repaid.tokens repaid.vault.collateralToken).balances deployment.addresses.vault := by
    rw [collateral, tokens, token]
    exact custody.held user
  obtain ⟨left, withdraws, closed, received⟩ := @Vault.withdrawAll_succeeds
    deployment.addresses.vault ⟨user, withdrawnAt⟩ repaid deployed real outside
    (after.paused.trans unpaused) noDebt held
  refine ⟨repaid, left, repays, withdraws, closed, ?_⟩
  rw [token, tokens] at received
  exact received.trans (congrArg _ collateral)

/-- `0xA1` leaves the sample Vault with its `90` while the price is zero. -/
theorem user_can_leave_sample :
    ∃ repaid left,
      Vault.repayAll 0x5A ⟨0xA1, 20⟩ ((sampleDeployment.run sampleCalls).repriced 0 15000 1000) =
          .ok repaid ∧
        Vault.withdrawAll 0x5A ⟨0xA1, 21⟩ repaid = .ok left ∧
        left.vault.positions 0xA1 = ⟨0, 0⟩ ∧
        (left.tokens 0x77).balances 0xA1 =
          ((sampleDeployment.run sampleCalls).tokens 0x77).balances 0xA1 +
            ((sampleDeployment.run sampleCalls).vault.positions 0xA1).collateralAmount :=
  user_can_leave sampleDeployment (by decide) sampleCalls 0xA1 (by decide) (by decide)
    (by decide) (by decide) 0 15000 1000 20 21

end Dics.Cdp

/-! ### Liquidating -/

namespace Dics.Vault

theorem isLiquidatable_eq_true {world : World} {user : Address} :
    isLiquidatable world user = some true ↔
      meetsMinRatio world (world.vault.positions user).collateralAmount
        (world.vault.positions user).debtAmount = some false := by
  simp only [isLiquidatable, Option.map_eq_some_iff, Bool.not_eq_true', exists_eq_right]

theorem owes_of_breached {world : World} {collateralAmount debtAmount : Nat}
    (breached : meetsMinRatio world collateralAmount debtAmount = some false) :
    debtAmount ≠ 0 := by
  intro noDebt
  rw [meetsMinRatio, if_pos noDebt] at breached
  cases breached

theorem liquidate_succeeds {self user : Address} {debtToCover : Nat} {msg : Msg} {world : World}
    (deployed : self ≠ 0) (real : msg.sender ≠ 0) (unpaused : world.vault.paused = false)
    (set : world.vault.stableCoinSet = true)
    (breached : meetsMinRatio world (world.vault.positions user).collateralAmount
      (world.vault.positions user).debtAmount = some false)
    (within : debtToCover ≤ (world.vault.positions user).debtAmount)
    (convertible : Convertible world.price world.vault.liquidationPenaltyBps debtToCover)
    {coin : StableCoin.State}
    (burned : StableCoin.burn self msg.sender debtToCover
      (world.coins world.vault.stableCoin) = .ok coin)
    (held : (world.vault.positions user).collateralAmount ≤
      (world.tokens world.vault.collateralToken).balances self) :
    ∃ next receipt, liquidate self user debtToCover msg world = .ok (next, receipt) := by
  have computed := seizure_eq_some.mpr ⟨convertible, rfl⟩
  have capped : (if fullSeizure world.price world.vault.liquidationPenaltyBps debtToCover >
        (world.vault.positions user).collateralAmount
      then (world.vault.positions user).collateralAmount
      else fullSeizure world.price world.vault.liquidationPenaltyBps debtToCover) ≤
        (world.tokens world.vault.collateralToken).balances self := by
    split
    · exact held
    · rename_i fits
      exact Nat.le_trans (Nat.le_of_not_gt fits) held
  have sent := act_transfer_of_covered world.tokens deployed real capped
  simp only [liquidate, whenNotPaused, require_bind_eq_ok, orRevert_bind_eq_ok]
  exact ⟨_, _, unpaused, set, false, breached, rfl, within, _, computed,
    bind_eq_ok.mpr ⟨coin, mapError_eq_ok.mpr burned,
      bind_eq_ok.mpr ⟨_, mapError_eq_ok.mpr sent, rfl⟩⟩⟩

end Dics.Vault

namespace Dics.Cdp

/-- In a reachable state a liquidation of a liquidatable position, by somebody
who can pay for it, fails for one reason only: the conversion of the covered
debt into collateral panics. -/
theorem liquidation_succeeds_iff (deployment : Deployment)
    (deployed : deployment.addresses.vault ≠ 0) (calls : List (Call deployment.addresses))
    (msg : Msg) (real : msg.sender ≠ 0) (user : Address) (debtToCover : Nat)
    (unpaused : (deployment.run calls).vault.paused = false)
    (liquidatable : Vault.isLiquidatable (deployment.run calls) user = some true)
    (within : debtToCover ≤ ((deployment.run calls).vault.positions user).debtAmount)
    (funded : debtToCover ≤ ((deployment.run calls).coins
      (deployment.run calls).vault.stableCoin).token.balances msg.sender) :
    (∃ next receipt, Vault.liquidate deployment.addresses.vault user debtToCover msg
        (deployment.run calls) = .ok (next, receipt)) ↔
      Vault.Convertible (deployment.run calls).price
        (deployment.run calls).vault.liquidationPenaltyBps debtToCover := by
  constructor
  · rintro ⟨next, receipt, done⟩
    exact (Vault.liquidate_liquidated done).convertible
  · intro convertible
    have custody := custody_run deployment deployed calls
    have breached := Vault.isLiquidatable_eq_true.mp liquidatable
    obtain ⟨set, vault⟩ := custody.coin user (Vault.owes_of_breached breached)
    obtain ⟨coin, burned⟩ := StableCoin.burn_of_covered vault real funded
    have held := custody.held user
    rw [← custody.collateralToken] at held
    exact Vault.liquidate_succeeds deployed real unpaused set breached within convertible burned
      held

theorem liquidation_succeeds_iff_sample :
    ∃ next receipt, selfLiquidation (115 * 10 ^ 16) 80 = .ok (next, receipt) :=
  (liquidation_succeeds_iff sampleDeployment (by decide) (priceDropCalls (115 * 10 ^ 16))
    ⟨0xA1, 20⟩ (by decide) 0xA1 80 (by decide) (by decide) (by decide) (by decide)).mpr
    ⟨by decide, by decide, by decide, by decide⟩

/-- At a price of zero `isLiquidatable` says yes and `liquidate` divides by it. -/
theorem liquidatable_position_cannot_be_liquidated :
    (worldAtPrice 0).vault.paused = false ∧ (worldAtPrice 0).vault.stableCoinSet = true ∧
      Vault.isLiquidatable (worldAtPrice 0) 0xA1 = some true ∧
      80 ≤ ((worldAtPrice 0).vault.positions 0xA1).debtAmount ∧
      80 ≤ ((worldAtPrice 0).coins (worldAtPrice 0).vault.stableCoin).token.balances 0xA1 ∧
      selfLiquidation 0 80 = .error .arithmeticPanic :=
  ⟨by decide, by decide, by decide, by decide, by decide, rfl⟩

end Dics.Cdp
