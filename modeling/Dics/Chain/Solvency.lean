/-
Positions under a steady price.

Only two of the five operations on a position check its ratio.  Deposits and
repayments are not checked, but they only raise the ratio, and a liquidation
needs the check to fail.  While price and risk parameters stand still, every
position therefore keeps the ratio it was last checked for.
-/

import Dics.Chain.Cdp

open Transactions Tokens Words

namespace Dics.Vault

/-- What `_meetsMinRatio` compares, in unbounded arithmetic. -/
def Collateralized (minCollateralRatioBps price : Nat) (position : Position) : Prop :=
  position.debtAmount = 0 ∨
    minCollateralRatioBps ≤
      position.collateralAmount * price / 10 ^ 18 * 10000 / position.debtAmount

instance (minCollateralRatioBps price : Nat) (position : Position) :
    Decidable (Collateralized minCollateralRatioBps price position) :=
  inferInstanceAs (Decidable (_ ∨ _))

def World.Collateralized (world : World) (position : Position) : Prop :=
  Vault.Collateralized world.vault.minCollateralRatioBps world.price position

theorem ratioBps_eq_some {price collateralAmount debtAmount ratio : Nat}
    (computed : ratioBps price collateralAmount debtAmount = some ratio) :
    collateralAmount * price / 10 ^ 18 * 10000 / debtAmount = ratio := by
  simp only [ratioBps, Option.bind_eq_bind, Option.bind_eq_some_iff, checkedMul_eq_some,
    checkedDiv_eq_some] at computed
  obtain ⟨value, ⟨_, rfl⟩, scaled, ⟨_, rfl⟩, _, same⟩ := computed
  exact same

/-- When the check does not overflow, it says exactly this. -/
theorem meetsMinRatio_eq_some {world : World} {position : Position} {meets : Bool}
    (checked : meetsMinRatio world position.collateralAmount position.debtAmount = some meets) :
    meets = true ↔ world.Collateralized position := by
  unfold meetsMinRatio at checked
  unfold World.Collateralized Collateralized
  by_cases noDebt : position.debtAmount = 0
  · rw [if_pos noDebt] at checked
    cases checked
    exact ⟨fun _ => Or.inl noDebt, fun _ => rfl⟩
  · rw [if_neg noDebt] at checked
    simp only [Option.bind_eq_bind, Option.pure_def, Option.bind_eq_some_iff,
      Option.some.injEq] at checked
    obtain ⟨ratio, computed, rfl⟩ := checked
    rw [ratioBps_eq_some computed, decide_eq_true_iff]
    constructor
    · intro enough
      exact Or.inr enough
    · intro either
      exact either.resolve_left noDebt

/-- More collateral and less debt never lower the ratio. -/
theorem Collateralized.ease {minCollateralRatioBps price : Nat} {before after : Position}
    (passes : Collateralized minCollateralRatioBps price before)
    (collateral : before.collateralAmount ≤ after.collateralAmount)
    (debt : after.debtAmount ≤ before.debtAmount) :
    Collateralized minCollateralRatioBps price after := by
  rcases passes with noDebt | enough
  · left
    omega
  · by_cases repaid : after.debtAmount = 0
    · exact Or.inl repaid
    · right
      have value : before.collateralAmount * price / 10 ^ 18 ≤
          after.collateralAmount * price / 10 ^ 18 :=
        Nat.div_le_div_right (Nat.mul_le_mul_right price collateral)
      calc minCollateralRatioBps
          ≤ before.collateralAmount * price / 10 ^ 18 * 10000 / before.debtAmount := enough
        _ ≤ after.collateralAmount * price / 10 ^ 18 * 10000 / before.debtAmount :=
            Nat.div_le_div_right (Nat.mul_le_mul_right 10000 value)
        _ ≤ after.collateralAmount * price / 10 ^ 18 * 10000 / after.debtAmount :=
            Nat.div_le_div_left debt (Nat.pos_of_ne_zero repaid)

/-- Both floors only lose, so the inequality without floors follows. -/
theorem Collateralized.exact {minCollateralRatioBps price : Nat} {position : Position}
    (passes : Collateralized minCollateralRatioBps price position) :
    minCollateralRatioBps * position.debtAmount * 10 ^ 18 ≤
      position.collateralAmount * price * 10000 := by
  rcases passes with noDebt | enough
  · rw [noDebt, Nat.mul_zero, Nat.zero_mul]
    exact Nat.zero_le _
  · have scaled : minCollateralRatioBps * position.debtAmount ≤
        position.collateralAmount * price / 10 ^ 18 * 10000 :=
      Nat.le_trans (Nat.mul_le_mul_right _ enough) (Nat.div_mul_le_self _ _)
    have value : position.collateralAmount * price / 10 ^ 18 * 10 ^ 18 ≤
        position.collateralAmount * price := Nat.div_mul_le_self _ _
    calc minCollateralRatioBps * position.debtAmount * 10 ^ 18
        ≤ position.collateralAmount * price / 10 ^ 18 * 10000 * 10 ^ 18 :=
          Nat.mul_le_mul_right _ scaled
      _ = position.collateralAmount * price / 10 ^ 18 * 10 ^ 18 * 10000 :=
          Nat.mul_right_comm _ _ _
      _ ≤ position.collateralAmount * price * 10000 := Nat.mul_le_mul_right _ value

/-! ### What a committed call asked of the position it wrote -/

/-- The sender's own position got better or was checked; anybody else's was
written by a liquidation, after the check had failed. -/
inductive PositionWrite (msg : Msg) (world : World) : Address → Position → Prop where
  | eased (position : Position)
      (collateral : (world.vault.positions msg.sender).collateralAmount ≤
        position.collateralAmount)
      (debt : position.debtAmount ≤ (world.vault.positions msg.sender).debtAmount) :
      PositionWrite msg world msg.sender position
  | checked (position : Position)
      (meets : meetsMinRatio world position.collateralAmount position.debtAmount = some true) :
      PositionWrite msg world msg.sender position
  | liquidated (user : Address) (position : Position)
      (breached : meetsMinRatio world (world.vault.positions user).collateralAmount
        (world.vault.positions user).debtAmount = some false) :
      PositionWrite msg world user position

section Calls

variable {self : Address} {msg : Msg} {world next : World} {receipt : Receipt Event}

theorem depositCollateral_eases {amount : Nat}
    (done : depositCollateral self amount msg world = .ok (next, receipt)) :
    ∃ position, PositionWrite msg world msg.sender position ∧
      next.vault.positions = Function.update world.vault.positions msg.sender position := by
  simp only [depositCollateral, whenNotPaused, require_bind_eq_ok] at done
  obtain ⟨_, _, receiving⟩ := done
  obtain ⟨⟨tokens, movements⟩, _, adding⟩ := bind_eq_ok.mp receiving
  simp only [orRevert_bind_eq_ok, checkedAdd_eq_some, pure_eq_ok] at adding
  obtain ⟨_, ⟨_, rfl⟩, same⟩ := adding
  cases same
  refine ⟨_, .eased _ ?_ ?_, rfl⟩
  · exact Nat.le_add_right _ _
  · exact Nat.le_refl _

theorem withdrawCollateral_checks {amount : Nat}
    (done : withdrawCollateral self amount msg world = .ok (next, receipt)) :
    ∃ position, PositionWrite msg world msg.sender position ∧
      next.vault.positions = Function.update world.vault.positions msg.sender position := by
  simp only [withdrawCollateral, whenNotPaused, require_bind_eq_ok, orRevert_bind_eq_ok] at done
  obtain ⟨_, _, _, _, checked, rfl, sending⟩ := done
  obtain ⟨⟨tokens, movements⟩, _, same⟩ := bind_eq_ok.mp sending
  cases same
  exact ⟨_, .checked _ checked, rfl⟩

theorem mintStableCoin_checks {amount : Nat}
    (done : mintStableCoin self amount msg world = .ok (next, receipt)) :
    ∃ position, PositionWrite msg world msg.sender position ∧
      next.vault.positions = Function.update world.vault.positions msg.sender position := by
  simp only [mintStableCoin, whenNotPaused, require_bind_eq_ok, orRevert_bind_eq_ok] at done
  obtain ⟨_, _, _, newDebt, _, _, checked, rfl, minting⟩ := done
  obtain ⟨coin, _, same⟩ := bind_eq_ok.mp minting
  cases same
  exact ⟨_, .checked _ checked, rfl⟩

theorem repayDebt_eases {amount : Nat}
    (done : repayDebt self amount msg world = .ok (next, receipt)) :
    ∃ position, PositionWrite msg world msg.sender position ∧
      next.vault.positions = Function.update world.vault.positions msg.sender position := by
  simp only [repayDebt, whenNotPaused, require_bind_eq_ok] at done
  obtain ⟨_, _, _, _, burning⟩ := done
  obtain ⟨coin, _, same⟩ := bind_eq_ok.mp burning
  cases same
  refine ⟨_, .eased _ ?_ ?_, rfl⟩
  · exact Nat.le_refl _
  · exact Nat.sub_le _ _

theorem liquidate_breached {user : Address} {debtToCover : Nat}
    (done : liquidate self user debtToCover msg world = .ok (next, receipt)) :
    meetsMinRatio world (world.vault.positions user).collateralAmount
      (world.vault.positions user).debtAmount = some false := by
  simp only [liquidate, whenNotPaused, require_bind_eq_ok, orRevert_bind_eq_ok] at done
  obtain ⟨_, _, _, breached, rfl, _⟩ := done
  exact breached

theorem callFn_positions {fn : Fn} (done : callFn self msg world fn = .ok (next, receipt)) :
    next.vault.positions = world.vault.positions ∨
      ∃ user position, PositionWrite msg world user position ∧
        next.vault.positions = Function.update world.vault.positions user position := by
  cases fn with
  | depositCollateral amount => exact Or.inr ⟨_, depositCollateral_eases done⟩
  | withdrawCollateral amount => exact Or.inr ⟨_, withdrawCollateral_checks done⟩
  | mintStableCoin amount => exact Or.inr ⟨_, mintStableCoin_checks done⟩
  | repayDebt amount => exact Or.inr ⟨_, repayDebt_eases done⟩
  | liquidate user debtToCover =>
      obtain ⟨position, change⟩ := liquidate_ok done
      exact Or.inr ⟨user, position, .liquidated user position (liquidate_breached done),
        change.positions⟩
  | setStableCoin stableCoinAddress =>
      simp only [callFn, setStableCoin, onlyRole, require_bind_eq_ok, pure_eq_ok] at done
      obtain ⟨_, _, same⟩ := done
      cases same
      exact Or.inl rfl
  | updateRiskParams newMinCollateralRatioBps newLiquidationPenaltyBps =>
      exact Or.inl (administration_unmoved done rfl).1.positions
  | pause => exact Or.inl (administration_unmoved done rfl).1.positions
  | unpause => exact Or.inl (administration_unmoved done rfl).1.positions
  | changeRole change => exact Or.inl (administration_unmoved done rfl).1.positions

end Calls

end Dics.Vault

namespace Dics.Cdp

open Vault (World Position)

/-- The price and the risk parameters stand still. -/
structure Steady {addresses : Addresses} (commit : Commit addresses) : Prop where
  price : commit.after.price = commit.before.price
  minCollateralRatioBps :
    commit.after.vault.minCollateralRatioBps = commit.before.vault.minCollateralRatioBps
  liquidationPenaltyBps :
    commit.after.vault.liquidationPenaltyBps = commit.before.vault.liquidationPenaltyBps

instance {addresses : Addresses} (commit : Commit addresses) : Decidable (Steady commit) :=
  decidable_of_iff
    (commit.after.price = commit.before.price ∧
      commit.after.vault.minCollateralRatioBps = commit.before.vault.minCollateralRatioBps ∧
      commit.after.vault.liquidationPenaltyBps = commit.before.vault.liquidationPenaltyBps)
    ⟨fun ⟨price, ratio, penalty⟩ => ⟨price, ratio, penalty⟩,
      fun steady => ⟨steady.price, steady.minCollateralRatioBps, steady.liquidationPenaltyBps⟩⟩

def Solvent (world : World) : Prop :=
  ∀ user, world.Collateralized (world.vault.positions user)

/-- The call liquidated nobody and wrote no position but its sender's. -/
structure OwnPositionOnly {addresses : Addresses} (commit : Commit addresses) : Prop where
  noLiquidation : ∀ user debtToCover, commit.call.target ≠ .vault (.liquidate user debtToCover)
  others : ∀ user, user ≠ commit.call.msg.sender →
    commit.after.vault.positions user = commit.before.vault.positions user

section Steps

variable {addresses : Addresses} {world next : World}

private theorem Solvent.not_breached {user : Address} (solvent : Solvent world)
    (breached : Vault.meetsMinRatio world (world.vault.positions user).collateralAmount
      (world.vault.positions user).debtAmount = some false) : False :=
  Bool.false_ne_true ((Vault.meetsMinRatio_eq_some breached).mpr (solvent user))

/-- Of a solvent Vault only the sender's position is written, and well. -/
theorem Solvent.write {msg : Msg} {user : Address} {position : Position}
    (solvent : Solvent world) (write : Vault.PositionWrite msg world user position) :
    user = msg.sender ∧ world.Collateralized position := by
  cases write with
  | eased position collateral debt =>
      exact ⟨rfl, (solvent msg.sender).ease collateral debt⟩
  | checked position meets => exact ⟨rfl, (Vault.meetsMinRatio_eq_some meets).mp rfl⟩
  | liquidated user position breached => exact (solvent.not_breached breached).elim

/-- The part of a step that does not depend on what the price does. -/
private theorem positions_step {call : Call addresses} {receipt : Receipt Vault.Event}
    (solvent : Solvent world) (done : exec addresses world call = .ok (next, receipt)) :
    (∀ user, world.Collateralized (next.vault.positions user)) ∧
      ∀ user, user ≠ call.msg.sender →
        next.vault.positions user = world.vault.positions user := by
  have kept (same : next.vault.positions = world.vault.positions) :
      (∀ user, world.Collateralized (next.vault.positions user)) ∧
        ∀ user, user ≠ call.msg.sender →
          next.vault.positions user = world.vault.positions user := by
    rw [same]
    exact ⟨solvent, fun _ _ => rfl⟩
  unfold exec at done
  cases target : call.target with
  | vault fn =>
      rw [target] at done
      rcases Vault.callFn_positions (mapError_eq_ok.mp done) with
        same | ⟨user, position, write, updated⟩
      · exact kept same
      · obtain ⟨rfl, enough⟩ := solvent.write write
        rw [updated]
        constructor
        · intro user
          by_cases own : user = call.msg.sender
          · rw [own, Function.update_self]
            exact enough
          · rw [Function.update_of_ne own]
            exact solvent user
        · intro user other
          exact Function.update_of_ne other _ _
  | coin address fn =>
      rw [target] at done
      obtain ⟨coin, _, same⟩ := bind_eq_ok.mp done
      cases same
      exact kept rfl
  | oracle address fn =>
      rw [target] at done
      obtain ⟨oracle, _, same⟩ := bind_eq_ok.mp done
      cases same
      exact kept rfl
  | token token act =>
      rw [target] at done
      obtain ⟨⟨tokens, movements⟩, _, same⟩ := bind_eq_ok.mp done
      cases same
      exact kept rfl

theorem solvent_step {call : Call addresses} {receipt : Receipt Vault.Event}
    (solvent : Solvent world) (done : exec addresses world call = .ok (next, receipt))
    (steady : Steady ⟨world, call, receipt, next⟩) :
    Solvent next ∧ OwnPositionOnly ⟨world, call, receipt, next⟩ := by
  obtain ⟨positions, others⟩ := positions_step solvent done
  refine ⟨?_, ?_, others⟩
  · intro user
    unfold World.Collateralized
    rw [steady.minCollateralRatioBps, steady.price]
    exact positions user
  · intro user debtToCover target
    unfold exec at done
    change call.target = _ at target
    rw [target] at done
    exact solvent.not_breached (Vault.liquidate_breached (mapError_eq_ok.mp done))

end Steps

theorem solvent_run (deployment : Deployment) (calls : List (Call deployment.addresses))
    (steady : ∀ commit ∈ deployment.history calls, Steady commit) :
    Solvent (deployment.run calls) ∧
      ∀ commit ∈ deployment.history calls, OwnPositionOnly commit := by
  refine @run_induction _ _ _ _ (exec deployment.addresses)
    (fun world past => Solvent world ∧ ∀ commit ∈ past, OwnPositionOnly commit)
    Steady deployment.start ?_ ?_ calls steady
  · exact ⟨fun _ => Or.inl rfl, fun _ member => nomatch member⟩
  · intro world past call next receipt before done allowed
    obtain ⟨solvent, own⟩ := solvent_step before.1 done allowed
    refine ⟨solvent, ?_⟩
    intro commit member
    rcases List.mem_append.mp member with earlier | last
    · exact before.2 commit earlier
    · rw [List.mem_singleton.mp last]
      exact own

/-- While price and risk parameters stand still, every position keeps the
minimum ratio, with and without the floors.  The code's check says so whenever
it does not overflow, so no liquidation commits and every call leaves all
positions but its sender's alone. -/
theorem steady_positions_keep_min_ratio (deployment : Deployment)
    (calls : List (Call deployment.addresses))
    (steady : ∀ commit ∈ deployment.history calls, Steady commit) :
    (∀ user, Vault.Collateralized (deployment.run calls).vault.minCollateralRatioBps
      (deployment.run calls).price ((deployment.run calls).vault.positions user)) ∧
    (∀ user meets, Vault.meetsMinRatio (deployment.run calls)
      ((deployment.run calls).vault.positions user).collateralAmount
      ((deployment.run calls).vault.positions user).debtAmount = some meets → meets = true) ∧
    (∀ user, (deployment.run calls).vault.minCollateralRatioBps *
        ((deployment.run calls).vault.positions user).debtAmount * 10 ^ 18 ≤
      ((deployment.run calls).vault.positions user).collateralAmount *
        (deployment.run calls).price * 10000) ∧
    ∀ commit ∈ deployment.history calls,
      (∀ user debtToCover, commit.call.target ≠ .vault (.liquidate user debtToCover)) ∧
      ∀ user, user ≠ commit.call.msg.sender →
        commit.after.vault.positions user = commit.before.vault.positions user := by
  obtain ⟨solvent, own⟩ := solvent_run deployment calls steady
  refine ⟨solvent, ?_, ?_, ?_⟩
  · intro user meets checked
    exact (Vault.meetsMinRatio_eq_some checked).mpr (solvent user)
  · intro user
    exact (solvent user).exact
  · intro commit member
    exact ⟨(own commit member).noLiquidation, (own commit member).others⟩

theorem steady_positions_keep_min_ratio_sample :
    (∀ commit ∈ sampleDeployment.history sampleCalls, Steady commit) ∧
      (sampleDeployment.run sampleCalls).vault.positions 0xA1 = ⟨90, 60⟩ ∧
      Vault.Collateralized 15000 (2 * 10 ^ 18) ⟨90, 60⟩ :=
  ⟨by decide, by decide,
    (steady_positions_keep_min_ratio sampleDeployment sampleCalls (by decide)).1 0xA1⟩

/-- As `sampleDeployment`, but `0xA1` owns `2 ^ 255` of the collateral token. -/
def whaleDeployment : Deployment :=
  { sampleDeployment with
    tokens := fun _ =>
      { balances := fun account => if account = 0xA1 then 2 ^ 255 else 0
        allowances := fun owner spender => if owner = 0xA1 ∧ spender = 0x5A then 2 ^ 255 else 0
        totalSupply := 2 ^ 255 }
    unapproved := fun _ _ => rfl }

/-- After the mint, a deposit takes `collateralAmount * price` past the word. -/
def whaleCalls : List (Call sampleAddresses) :=
  [ownerCall (.vault (.setStableCoin 0x5C)),
   ownerCall (.coin 0x5C (.setVault 0x5A)),
   borrowerCall (.vault (.depositCollateral 90)),
   borrowerCall (.vault (.mintStableCoin 100)),
   borrowerCall (.vault (.depositCollateral (2 ^ 254)))]

theorem unchecked_deposit_overflows_the_check :
    (∀ commit ∈ whaleDeployment.history whaleCalls, Steady commit) ∧
      (whaleDeployment.run whaleCalls).vault.positions 0xA1 = ⟨2 ^ 254 + 90, 100⟩ ∧
      Vault.meetsMinRatio (whaleDeployment.run whaleCalls)
        ((whaleDeployment.run whaleCalls).vault.positions 0xA1).collateralAmount
        ((whaleDeployment.run whaleCalls).vault.positions 0xA1).debtAmount = none := by
  refine ⟨?_, ?_, ?_⟩
  · decide +kernel
  · decide +kernel
  · decide +kernel

end Dics.Cdp
