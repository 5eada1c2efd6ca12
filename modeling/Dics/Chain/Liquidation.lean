/-
What a liquidation takes from a position.

The covered debt is converted to collateral, a penalty is added, and the sum is
capped at what the position holds.  Both conversions round down.  The results
compare the value that leaves the position with the debt that leaves it, for one
liquidation and for several in a row.
-/

import Dics.Chain.Solvency
import Mathlib.Algebra.Order.Group.Nat
import Mathlib.Tactic.Ring

open Transactions Tokens Words

namespace Dics.Vault

/-! ### The converted debt and its penalty -/

def debtInCollateral (price debtToCover : Nat) : Nat := debtToCover * 10 ^ 18 / price

def penaltyInCollateral (price liquidationPenaltyBps debtToCover : Nat) : Nat :=
  debtInCollateral price debtToCover * liquidationPenaltyBps / 10000

def fullSeizure (price liquidationPenaltyBps debtToCover : Nat) : Nat :=
  debtInCollateral price debtToCover +
    penaltyInCollateral price liquidationPenaltyBps debtToCover

/-- The amounts at which no product, quotient or sum of `seizure` panics. -/
structure Convertible (price liquidationPenaltyBps debtToCover : Nat) : Prop where
  priced : price ≠ 0
  scaledDebt : debtToCover * 10 ^ 18 < wordBound
  scaledPenalty : debtInCollateral price debtToCover * liquidationPenaltyBps < wordBound
  sum : fullSeizure price liquidationPenaltyBps debtToCover < wordBound

theorem seizure_eq_some {price liquidationPenaltyBps debtToCover uncapped : Nat} :
    seizure price liquidationPenaltyBps debtToCover = some uncapped ↔
      Convertible price liquidationPenaltyBps debtToCover ∧
        fullSeizure price liquidationPenaltyBps debtToCover = uncapped := by
  simp only [seizure, Option.bind_eq_bind, Option.bind_eq_some_iff, checkedMul_eq_some,
    checkedDiv_eq_some, checkedAdd_eq_some]
  constructor
  · rintro ⟨_, ⟨scaledDebt, rfl⟩, _, ⟨priced, rfl⟩, _, ⟨scaledPenalty, rfl⟩, sum, same⟩
    exact ⟨⟨priced, scaledDebt, scaledPenalty, sum⟩, same⟩
  · rintro ⟨fits, same⟩
    exact ⟨_, ⟨fits.scaledDebt, rfl⟩, _, ⟨fits.priced, rfl⟩, _, ⟨fits.scaledPenalty, rfl⟩,
      fits.sum, same⟩

theorem debtInCollateral_add_le (price first second : Nat) :
    debtInCollateral price first + debtInCollateral price second ≤
      debtInCollateral price (first + second) := by
  unfold debtInCollateral
  rw [Nat.add_mul]
  exact Nat.div_add_div_le_add_div

/-- Two conversions round down twice, one conversion of the sum only once. -/
theorem fullSeizure_add_le (price liquidationPenaltyBps first second : Nat) :
    fullSeizure price liquidationPenaltyBps first +
        fullSeizure price liquidationPenaltyBps second ≤
      fullSeizure price liquidationPenaltyBps (first + second) := by
  have debts := debtInCollateral_add_le price first second
  have penalties : penaltyInCollateral price liquidationPenaltyBps first +
      penaltyInCollateral price liquidationPenaltyBps second ≤
        penaltyInCollateral price liquidationPenaltyBps (first + second) := by
    unfold penaltyInCollateral
    calc debtInCollateral price first * liquidationPenaltyBps / 10000 +
          debtInCollateral price second * liquidationPenaltyBps / 10000
        ≤ (debtInCollateral price first * liquidationPenaltyBps +
            debtInCollateral price second * liquidationPenaltyBps) / 10000 :=
          Nat.div_add_div_le_add_div
      _ = (debtInCollateral price first + debtInCollateral price second) *
            liquidationPenaltyBps / 10000 := by rw [Nat.add_mul]
      _ ≤ debtInCollateral price (first + second) * liquidationPenaltyBps / 10000 :=
          Nat.div_le_div_right (Nat.mul_le_mul_right _ debts)
  unfold fullSeizure
  omega

/-- Rounding never takes more than the covered debt with its penalty is worth. -/
theorem fullSeizure_value_le (price liquidationPenaltyBps debtToCover : Nat) :
    fullSeizure price liquidationPenaltyBps debtToCover * price * 10000 ≤
      debtToCover * 10 ^ 18 * (10000 + liquidationPenaltyBps) := by
  have value : debtInCollateral price debtToCover * price ≤ debtToCover * 10 ^ 18 :=
    Nat.div_mul_le_self _ _
  have penalty : penaltyInCollateral price liquidationPenaltyBps debtToCover * 10000 ≤
      debtInCollateral price debtToCover * liquidationPenaltyBps := Nat.div_mul_le_self _ _
  have scaled : fullSeizure price liquidationPenaltyBps debtToCover * 10000 ≤
      debtInCollateral price debtToCover * (10000 + liquidationPenaltyBps) := by
    calc fullSeizure price liquidationPenaltyBps debtToCover * 10000
        = debtInCollateral price debtToCover * 10000 +
            penaltyInCollateral price liquidationPenaltyBps debtToCover * 10000 :=
          Nat.add_mul _ _ _
      _ ≤ debtInCollateral price debtToCover * 10000 +
            debtInCollateral price debtToCover * liquidationPenaltyBps :=
          Nat.add_le_add_left penalty _
      _ = debtInCollateral price debtToCover * (10000 + liquidationPenaltyBps) :=
          (Nat.mul_add _ _ _).symm
  calc fullSeizure price liquidationPenaltyBps debtToCover * price * 10000
      = fullSeizure price liquidationPenaltyBps debtToCover * 10000 * price :=
        Nat.mul_right_comm _ _ _
    _ ≤ debtInCollateral price debtToCover * (10000 + liquidationPenaltyBps) * price :=
        Nat.mul_le_mul_right _ scaled
    _ = debtInCollateral price debtToCover * price * (10000 + liquidationPenaltyBps) :=
        Nat.mul_right_comm _ _ _
    _ ≤ debtToCover * 10 ^ 18 * (10000 + liquidationPenaltyBps) :=
        Nat.mul_le_mul_right _ value

/-! ### One liquidation -/

def Event.collateralSeized : Event → Nat
  | .positionLiquidated _ _ _ collateralSeized => collateralSeized
  | _ => 0

/-- What `liquidate` returns, read from the event it emits with it. -/
def collateralSeized (receipt : Receipt Event) : Nat :=
  (receipt.events.map Event.collateralSeized).sum

private theorem collateralSeized_singleton (user liquidator : Address) (debtCovered seized : Nat)
    (movements : List (Movement Address)) :
    collateralSeized ⟨[.positionLiquidated user liquidator debtCovered seized], movements⟩ =
      seized := by
  simp only [collateralSeized, List.map_cons, List.map_nil, Event.collateralSeized,
    List.sum_cons, List.sum_nil, Nat.add_zero]

structure Liquidated (here user : Address) (debtToCover : Nat) (msg : Msg) (world next : World)
    (receipt : Receipt Event) : Prop where
  convertible : Convertible world.price world.vault.liquidationPenaltyBps debtToCover
  covered : debtToCover ≤ (world.vault.positions user).debtAmount
  seized : collateralSeized receipt =
    min (fullSeizure world.price world.vault.liquidationPenaltyBps debtToCover)
      (world.vault.positions user).collateralAmount
  position : next.vault.positions user =
    { collateralAmount :=
        (world.vault.positions user).collateralAmount - collateralSeized receipt
      debtAmount := (world.vault.positions user).debtAmount - debtToCover }
  price : next.price = world.price
  penalty : next.vault.liquidationPenaltyBps = world.vault.liquidationPenaltyBps
  movements : receipt.movements =
    [⟨world.vault.stableCoin, msg.sender, 0, debtToCover⟩,
     ⟨world.vault.collateralToken, here, msg.sender, collateralSeized receipt⟩]

end Dics.Vault

namespace Dics.Cdp

open Vault (World)

/-- The pair is wired, `0xA1` deposits `90` and mints `100` at a price of two,
and the price falls. -/
def priceDropCalls (priceScaled : Nat) : List (Call sampleAddresses) :=
  [ownerCall (.vault (.setStableCoin 0x5C)),
   ownerCall (.coin 0x5C (.setVault 0x5A)),
   borrowerCall (.vault (.depositCollateral 90)),
   borrowerCall (.vault (.mintStableCoin 100)),
   ownerCall (.oracle 0x99 (.changeRole (.grantRole .priceSetter 0xAD))),
   ownerCall (.oracle 0x99 (.setPrice priceScaled))]

def worldAtPrice (priceScaled : Nat) : World := sampleDeployment.run (priceDropCalls priceScaled)

/-- A liquidation of `0xA1` by itself, with the stablecoins it minted. -/
def selfLiquidation (priceScaled debtToCover : Nat) :
    Except Vault.Error (World × Receipt Vault.Event) :=
  Vault.liquidate 0x5A 0xA1 debtToCover ⟨0xA1, 20⟩ (worldAtPrice priceScaled)

end Dics.Cdp

namespace Dics.Vault

section Liquidate

variable {self user : Address} {debtToCover : Nat} {msg : Msg} {world next : World}
variable {receipt : Receipt Event}

theorem Liquidated.seized_le_held
    (did : Liquidated self user debtToCover msg world next receipt) :
    collateralSeized receipt ≤ (world.vault.positions user).collateralAmount := by
  rw [did.seized]
  exact Nat.min_le_right _ _

theorem Liquidated.seized_le_full
    (did : Liquidated self user debtToCover msg world next receipt) :
    collateralSeized receipt ≤
      fullSeizure world.price world.vault.liquidationPenaltyBps debtToCover := by
  rw [did.seized]
  exact Nat.min_le_left _ _

theorem liquidate_liquidated
    (done : liquidate self user debtToCover msg world = .ok (next, receipt)) :
    Liquidated self user debtToCover msg world next receipt := by
  simp only [liquidate, whenNotPaused, require_bind_eq_ok, orRevert_bind_eq_ok] at done
  obtain ⟨_, _, _, _, _, covered, uncapped, computed, burning⟩ := done
  obtain ⟨coin, _, sending⟩ := bind_eq_ok.mp burning
  obtain ⟨⟨tokens, movements⟩, acted, same⟩ := bind_eq_ok.mp sending
  cases same
  obtain ⟨_, _, rfl⟩ := act_transfer_eq_ok (mapError_eq_ok.mp acted)
  obtain ⟨convertible, rfl⟩ := seizure_eq_some.mp computed
  refine
    { convertible := convertible
      covered := covered
      seized := ?_
      position := ?_
      price := rfl
      penalty := rfl
      movements := ?_ }
  · rw [collateralSeized_singleton]
    split
    · omega
    · omega
  · rw [collateralSeized_singleton]
    exact Function.update_self _ _ _
  · rw [collateralSeized_singleton]

/-- When the collateral covers all debt with its penalty, every part of the debt
with its penalty is covered too. -/
private theorem fullSeizure_le_of_covered {price liquidationPenaltyBps collateral debt : Nat}
    (priced : price ≠ 0) (within : debtToCover ≤ debt)
    (ample : debt * 10 ^ 18 * (10000 + liquidationPenaltyBps) ≤ collateral * price * 10000) :
    fullSeizure price liquidationPenaltyBps debtToCover ≤ collateral := by
  have value : fullSeizure price liquidationPenaltyBps debtToCover * price * 10000 ≤
      collateral * price * 10000 :=
    calc fullSeizure price liquidationPenaltyBps debtToCover * price * 10000
        ≤ debtToCover * 10 ^ 18 * (10000 + liquidationPenaltyBps) := fullSeizure_value_le _ _ _
      _ ≤ debt * 10 ^ 18 * (10000 + liquidationPenaltyBps) :=
          Nat.mul_le_mul_right _ (Nat.mul_le_mul_right _ within)
      _ ≤ collateral * price * 10000 := ample
  have perPrice := Nat.le_of_mul_le_mul_right value (by decide)
  exact Nat.le_of_mul_le_mul_right perPrice (Nat.pos_of_ne_zero priced)

private theorem fullSeizure_share_le {price liquidationPenaltyBps collateral debt : Nat}
    (priced : price ≠ 0)
    (ample : debt * 10 ^ 18 * (10000 + liquidationPenaltyBps) ≤ collateral * price * 10000) :
    fullSeizure price liquidationPenaltyBps debtToCover * debt ≤ collateral * debtToCover := by
  have scaled : fullSeizure price liquidationPenaltyBps debtToCover * debt * (price * 10000) ≤
      collateral * debtToCover * (price * 10000) :=
    calc fullSeizure price liquidationPenaltyBps debtToCover * debt * (price * 10000)
        = fullSeizure price liquidationPenaltyBps debtToCover * price * 10000 * debt := by ring
      _ ≤ debtToCover * 10 ^ 18 * (10000 + liquidationPenaltyBps) * debt :=
          Nat.mul_le_mul_right _ (fullSeizure_value_le _ _ _)
      _ = debt * 10 ^ 18 * (10000 + liquidationPenaltyBps) * debtToCover := by ring
      _ ≤ collateral * price * 10000 * debtToCover := Nat.mul_le_mul_right _ ample
      _ = collateral * debtToCover * (price * 10000) := by ring
  exact Nat.le_of_mul_le_mul_right scaled (Nat.mul_pos (Nat.pos_of_ne_zero priced) (by decide))

/-- A liquidation takes the covered debt off the position and at most that debt
with its penalty in collateral.  Where the collateral covers debt and penalty,
the cap is idle and the ratio of what is left does not fall. -/
theorem liquidation_takes_at_most_debt_and_penalty {collateral debt : Nat}
    (position : world.vault.positions user = ⟨collateral, debt⟩)
    (done : liquidate self user debtToCover msg world = .ok (next, receipt)) :
    collateralSeized receipt ≤ collateral ∧
    next.vault.positions user =
      ⟨collateral - collateralSeized receipt, debt - debtToCover⟩ ∧
    debtToCover ≤ debt ∧
    receipt.movements =
      [⟨world.vault.stableCoin, msg.sender, 0, debtToCover⟩,
       ⟨world.vault.collateralToken, self, msg.sender, collateralSeized receipt⟩] ∧
    collateralSeized receipt * world.price * 10000 ≤
      debtToCover * 10 ^ 18 * (10000 + world.vault.liquidationPenaltyBps) ∧
    (debt * 10 ^ 18 * (10000 + world.vault.liquidationPenaltyBps) ≤
        collateral * world.price * 10000 →
      seizure world.price world.vault.liquidationPenaltyBps debtToCover =
          some (collateralSeized receipt) ∧
        collateral * (debt - debtToCover) ≤
          (collateral - collateralSeized receipt) * debt) := by
  have did := liquidate_liquidated done
  have priced := did.convertible.priced
  have seized := did.seized
  have held := did.seized_le_held
  have covered := did.covered
  have after := did.position
  rw [position] at seized held covered after
  refine ⟨held, after, covered, did.movements, ?_, ?_⟩
  · calc collateralSeized receipt * world.price * 10000
        ≤ fullSeizure world.price world.vault.liquidationPenaltyBps debtToCover * world.price *
            10000 := Nat.mul_le_mul_right _ (Nat.mul_le_mul_right _ did.seized_le_full)
      _ ≤ debtToCover * 10 ^ 18 * (10000 + world.vault.liquidationPenaltyBps) :=
          fullSeizure_value_le _ _ _
  · intro ample
    have idle := fullSeizure_le_of_covered priced covered ample
    have full := seized.trans (Nat.min_eq_left idle)
    refine ⟨seizure_eq_some.mpr ⟨did.convertible, full.symm⟩, ?_⟩
    have share : fullSeizure world.price world.vault.liquidationPenaltyBps debtToCover * debt ≤
        collateral * debtToCover := fullSeizure_share_le priced ample
    rw [full, Nat.mul_sub, Nat.sub_mul]
    exact Nat.sub_le_sub_left share _

/-- At `1.4` the collateral covers debt and penalty; covering `70` takes `55`. -/
theorem liquidation_takes_at_most_debt_and_penalty_sample :
    ∃ next receipt, Cdp.selfLiquidation (14 * 10 ^ 17) 70 = .ok (next, receipt) ∧
      collateralSeized receipt = 55 ∧ next.vault.positions 0xA1 = ⟨90 - 55, 100 - 70⟩ ∧
      90 * (100 - 70) ≤ (90 - 55) * 100 := by
  refine ⟨_, _, rfl, by decide, ?_⟩
  obtain ⟨_, after, _, _, _, ratio⟩ :=
    liquidation_takes_at_most_debt_and_penalty
      (show (Cdp.worldAtPrice (14 * 10 ^ 17)).vault.positions 0xA1 = ⟨90, 100⟩ by decide)
      (show Cdp.selfLiquidation (14 * 10 ^ 17) 70 = _ from rfl)
  exact ⟨after, (ratio (by decide)).2⟩

/-! ### Bad debt -/

def Position.BackedAt (price : Nat) (position : Position) : Prop :=
  position.debtAmount * 10 ^ 18 ≤ position.collateralAmount * price

instance (price : Nat) (position : Position) : Decidable (position.BackedAt price) :=
  inferInstanceAs (Decidable (_ ≤ _))

/-- The whole debt is covered, or the collateral is worth the debt and the
penalty, up to what the conversion rounded off. -/
def PenaltyAfforded (price liquidationPenaltyBps debtToCover : Nat) (position : Position) :
    Prop :=
  debtToCover = position.debtAmount ∨
    position.debtAmount * 10 ^ 18 +
        penaltyInCollateral price liquidationPenaltyBps debtToCover * price ≤
      position.collateralAmount * price + debtToCover * 10 ^ 18 % price

private theorem backedAt_after_liquidation
    (did : Liquidated self user debtToCover msg world next receipt) :
    (next.vault.positions user).BackedAt world.price ↔
      PenaltyAfforded world.price world.vault.liquidationPenaltyBps debtToCover
        (world.vault.positions user) := by
  have seized := did.seized
  have covered := did.covered
  have split : world.price * debtInCollateral world.price debtToCover +
      debtToCover * 10 ^ 18 % world.price = debtToCover * 10 ^ 18 := Nat.div_add_mod _ _
  rw [Nat.mul_comm] at split
  have value : fullSeizure world.price world.vault.liquidationPenaltyBps debtToCover *
      world.price = debtInCollateral world.price debtToCover * world.price +
        penaltyInCollateral world.price world.vault.liquidationPenaltyBps debtToCover *
          world.price := Nat.add_mul _ _ _
  unfold Position.BackedAt PenaltyAfforded
  rw [did.position]
  simp only [Nat.sub_mul]
  by_cases idle : fullSeizure world.price world.vault.liquidationPenaltyBps debtToCover ≤
      (world.vault.positions user).collateralAmount
  · rw [seized, Nat.min_eq_left idle, value]
    omega
  · -- The cap takes everything, so only a debt covered whole leaves no bad debt.
    have capped := Nat.min_eq_right (Nat.le_of_lt (Nat.lt_of_not_le idle))
    have worth := Nat.mul_lt_mul_of_pos_right (Nat.lt_of_not_le idle)
      (Nat.pos_of_ne_zero did.convertible.priced)
    rw [seized, capped]
    omega

/-- A liquidation leaves a backed position backed exactly when the surplus can
pay the penalty. -/
theorem liquidation_keeps_backing_iff
    (done : liquidate self user debtToCover msg world = .ok (next, receipt)) :
    ((world.vault.positions user).BackedAt world.price →
        (next.vault.positions user).BackedAt next.price) ↔
      ((world.vault.positions user).BackedAt world.price →
        PenaltyAfforded world.price world.vault.liquidationPenaltyBps debtToCover
          (world.vault.positions user)) := by
  have did := liquidate_liquidated done
  rw [did.price]
  exact imp_congr_right (fun _ => backedAt_after_liquidation did)

end Liquidate

theorem liquidation_keeps_backing_iff_sample :
    ∃ next receipt, Cdp.selfLiquidation (115 * 10 ^ 16) 20 = .ok (next, receipt) ∧
      next.vault.positions 0xA1 = ⟨72, 80⟩ ∧
      ((next.vault.positions 0xA1).BackedAt next.price) := by
  refine ⟨_, _, rfl, by decide, ?_⟩
  have kept := liquidation_keeps_backing_iff
    (show Cdp.selfLiquidation (115 * 10 ^ 16) 20 = _ from rfl)
  exact kept.mpr (fun _ => Or.inr (by decide)) (by decide)

/-- At `1.15` the position is worth `103.5` and owes `100`.  Covering `80` takes
`75` of its `90`, and `15` are left for a debt of `20`. -/
theorem backed_position_becomes_bad_debt :
    ∃ next receipt, Cdp.selfLiquidation (115 * 10 ^ 16) 80 = .ok (next, receipt) ∧
      ((Cdp.worldAtPrice (115 * 10 ^ 16)).vault.positions 0xA1).BackedAt
        (Cdp.worldAtPrice (115 * 10 ^ 16)).price ∧
      next.vault.positions 0xA1 = ⟨15, 20⟩ ∧
      ¬ (next.vault.positions 0xA1).BackedAt next.price :=
  ⟨_, _, rfl, by decide, by decide, by decide⟩

/-! ### Liquidations in a row -/

/-- Each call covers its piece of the same user's debt.  The result carries all
the collateral that was seized. -/
def liquidateInTurn (self user : Address) :
    List (Msg × Nat) → World → Except Error (World × Nat)
  | [], world => .ok (world, 0)
  | (msg, piece) :: later, world => do
      let (next, receipt) ← liquidate self user piece msg world
      let (final, total) ← liquidateInTurn self user later next
      return (final, collateralSeized receipt + total)

structure LiquidatedInTurn (user : Address) (covered : Nat) (world final : World)
    (total : Nat) : Prop where
  within : covered ≤ (world.vault.positions user).debtAmount
  held : total ≤ (world.vault.positions user).collateralAmount
  converted : total ≤ fullSeizure world.price world.vault.liquidationPenaltyBps covered
  debt : (final.vault.positions user).debtAmount =
    (world.vault.positions user).debtAmount - covered

theorem liquidateInTurn_ok {self user : Address} {pieces : List (Msg × Nat)}
    {world final : World} {total : Nat}
    (done : liquidateInTurn self user pieces world = .ok (final, total)) :
    LiquidatedInTurn user (pieces.map Prod.snd).sum world final total := by
  induction pieces generalizing world total with
  | nil =>
      cases done
      exact ⟨Nat.zero_le _, Nat.zero_le _, Nat.zero_le _, rfl⟩
  | cons first later ih =>
      obtain ⟨msg, piece⟩ := first
      obtain ⟨⟨next, receipt⟩, liquidated, continued⟩ := bind_eq_ok.mp done
      obtain ⟨⟨last, rest⟩, inTurn, same⟩ := bind_eq_ok.mp continued
      cases same
      have did := liquidate_liquidated liquidated
      have others := ih inTurn
      have position := did.position
      have covered := others.within
      have held := others.held
      have converted := others.converted
      have debt := others.debt
      rw [position] at covered held debt
      rw [did.price, did.penalty] at converted
      simp only at covered held debt
      have here := did.covered
      have taken := did.seized_le_held
      have atMost := did.seized_le_full
      have together := fullSeizure_add_le world.price world.vault.liquidationPenaltyBps piece
        (later.map Prod.snd).sum
      rw [show (((msg, piece) :: later).map Prod.snd).sum = piece + (later.map Prod.snd).sum
        from rfl]
      constructor
      · omega
      · omega
      · omega
      · omega

/-- Covering a debt piece by piece never seizes more than covering it at once. -/
theorem split_liquidation_seizes_no_more {self user : Address} {pieces : List (Msg × Nat)}
    {msg : Msg} {world final next : World} {total : Nat} {receipt : Receipt Event}
    (inTurn : liquidateInTurn self user pieces world = .ok (final, total))
    (atOnce : liquidate self user (pieces.map Prod.snd).sum msg world = .ok (next, receipt)) :
    total ≤ collateralSeized receipt ∧
      (final.vault.positions user).debtAmount = (next.vault.positions user).debtAmount := by
  have split := liquidateInTurn_ok inTurn
  have whole := liquidate_liquidated atOnce
  constructor
  · rw [whole.seized]
    exact Nat.le_min.mpr ⟨split.converted, split.held⟩
  · rw [split.debt, whole.position]

/-- Covering `1` takes nothing, so the two pieces take `74` where one call takes
`75`. -/
theorem split_liquidation_seizes_no_more_sample :
    ∃ final next receipt,
      liquidateInTurn 0x5A 0xA1 [(⟨0xA1, 20⟩, 1), (⟨0xA1, 21⟩, 79)]
        (Cdp.worldAtPrice (115 * 10 ^ 16)) = .ok (final, 74) ∧
      Cdp.selfLiquidation (115 * 10 ^ 16) 80 = .ok (next, receipt) ∧
      74 ≤ collateralSeized receipt ∧
      (final.vault.positions 0xA1).debtAmount = (next.vault.positions 0xA1).debtAmount := by
  refine ⟨_, _, _, rfl, rfl, ?_⟩
  exact split_liquidation_seizes_no_more
    (show liquidateInTurn 0x5A 0xA1 [(⟨0xA1, 20⟩, 1), (⟨0xA1, 21⟩, 79)]
      (Cdp.worldAtPrice (115 * 10 ^ 16)) = _ from rfl)
    (show Cdp.selfLiquidation (115 * 10 ^ 16) 80 = _ from rfl)

end Dics.Vault
