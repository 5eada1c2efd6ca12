/-
The Vault contract: positions of collateral and debt.

Positions are kept in exact 256-bit arithmetic; every product, sum and quotient
the source computes is checked, so an overflow or a zero price reverts where the
source would.  The StableCoin contracts, price oracles and plain tokens of the
world are looked up by the addresses the Vault stores.
-/

import Dics.Chain.StableCoin

open Transactions Tokens Words

namespace Dics.Vault

inductive Role where
  | defaultAdmin
  | admin
  | upgrader
  | pauser
  deriving DecidableEq

structure Position where
  collateralAmount : Nat
  debtAmount : Nat
  deriving DecidableEq

structure State where
  roles : Roles.Table Role Address
  paused : Bool
  collateralToken : Address
  stableCoin : Address
  priceOracle : Address
  minCollateralRatioBps : Nat
  liquidationPenaltyBps : Nat
  positions : Address → Position
  stableCoinSet : Bool

structure World where
  vault : State
  coins : Address → StableCoin.State
  oracles : Address → PriceOracle.State
  tokens : Bank Address

inductive Event where
  | collateralDeposited (user : Address) (amount : Nat)
  | collateralWithdrawn (user : Address) (amount : Nat)
  | debtMinted (user : Address) (amount : Nat)
  | debtRepaid (user : Address) (amount : Nat)
  | positionLiquidated (user liquidator : Address) (debtCovered collateralSeized : Nat)
  | riskParamsUpdated (minCollateralRatioBps liquidationPenaltyBps : Nat)
  | stableCoinSet (stableCoin : Address)
  | paused (account : Address)
  | unpaused (account : Address)
  | roleChanged (change : Roles.Change Role Address)
  deriving DecidableEq

inductive Error where
  | stableCoinAlreadySet
  | stableCoinNotSet
  | belowMinCollateralRatio
  | insufficientCollateral
  | insufficientDebt
  | positionNotLiquidatable
  | zeroAmount
  | enforcedPause
  | expectedPause
  | accessControlUnauthorizedAccount
  | arithmeticPanic
  | token (error : TokenError)
  | stableCoin (error : StableCoin.Error)
  deriving DecidableEq

structure InitArgs where
  timelockAdmin : Address
  collateralTokenAddress : Address
  priceOracleAddress : Address
  minCollateralRatioBps : Nat
  liquidationPenaltyBps : Nat

def initialized (args : InitArgs) : State :=
  { roles := ((Roles.Table.empty.assign .defaultAdmin args.timelockAdmin true).assign
      .admin args.timelockAdmin true).assign .upgrader args.timelockAdmin true
    paused := false
    collateralToken := args.collateralTokenAddress
    stableCoin := 0
    priceOracle := args.priceOracleAddress
    minCollateralRatioBps := args.minCollateralRatioBps
    liquidationPenaltyBps := args.liquidationPenaltyBps
    positions := fun _ => { collateralAmount := 0, debtAmount := 0 }
    stableCoinSet := false }

def whenNotPaused (state : State) : Except Error Unit :=
  require (state.paused = false) .enforcedPause

def onlyRole (role : Role) (msg : Msg) (state : State) : Except Error Unit :=
  require (state.roles role msg.sender = true) .accessControlUnauthorizedAccount

/-! ### Views -/

def World.price (world : World) : Nat :=
  PriceOracle.getPrice (world.oracles world.vault.priceOracle)

/-- The collateral's value over the debt.  `none` is an arithmetic panic. -/
def ratioBps (price collateralAmount debtAmount : Nat) : Option Nat := do
  let value ← checkedMul collateralAmount price
  let scaled ← checkedMul (value / 10 ^ 18) 10000
  checkedDiv scaled debtAmount

def meetsMinRatio (world : World) (collateralAmount debtAmount : Nat) : Option Bool :=
  if debtAmount = 0 then some true
  else do
    let ratio ← ratioBps world.price collateralAmount debtAmount
    return decide (world.vault.minCollateralRatioBps ≤ ratio)

def isLiquidatable (world : World) (user : Address) : Option Bool :=
  let position := world.vault.positions user
  (meetsMinRatio world position.collateralAmount position.debtAmount).map not

/-! ### Core operations -/

def World.setPosition (world : World) (user : Address) (position : Position) : World :=
  { world with
    vault := { world.vault with
      positions := Function.update world.vault.positions user position } }

def setStableCoin (stableCoinAddress : Address) (msg : Msg) (world : World) :
    Except Error (World × Receipt Event) := do
  onlyRole .admin msg world.vault
  require (world.vault.stableCoinSet = false) .stableCoinAlreadySet
  return (
    { world with
      vault := { world.vault with stableCoin := stableCoinAddress, stableCoinSet := true } },
    { events := [.stableCoinSet stableCoinAddress], movements := [] })

def depositCollateral (self : Address) (amount : Nat) (msg : Msg) (world : World) :
    Except Error (World × Receipt Event) := do
  whenNotPaused world.vault
  require (amount ≠ 0) .zeroAmount
  let (tokens, movements) ← (world.tokens.act world.vault.collateralToken self
    (.transferFrom msg.sender self amount)).mapError .token
  let position := world.vault.positions msg.sender
  let collateral ← orRevert .arithmeticPanic (checkedAdd position.collateralAmount amount)
  return (
    { world with tokens := tokens }.setPosition msg.sender
      { position with collateralAmount := collateral },
    { events := [.collateralDeposited msg.sender amount], movements := movements })

def withdrawCollateral (self : Address) (amount : Nat) (msg : Msg) (world : World) :
    Except Error (World × Receipt Event) := do
  whenNotPaused world.vault
  require (amount ≠ 0) .zeroAmount
  let position := world.vault.positions msg.sender
  require (amount ≤ position.collateralAmount) .insufficientCollateral
  let remaining := position.collateralAmount - amount
  let meets ← orRevert .arithmeticPanic (meetsMinRatio world remaining position.debtAmount)
  require (meets = true) .belowMinCollateralRatio
  let (tokens, movements) ← (world.tokens.act world.vault.collateralToken self
    (.transfer msg.sender amount)).mapError .token
  return (
    { world with tokens := tokens }.setPosition msg.sender
      { position with collateralAmount := remaining },
    { events := [.collateralWithdrawn msg.sender amount], movements := movements })

def World.setCoin (world : World) (coin : StableCoin.State) : World :=
  { world with coins := Function.update world.coins world.vault.stableCoin coin }

def mintStableCoin (self : Address) (amount : Nat) (msg : Msg) (world : World) :
    Except Error (World × Receipt Event) := do
  whenNotPaused world.vault
  require (world.vault.stableCoinSet = true) .stableCoinNotSet
  require (amount ≠ 0) .zeroAmount
  let position := world.vault.positions msg.sender
  let newDebt ← orRevert .arithmeticPanic (checkedAdd position.debtAmount amount)
  let meets ← orRevert .arithmeticPanic (meetsMinRatio world position.collateralAmount newDebt)
  require (meets = true) .belowMinCollateralRatio
  let coin ← (StableCoin.mint self msg.sender amount
    (world.coins world.vault.stableCoin)).mapError .stableCoin
  return (
    (world.setCoin coin).setPosition msg.sender { position with debtAmount := newDebt },
    { events := [.debtMinted msg.sender amount]
      movements := [⟨world.vault.stableCoin, 0, msg.sender, amount⟩] })

def repayDebt (self : Address) (amount : Nat) (msg : Msg) (world : World) :
    Except Error (World × Receipt Event) := do
  whenNotPaused world.vault
  require (world.vault.stableCoinSet = true) .stableCoinNotSet
  require (amount ≠ 0) .zeroAmount
  let position := world.vault.positions msg.sender
  require (amount ≤ position.debtAmount) .insufficientDebt
  let coin ← (StableCoin.burn self msg.sender amount
    (world.coins world.vault.stableCoin)).mapError .stableCoin
  return (
    (world.setCoin coin).setPosition msg.sender
      { position with debtAmount := position.debtAmount - amount },
    { events := [.debtRepaid msg.sender amount]
      movements := [⟨world.vault.stableCoin, msg.sender, 0, amount⟩] })

/-! ### Liquidation -/

/-- The covered debt in collateral units, the penalty added, before the cap. -/
def seizure (price liquidationPenaltyBps debtToCover : Nat) : Option Nat := do
  let scaledDebt ← checkedMul debtToCover (10 ^ 18)
  let debtValueInCollateral ← checkedDiv scaledDebt price
  let scaledPenalty ← checkedMul debtValueInCollateral liquidationPenaltyBps
  checkedAdd debtValueInCollateral (scaledPenalty / 10000)

def liquidate (self user : Address) (debtToCover : Nat) (msg : Msg) (world : World) :
    Except Error (World × Receipt Event) := do
  whenNotPaused world.vault
  require (world.vault.stableCoinSet = true) .stableCoinNotSet
  let position := world.vault.positions user
  let meets ← orRevert .arithmeticPanic
    (meetsMinRatio world position.collateralAmount position.debtAmount)
  require (meets = false) .positionNotLiquidatable
  require (debtToCover ≤ position.debtAmount) .insufficientDebt
  let uncapped ← orRevert .arithmeticPanic
    (seizure world.price world.vault.liquidationPenaltyBps debtToCover)
  let collateralSeized := if uncapped > position.collateralAmount
    then position.collateralAmount else uncapped
  let coin ← (StableCoin.burn self msg.sender debtToCover
    (world.coins world.vault.stableCoin)).mapError .stableCoin
  let (tokens, movements) ← (world.tokens.act world.vault.collateralToken self
    (.transfer msg.sender collateralSeized)).mapError .token
  return (
    ({ world with tokens := tokens }.setCoin coin).setPosition user
      { collateralAmount := position.collateralAmount - collateralSeized
        debtAmount := position.debtAmount - debtToCover },
    { events := [.positionLiquidated user msg.sender debtToCover collateralSeized]
      movements := ⟨world.vault.stableCoin, msg.sender, 0, debtToCover⟩ :: movements })

/-! ### Parameters and emergency controls -/

def updateRiskParams (newMinCollateralRatioBps newLiquidationPenaltyBps : Nat) (msg : Msg)
    (world : World) : Except Error (World × Receipt Event) := do
  onlyRole .admin msg world.vault
  return (
    { world with
      vault := { world.vault with
        minCollateralRatioBps := newMinCollateralRatioBps
        liquidationPenaltyBps := newLiquidationPenaltyBps } },
    { events := [.riskParamsUpdated newMinCollateralRatioBps newLiquidationPenaltyBps]
      movements := [] })

def pause (msg : Msg) (world : World) : Except Error (World × Receipt Event) := do
  onlyRole .pauser msg world.vault
  whenNotPaused world.vault
  return ({ world with vault := { world.vault with paused := true } },
    { events := [.paused msg.sender], movements := [] })

def unpause (msg : Msg) (world : World) : Except Error (World × Receipt Event) := do
  onlyRole .admin msg world.vault
  require (world.vault.paused = true) .expectedPause
  return ({ world with vault := { world.vault with paused := false } },
    { events := [.unpaused msg.sender], movements := [] })

def changeRole (change : Roles.Change Role Address) (msg : Msg) (world : World) :
    Except Error (World × Receipt Event) := do
  let roles ← change.apply .defaultAdmin .accessControlUnauthorizedAccount msg.sender
    world.vault.roles
  return ({ world with vault := { world.vault with roles := roles } },
    { events := [.roleChanged change], movements := [] })

end Dics.Vault
