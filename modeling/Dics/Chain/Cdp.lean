/-
The Vault with its StableCoin, the collateral token and the price oracle.

The stablecoin's supply and the sum of all debts are kept by two contracts, and
so are the Vault's collateral and the sum of all deposits.  Both pairs stay in
step in every run that wires this Vault and this StableCoin to each other.
-/

import Dics.Chain.Vault
import Dics.Lib.Totals
import Mathlib.Data.FinEnum

open Transactions Tokens Words Totals

namespace Dics.Vault

inductive Fn where
  | setStableCoin (stableCoinAddress : Address)
  | depositCollateral (amount : Nat)
  | withdrawCollateral (amount : Nat)
  | mintStableCoin (amount : Nat)
  | repayDebt (amount : Nat)
  | liquidate (user : Address) (debtToCover : Nat)
  | updateRiskParams (newMinCollateralRatioBps newLiquidationPenaltyBps : Nat)
  | pause
  | unpause
  | changeRole (change : Roles.Change Role Address)
  deriving DecidableEq

def callFn (self : Address) (msg : Msg) (world : World) :
    Fn → Except Error (World × Receipt Event)
  | .setStableCoin stableCoinAddress => setStableCoin stableCoinAddress msg world
  | .depositCollateral amount => depositCollateral self amount msg world
  | .withdrawCollateral amount => withdrawCollateral self amount msg world
  | .mintStableCoin amount => mintStableCoin self amount msg world
  | .repayDebt amount => repayDebt self amount msg world
  | .liquidate user debtToCover => liquidate self user debtToCover msg world
  | .updateRiskParams newMinCollateralRatioBps newLiquidationPenaltyBps =>
      updateRiskParams newMinCollateralRatioBps newLiquidationPenaltyBps msg world
  | .pause => pause msg world
  | .unpause => unpause msg world
  | .changeRole change => changeRole change msg world

/-! ### What a committed call did to one position -/

/-- How the debt of the changed position moved with the stablecoin's supply. -/
inductive DebtChange (here : Address) (world next : World) (before after : Nat) : Prop where
  | kept (coins : next.coins = world.coins) (same : after = before)
  | minted (recipient : Address) (amount : Nat) (coin : StableCoin.State)
      (wired : world.vault.stableCoinSet = true)
      (done : StableCoin.mint here recipient amount (world.coins world.vault.stableCoin) =
        .ok coin)
      (coins : next.coins = Function.update world.coins world.vault.stableCoin coin)
      (grown : after = before + amount)
  | burned (account : Address) (amount : Nat) (coin : StableCoin.State)
      (wired : world.vault.stableCoinSet = true)
      (done : StableCoin.burn here account amount (world.coins world.vault.stableCoin) =
        .ok coin)
      (coins : next.coins = Function.update world.coins world.vault.stableCoin coin)
      (covered : amount ≤ before) (shrunk : after = before - amount)

/-- How the collateral of the changed position moved with the Vault's tokens. -/
inductive CollateralChange (here : Address) (msg : Msg) (world next : World)
    (before after : Nat) : Prop where
  | kept (tokens : next.tokens = world.tokens) (same : after = before)
  | received (amount : Nat) (movements : List (Movement Address))
      (acted : world.tokens.act world.vault.collateralToken here
        (.transferFrom msg.sender here amount) = .ok (next.tokens, movements))
      (grown : after = before + amount)
  | sent (amount : Nat) (movements : List (Movement Address))
      (acted : world.tokens.act world.vault.collateralToken here
        (.transfer msg.sender amount) = .ok (next.tokens, movements))
      (covered : amount ≤ before) (shrunk : after = before - amount)

structure SameWiring (before after : State) : Prop where
  collateralToken : after.collateralToken = before.collateralToken
  stableCoin : after.stableCoin = before.stableCoin
  stableCoinSet : after.stableCoinSet = before.stableCoinSet

structure Rebalanced (here : Address) (msg : Msg) (world next : World) (user : Address)
    (position : Position) : Prop where
  positions : next.vault.positions = Function.update world.vault.positions user position
  wiring : SameWiring world.vault next.vault
  debt : DebtChange here world next (world.vault.positions user).debtAmount position.debtAmount
  collateral : CollateralChange here msg world next
    (world.vault.positions user).collateralAmount position.collateralAmount

structure Unmoved (world next : World) : Prop where
  positions : next.vault.positions = world.vault.positions
  collateralToken : next.vault.collateralToken = world.vault.collateralToken
  coins : next.coins = world.coins
  tokens : next.tokens = world.tokens

section Calls

variable {self : Address} {msg : Msg} {world next : World} {receipt : Receipt Event}

theorem depositCollateral_ok {amount : Nat}
    (done : depositCollateral self amount msg world = .ok (next, receipt)) :
    ∃ position, Rebalanced self msg world next msg.sender position := by
  simp only [depositCollateral, whenNotPaused, require_bind_eq_ok] at done
  obtain ⟨_, _, receiving⟩ := done
  obtain ⟨⟨tokens, movements⟩, acted, adding⟩ := bind_eq_ok.mp receiving
  simp only [orRevert_bind_eq_ok, checkedAdd_eq_some, pure_eq_ok] at adding
  obtain ⟨_, ⟨_, rfl⟩, same⟩ := adding
  cases same
  exact ⟨_, rfl, ⟨rfl, rfl, rfl⟩, .kept rfl rfl,
    .received amount movements (mapError_eq_ok.mp acted) rfl⟩

theorem withdrawCollateral_ok {amount : Nat}
    (done : withdrawCollateral self amount msg world = .ok (next, receipt)) :
    ∃ position, Rebalanced self msg world next msg.sender position := by
  simp only [withdrawCollateral, whenNotPaused, require_bind_eq_ok, orRevert_bind_eq_ok] at done
  obtain ⟨_, _, covered, _, _, _, sending⟩ := done
  obtain ⟨⟨tokens, movements⟩, acted, same⟩ := bind_eq_ok.mp sending
  cases same
  exact ⟨_, rfl, ⟨rfl, rfl, rfl⟩, .kept rfl rfl,
    .sent amount movements (mapError_eq_ok.mp acted) covered rfl⟩

theorem mintStableCoin_ok {amount : Nat}
    (done : mintStableCoin self amount msg world = .ok (next, receipt)) :
    ∃ position, Rebalanced self msg world next msg.sender position := by
  simp only [mintStableCoin, whenNotPaused, require_bind_eq_ok, orRevert_bind_eq_ok,
    checkedAdd_eq_some] at done
  obtain ⟨_, wired, _, _, ⟨_, rfl⟩, _, _, _, minting⟩ := done
  obtain ⟨coin, minted, same⟩ := bind_eq_ok.mp minting
  cases same
  exact ⟨_, rfl, ⟨rfl, rfl, rfl⟩,
    .minted msg.sender amount coin wired (mapError_eq_ok.mp minted) rfl rfl, .kept rfl rfl⟩

theorem repayDebt_ok {amount : Nat}
    (done : repayDebt self amount msg world = .ok (next, receipt)) :
    ∃ position, Rebalanced self msg world next msg.sender position := by
  simp only [repayDebt, whenNotPaused, require_bind_eq_ok] at done
  obtain ⟨_, wired, _, covered, burning⟩ := done
  obtain ⟨coin, burned, same⟩ := bind_eq_ok.mp burning
  cases same
  exact ⟨_, rfl, ⟨rfl, rfl, rfl⟩,
    .burned msg.sender amount coin wired (mapError_eq_ok.mp burned) rfl covered rfl,
    .kept rfl rfl⟩

theorem liquidate_ok {user : Address} {debtToCover : Nat}
    (done : liquidate self user debtToCover msg world = .ok (next, receipt)) :
    ∃ position, Rebalanced self msg world next user position := by
  simp only [liquidate, whenNotPaused, require_bind_eq_ok, orRevert_bind_eq_ok] at done
  obtain ⟨_, wired, _, _, _, covered, uncapped, _, burning⟩ := done
  obtain ⟨coin, burned, sending⟩ := bind_eq_ok.mp burning
  obtain ⟨⟨tokens, movements⟩, acted, same⟩ := bind_eq_ok.mp sending
  cases same
  have capped : (if uncapped > (world.vault.positions user).collateralAmount
      then (world.vault.positions user).collateralAmount else uncapped) ≤
        (world.vault.positions user).collateralAmount := by
    split
    · exact Nat.le_refl _
    · omega
  exact ⟨_, rfl, ⟨rfl, rfl, rfl⟩,
    .burned msg.sender debtToCover coin wired (mapError_eq_ok.mp burned) rfl covered rfl,
    .sent _ movements (mapError_eq_ok.mp acted) capped rfl⟩

def Fn.administers : Fn → Bool
  | .updateRiskParams _ _ => true
  | .pause => true
  | .unpause => true
  | .changeRole _ => true
  | _ => false

theorem administration_unmoved {fn : Fn}
    (done : callFn self msg world fn = .ok (next, receipt))
    (administers : fn.administers = true) :
    Unmoved world next ∧ next.vault.stableCoin = world.vault.stableCoin ∧
      next.vault.stableCoinSet = world.vault.stableCoinSet := by
  cases fn with
  | updateRiskParams newMinCollateralRatioBps newLiquidationPenaltyBps =>
      simp only [callFn, updateRiskParams, onlyRole, require_bind_eq_ok, pure_eq_ok] at done
      obtain ⟨_, same⟩ := done
      cases same
      exact ⟨⟨rfl, rfl, rfl, rfl⟩, rfl, rfl⟩
  | pause =>
      simp only [callFn, pause, onlyRole, whenNotPaused, require_bind_eq_ok, pure_eq_ok] at done
      obtain ⟨_, _, same⟩ := done
      cases same
      exact ⟨⟨rfl, rfl, rfl, rfl⟩, rfl, rfl⟩
  | unpause =>
      simp only [callFn, unpause, onlyRole, require_bind_eq_ok, pure_eq_ok] at done
      obtain ⟨_, _, same⟩ := done
      cases same
      exact ⟨⟨rfl, rfl, rfl, rfl⟩, rfl, rfl⟩
  | changeRole change =>
      obtain ⟨roles, _, same⟩ := bind_eq_ok.mp done
      cases same
      exact ⟨⟨rfl, rfl, rfl, rfl⟩, rfl, rfl⟩
  | _ => cases administers

/-- Every committed call changes one position together with the tokens behind
it, sets the stablecoin, or leaves all of them alone. -/
theorem callFn_cases {fn : Fn} (done : callFn self msg world fn = .ok (next, receipt)) :
    (∃ user position, Rebalanced self msg world next user position) ∨
    (∃ stableCoinAddress, fn = .setStableCoin stableCoinAddress ∧ Unmoved world next ∧
      next.vault.stableCoin = stableCoinAddress) ∨
    (Unmoved world next ∧ next.vault.stableCoin = world.vault.stableCoin ∧
      next.vault.stableCoinSet = world.vault.stableCoinSet) := by
  cases fn with
  | setStableCoin stableCoinAddress =>
      simp only [callFn, setStableCoin, onlyRole, require_bind_eq_ok, pure_eq_ok] at done
      obtain ⟨_, _, same⟩ := done
      cases same
      exact Or.inr (Or.inl ⟨stableCoinAddress, rfl, ⟨rfl, rfl, rfl, rfl⟩, rfl⟩)
  | depositCollateral amount => exact Or.inl ⟨_, depositCollateral_ok done⟩
  | withdrawCollateral amount => exact Or.inl ⟨_, withdrawCollateral_ok done⟩
  | mintStableCoin amount => exact Or.inl ⟨_, mintStableCoin_ok done⟩
  | repayDebt amount => exact Or.inl ⟨_, repayDebt_ok done⟩
  | liquidate user debtToCover => exact Or.inl ⟨_, liquidate_ok done⟩
  | updateRiskParams newMinCollateralRatioBps newLiquidationPenaltyBps =>
      exact Or.inr (Or.inr (administration_unmoved done rfl))
  | pause => exact Or.inr (Or.inr (administration_unmoved done rfl))
  | unpause => exact Or.inr (Or.inr (administration_unmoved done rfl))
  | changeRole change => exact Or.inr (Or.inr (administration_unmoved done rfl))

end Calls

end Dics.Vault

namespace Dics.Cdp

open Vault (World Position)

structure Addresses where
  vault : Address
  stableCoin : Address

inductive Target where
  | vault (fn : Vault.Fn)
  | coin (address : Address) (fn : StableCoin.Fn)
  | oracle (address : Address) (fn : PriceOracle.Fn)
  | token (token : Address) (act : Act Address)
  deriving DecidableEq

/-- A transaction from outside: its sender is a real account and not the Vault,
which makes no calls but those in its own code. -/
structure Call (addresses : Addresses) where
  msg : Msg
  target : Target
  real : msg.sender ≠ 0
  outside : msg.sender ≠ addresses.vault

inductive Error where
  | vault (error : Vault.Error)
  | coin (error : StableCoin.Error)
  | oracle (error : PriceOracle.Error)
  | token (error : TokenError)
  deriving DecidableEq

def exec (addresses : Addresses) (world : World) (call : Call addresses) :
    Except Error (World × Receipt Vault.Event) :=
  match call.target with
  | .vault fn => (Vault.callFn addresses.vault call.msg world fn).mapError .vault
  | .coin address fn => do
      let coin ← (StableCoin.callFn call.msg (world.coins address) fn).mapError .coin
      return ({ world with coins := Function.update world.coins address coin },
        { events := [], movements := [] })
  | .oracle address fn => do
      let oracle ← (PriceOracle.callFn call.msg (world.oracles address) fn).mapError .oracle
      return ({ world with oracles := Function.update world.oracles address oracle },
        { events := [], movements := [] })
  | .token token act => do
      let (tokens, movements) ← (world.tokens.act token call.msg.sender act).mapError .token
      return ({ world with tokens := tokens }, { events := [], movements := movements })

abbrev Commit (addresses : Addresses) :=
  Transactions.Commit World (Call addresses) (Receipt Vault.Event)

/-- A fresh Vault and a fresh StableCoin, not yet wired.  The collateral is one
of the plain tokens, which a StableCoin never is; the Vault's address is new and
has approved nobody. -/
structure Deployment where
  addresses : Addresses
  args : Vault.InitArgs
  deployer : Address
  otherCoins : Address → StableCoin.State
  oracles : Address → PriceOracle.State
  tokens : Bank Address
  unapproved : tokens.Unapproved addresses.vault

def Deployment.start (deployment : Deployment) : World :=
  { vault := Vault.initialized deployment.args
    coins := Function.update deployment.otherCoins deployment.addresses.stableCoin
      (StableCoin.deployed deployment.deployer)
    oracles := deployment.oracles
    tokens := deployment.tokens }

def Deployment.run (deployment : Deployment) (calls : List (Call deployment.addresses)) : World :=
  Transactions.run (exec deployment.addresses) deployment.start calls

def Deployment.history (deployment : Deployment) (calls : List (Call deployment.addresses)) :
    List (Commit deployment.addresses) :=
  Transactions.history (exec deployment.addresses) deployment.start calls

/-! ### Supply and debt, collateral and deposits -/

def totalDebt (world : World) : Nat := tally Position.debtAmount world.vault.positions

def totalCollateral (world : World) : Nat :=
  tally Position.collateralAmount world.vault.positions

def totalSupply (addresses : Addresses) (world : World) : Nat :=
  (world.coins addresses.stableCoin).token.totalSupply

def vaultBalance (addresses : Addresses) (collateral : Address) (world : World) : Nat :=
  (world.tokens collateral).balances addresses.vault

def Target.setsStableCoin : Target → Option Address
  | .vault (.setStableCoin stableCoinAddress) => some stableCoinAddress
  | _ => none

def Target.setsVault (stableCoin : Address) : Target → Option Address
  | .coin address (.setVault newVault) =>
      if address = stableCoin then some newVault else none
  | _ => none

/-- The bootstrapping calls name this Vault and this StableCoin. -/
def WiresThisPair {addresses : Addresses} (commit : Commit addresses) : Prop :=
  commit.call.target.setsStableCoin ∈ [none, some addresses.stableCoin] ∧
    commit.call.target.setsVault addresses.stableCoin ∈ [none, some addresses.vault]

instance {addresses : Addresses} (commit : Commit addresses) : Decidable (WiresThisPair commit) :=
  inferInstanceAs (Decidable (_ ∧ _))

structure Backed (addresses : Addresses) (collateral : Address) (world : World) : Prop where
  collateralToken : world.vault.collateralToken = collateral
  wired : world.vault.stableCoinSet = true → world.vault.stableCoin = addresses.stableCoin
  coinVault : (world.coins addresses.stableCoin).vault = 0 ∨
    (world.coins addresses.stableCoin).vault = addresses.vault
  unapproved : world.tokens.Unapproved addresses.vault
  supply : totalSupply addresses world = totalDebt world
  backing : totalCollateral world ≤ vaultBalance addresses collateral world

private theorem tally_zero :
    tally (fun _ : Position => 0)
      (fun _ : Address => { collateralAmount := 0, debtAmount := 0 }) = 0 := by
  unfold tally
  exact Finset.sum_const_zero

theorem backed_start (deployment : Deployment) :
    Backed deployment.addresses deployment.args.collateralTokenAddress deployment.start := by
  have coin : deployment.start.coins deployment.addresses.stableCoin =
      StableCoin.deployed deployment.deployer := Function.update_self _ _ _
  have noDebt : totalDebt deployment.start = 0 := tally_zero
  have noCollateral : totalCollateral deployment.start = 0 := tally_zero
  refine ⟨rfl, fun unset => absurd unset Bool.false_ne_true, ?_, deployment.unapproved, ?_, ?_⟩
  · rw [coin]
    exact Or.inl rfl
  · rw [noDebt, totalSupply, coin]
    rfl
  · rw [noCollateral]
    exact Nat.zero_le _

section Steps

variable {addresses : Addresses} {collateral : Address} {world next : World}

private theorem supply_rebalanced {msg : Msg} {user : Address} {position : Position}
    (before : Backed addresses collateral world)
    (change : Vault.Rebalanced addresses.vault msg world next user position) :
    totalSupply addresses next = totalDebt next ∧
      (next.coins addresses.stableCoin).vault = (world.coins addresses.stableCoin).vault := by
  have trade := tally_update Position.debtAmount world.vault.positions user position
  have equal := before.supply
  unfold totalSupply totalDebt at *
  rw [change.positions]
  cases change.debt with
  | kept coins same =>
      rw [coins]
      refine ⟨?_, rfl⟩
      omega
  | minted recipient amount coin wired done coins grown =>
      rw [before.wired wired] at done coins
      obtain ⟨_, sameVault, supply⟩ := StableCoin.mint_ok done
      rw [coins, Function.update_self]
      refine ⟨?_, sameVault⟩
      omega
  | burned account amount coin wired done coins covered shrunk =>
      rw [before.wired wired] at done coins
      obtain ⟨_, sameVault, supply⟩ := StableCoin.burn_ok done
      rw [coins, Function.update_self]
      refine ⟨?_, sameVault⟩
      omega

theorem backing_rebalanced {msg : Msg} {user : Address} {position : Position}
    (outside : msg.sender ≠ addresses.vault)
    (collateralToken : world.vault.collateralToken = collateral)
    (approvesNobody : world.tokens.Unapproved addresses.vault)
    (enough : totalCollateral world ≤ vaultBalance addresses collateral world)
    (change : Vault.Rebalanced addresses.vault msg world next user position) :
    totalCollateral next ≤ vaultBalance addresses collateral next ∧
      next.tokens.Unapproved addresses.vault := by
  have trade := tally_update Position.collateralAmount world.vault.positions user position
  unfold totalCollateral vaultBalance at *
  rw [change.positions]
  cases change.collateral with
  | kept tokens same =>
      rw [tokens]
      refine ⟨?_, approvesNobody⟩
      omega
  | received amount movements acted grown =>
      have unapproved := act_unapproved approvesNobody
        (fun _ _ _ approves => by cases approves) acted
      rw [collateralToken] at acted
      have balance := act_transferFrom_received outside acted
      refine ⟨?_, unapproved⟩
      omega
  | sent amount movements acted covered shrunk =>
      have unapproved := act_unapproved approvesNobody
        (fun _ _ _ approves => by cases approves) acted
      rw [collateralToken] at acted
      obtain ⟨_, tokens, _⟩ := act_transfer_eq_ok acted
      have balance := balances_le_move_add (world.tokens collateral) addresses.vault msg.sender
        amount
      refine ⟨?_, unapproved⟩
      rw [tokens, Function.update_self]
      omega

private theorem backed_of_unmoved (before : Backed addresses collateral world)
    (unmoved : Vault.Unmoved world next)
    (wired : next.vault.stableCoinSet = true → next.vault.stableCoin = addresses.stableCoin) :
    Backed addresses collateral next := by
  refine ⟨unmoved.collateralToken.trans before.collateralToken, wired, ?_, ?_, ?_, ?_⟩
  · rw [unmoved.coins]
    exact before.coinVault
  · rw [unmoved.tokens]
    exact before.unapproved
  · unfold totalSupply totalDebt
    rw [unmoved.coins, unmoved.positions]
    exact before.supply
  · unfold totalCollateral vaultBalance
    rw [unmoved.tokens, unmoved.positions]
    exact before.backing

private theorem backed_vault {call : Call addresses} {fn : Vault.Fn}
    {receipt : Receipt Vault.Event} (before : Backed addresses collateral world)
    (done : Vault.callFn addresses.vault call.msg world fn = .ok (next, receipt))
    (wires : ∀ address, fn = .setStableCoin address → address = addresses.stableCoin) :
    Backed addresses collateral next := by
  rcases Vault.callFn_cases done with
    ⟨user, position, change⟩ | ⟨address, sets, unmoved, set⟩ | ⟨unmoved, sameCoin, sameSet⟩
  · obtain ⟨supply, sameVault⟩ := supply_rebalanced before change
    obtain ⟨backing, unapproved⟩ := backing_rebalanced call.outside before.collateralToken
      before.unapproved before.backing change
    refine ⟨change.wiring.collateralToken.trans before.collateralToken, ?_, ?_, unapproved,
      supply, backing⟩
    · rw [change.wiring.stableCoin, change.wiring.stableCoinSet]
      exact before.wired
    · rw [sameVault]
      exact before.coinVault
  · apply backed_of_unmoved before unmoved
    intro _
    exact set.trans (wires address sets)
  · apply backed_of_unmoved before unmoved
    rw [sameCoin, sameSet]
    exact before.wired

private theorem Backed.withCoins {coins : Address → StableCoin.State}
    (before : Backed addresses collateral world)
    (coinVault : (coins addresses.stableCoin).vault = 0 ∨
      (coins addresses.stableCoin).vault = addresses.vault)
    (supply : (coins addresses.stableCoin).token.totalSupply =
      (world.coins addresses.stableCoin).token.totalSupply) :
    Backed addresses collateral { world with coins := coins } :=
  ⟨before.collateralToken, before.wired, coinVault, before.unapproved,
    supply.trans before.supply, before.backing⟩

private theorem backed_coin {call : Call addresses} {address : Address} {fn : StableCoin.Fn}
    {coin : StableCoin.State} (before : Backed addresses collateral world)
    (done : StableCoin.callFn call.msg (world.coins address) fn = .ok coin)
    (wires : address = addresses.stableCoin →
      ∀ vault, fn = .setVault vault → vault = addresses.vault) :
    Backed addresses collateral
      { world with coins := Function.update world.coins address coin } := by
  by_cases same : address = addresses.stableCoin
  · subst same
    have notVault : call.msg.sender ≠ (world.coins addresses.stableCoin).vault := by
      rcases before.coinVault with unset | set
      · rw [unset]
        exact call.real
      · rw [set]
        exact call.outside
    obtain ⟨supply, vault⟩ := StableCoin.callFn_ok notVault done
    apply before.withCoins
    · rw [Function.update_self]
      rcases vault with kept | ⟨set, sets, now⟩
      · rw [kept]
        exact before.coinVault
      · exact Or.inr (now.trans (wires rfl set sets))
    · rw [Function.update_self]
      exact supply
  · apply before.withCoins
    · rw [Function.update_of_ne (Ne.symm same)]
      exact before.coinVault
    · rw [Function.update_of_ne (Ne.symm same)]

theorem backed_step {call : Call addresses} {receipt : Receipt Vault.Event}
    (before : Backed addresses collateral world)
    (done : exec addresses world call = .ok (next, receipt))
    (wires : WiresThisPair ⟨world, call, receipt, next⟩) : Backed addresses collateral next := by
  unfold exec at done
  cases target : call.target with
  | vault fn =>
      rw [target] at done
      apply backed_vault before (mapError_eq_ok.mp done)
      intro address sets
      have named := wires.1
      rw [target, sets] at named
      exact Option.some.inj ((List.mem_pair.mp named).resolve_left nofun)
  | coin address fn =>
      rw [target] at done
      obtain ⟨coin, called, same⟩ := bind_eq_ok.mp done
      cases same
      apply backed_coin before (mapError_eq_ok.mp called)
      intro here vault sets
      have named := wires.2
      rw [target, sets, here, Target.setsVault, if_pos rfl] at named
      exact Option.some.inj ((List.mem_pair.mp named).resolve_left nofun)
  | oracle address fn =>
      rw [target] at done
      obtain ⟨oracle, _, same⟩ := bind_eq_ok.mp done
      cases same
      exact backed_of_unmoved before ⟨rfl, rfl, rfl, rfl⟩ before.wired
  | token token act =>
      rw [target] at done
      obtain ⟨⟨tokens, movements⟩, acted, same⟩ := bind_eq_ok.mp done
      cases same
      have untouched := act_untouched before.unapproved call.outside (mapError_eq_ok.mp acted)
      exact
        { before with
          unapproved := untouched.unapproved
          backing := Nat.le_trans before.backing (untouched.balances collateral) }

end Steps

/-- After any calls by any accounts, the stablecoin's supply is the sum of all
debts and the Vault holds at least the collateral of all positions. -/
theorem supply_is_debt_and_collateral_is_held (deployment : Deployment)
    (calls : List (Call deployment.addresses))
    (wires : ∀ commit ∈ deployment.history calls, WiresThisPair commit) :
    totalSupply deployment.addresses (deployment.run calls) = totalDebt (deployment.run calls) ∧
      totalCollateral (deployment.run calls) ≤
        vaultBalance deployment.addresses deployment.args.collateralTokenAddress
          (deployment.run calls) := by
  have invariant : Backed deployment.addresses deployment.args.collateralTokenAddress
      (deployment.run calls) := by
    refine @run_induction _ _ _ _ (exec deployment.addresses)
      (fun world _ => Backed deployment.addresses deployment.args.collateralTokenAddress world)
      WiresThisPair deployment.start (backed_start deployment) ?_ calls wires
    intro world past call next receipt before done allowed
    exact backed_step before done allowed
  exact ⟨invariant.supply, invariant.backing⟩

def sampleAddresses : Addresses where
  vault := 0x5A
  stableCoin := 0x5C

/-- The collateral token is `0x77` at a price of two; `0xA1` owns `100` of it and
lets the Vault spend them.  `0xAD` administers the Vault and deployed the coin. -/
def sampleDeployment : Deployment where
  addresses := sampleAddresses
  args :=
    { timelockAdmin := 0xAD
      collateralTokenAddress := 0x77
      priceOracleAddress := 0x99
      minCollateralRatioBps := 15000
      liquidationPenaltyBps := 1000 }
  deployer := 0xAD
  otherCoins _ := StableCoin.deployed 0
  oracles _ := PriceOracle.initialized 0xAD (2 * 10 ^ 18) 0
  tokens _ :=
    { balances := fun account => if account = 0xA1 then 100 else 0
      allowances := fun owner spender => if owner = 0xA1 ∧ spender = 0x5A then 100 else 0
      totalSupply := 100 }
  unapproved _ _ := rfl

def sampleCall (sender : Address) (real : sender ≠ 0) (outside : sender ≠ 0x5A)
    (target : Target) : Call sampleAddresses where
  msg := { sender := sender, timestamp := 10 }
  target := target
  real := real
  outside := outside

def ownerCall := sampleCall 0xAD (by decide) (by decide)

def borrowerCall := sampleCall 0xA1 (by decide) (by decide)

/-- The pair is wired, then `0xA1` deposits `90`, mints `100` and repays `40`. -/
def sampleCalls : List (Call sampleAddresses) :=
  [ownerCall (.vault (.setStableCoin 0x5C)),
   ownerCall (.coin 0x5C (.setVault 0x5A)),
   borrowerCall (.vault (.depositCollateral 90)),
   borrowerCall (.vault (.mintStableCoin 100)),
   borrowerCall (.vault (.repayDebt 40))]

theorem supply_is_debt_and_collateral_is_held_sample :
    (∀ commit ∈ sampleDeployment.history sampleCalls, WiresThisPair commit) ∧
      (sampleDeployment.run sampleCalls).vault.positions 0xA1 = ⟨90, 60⟩ ∧
      totalSupply sampleAddresses (sampleDeployment.run sampleCalls) =
        totalDebt (sampleDeployment.run sampleCalls) ∧
      totalCollateral (sampleDeployment.run sampleCalls) ≤
        vaultBalance sampleAddresses 0x77 (sampleDeployment.run sampleCalls) :=
  ⟨by decide, by decide,
    supply_is_debt_and_collateral_is_held sampleDeployment sampleCalls (by decide)⟩

end Dics.Cdp
