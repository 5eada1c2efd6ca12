/-
The StableCoin token and the PriceOracle, the two contracts the Vault calls.

A StableCoin is a standard token with one privileged account, set once by the
deployer.  The price oracle stores whatever its setters write.
-/

import Dics.Chain.Basic
import Dics.Lib.Roles

open Transactions Tokens Words

namespace Dics.StableCoin

structure State where
  token : Token Address
  vault : Address
  deployer : Address

inductive Error where
  | vaultAlreadySet
  | onlyVault
  | onlyDeployer
  | token (error : TokenError)
  deriving DecidableEq

/-- The state after the constructor. -/
def deployed (deployer : Address) : State :=
  { token := { balances := fun _ => 0, allowances := fun _ _ => 0, totalSupply := 0 }
    vault := 0
    deployer := deployer }

def setVault (vault : Address) (msg : Msg) (state : State) : Except Error State := do
  require (msg.sender = state.deployer) .onlyDeployer
  require (state.vault = 0) .vaultAlreadySet
  return { state with vault := vault }

def onlyVault (sender : Address) (state : State) : Except Error Unit :=
  require (sender = state.vault) .onlyVault

def mint (sender recipient : Address) (amount : Nat) (state : State) : Except Error State := do
  onlyVault sender state
  let token ← (state.token.mint recipient amount).mapError .token
  return { state with token := token }

def burn (sender account : Address) (amount : Nat) (state : State) : Except Error State := do
  onlyVault sender state
  let token ← (state.token.burn account amount).mapError .token
  return { state with token := token }

inductive Fn where
  | setVault (vault : Address)
  | mint (recipient : Address) (amount : Nat)
  | burn (account : Address) (amount : Nat)
  | transfer (recipient : Address) (amount : Nat)
  | approve (spender : Address) (amount : Nat)
  | transferFrom (owner recipient : Address) (amount : Nat)
  deriving DecidableEq

/-- The inherited functions of the standard token. -/
def State.withToken (state : State) (result : Except TokenError (Token Address)) :
    Except Error State := do
  let token ← result.mapError .token
  return { state with token := token }

def callFn (msg : Msg) (state : State) : Fn → Except Error State
  | .setVault vault => setVault vault msg state
  | .mint recipient amount => mint msg.sender recipient amount state
  | .burn account amount => burn msg.sender account amount state
  | .transfer recipient amount =>
      state.withToken (state.token.transfer msg.sender recipient amount)
  | .approve spender amount => state.withToken (state.token.approve msg.sender spender amount)
  | .transferFrom owner recipient amount =>
      state.withToken (state.token.transferFrom msg.sender owner recipient amount)

/-! ### What a successful call did -/

theorem mint_ok {sender recipient : Address} {amount : Nat} {state next : State}
    (done : mint sender recipient amount state = .ok next) :
    sender = state.vault ∧ next.vault = state.vault ∧
      next.token.totalSupply = state.token.totalSupply + amount := by
  simp only [mint, onlyVault, require_bind_eq_ok] at done
  obtain ⟨isVault, minting⟩ := done
  obtain ⟨token, minted, same⟩ := bind_eq_ok.mp minting
  cases same
  obtain ⟨_, _, rfl⟩ := mint_eq_ok.mp (mapError_eq_ok.mp minted)
  exact ⟨isVault, rfl, rfl⟩

theorem burn_ok {sender account : Address} {amount : Nat} {state next : State}
    (done : burn sender account amount state = .ok next) :
    sender = state.vault ∧ next.vault = state.vault ∧
      next.token.totalSupply = state.token.totalSupply - amount := by
  simp only [burn, onlyVault, require_bind_eq_ok] at done
  obtain ⟨isVault, burning⟩ := done
  obtain ⟨token, burned, same⟩ := bind_eq_ok.mp burning
  cases same
  obtain ⟨_, _, rfl⟩ := burn_eq_ok.mp (mapError_eq_ok.mp burned)
  exact ⟨isVault, rfl, rfl⟩

/-- Seen from an account that is not the vault, the supply is fixed and the
vault can be set only while it is unset. -/
theorem callFn_ok {msg : Msg} {state next : State} {fn : Fn}
    (notVault : msg.sender ≠ state.vault) (done : callFn msg state fn = .ok next) :
    next.token.totalSupply = state.token.totalSupply ∧
      (next.vault = state.vault ∨ ∃ vault, fn = .setVault vault ∧ next.vault = vault) := by
  cases fn with
  | setVault vault =>
      simp only [callFn, setVault, require_bind_eq_ok, pure_eq_ok] at done
      obtain ⟨_, _, rfl⟩ := done
      exact ⟨rfl, Or.inr ⟨vault, rfl, rfl⟩⟩
  | mint recipient amount => exact absurd (mint_ok done).1 notVault
  | burn account amount => exact absurd (burn_ok done).1 notVault
  | transfer recipient amount =>
      obtain ⟨token, moving, same⟩ := bind_eq_ok.mp done
      cases same
      obtain ⟨_, _, _, rfl⟩ := transfer_eq_ok.mp (mapError_eq_ok.mp moving)
      exact ⟨rfl, Or.inl rfl⟩
  | approve spender amount =>
      obtain ⟨token, approving, same⟩ := bind_eq_ok.mp done
      cases same
      exact ⟨(approve_eq_ok (mapError_eq_ok.mp approving)).2.1, Or.inl rfl⟩
  | transferFrom owner recipient amount =>
      obtain ⟨token, moving, same⟩ := bind_eq_ok.mp done
      cases same
      obtain ⟨_, _, _, supply, _⟩ := transferFrom_eq_ok (mapError_eq_ok.mp moving)
      exact ⟨supply, Or.inl rfl⟩

/-- Once set, the vault stays. -/
theorem callFn_vault {msg : Msg} {state next : State} {fn : Fn} (set : state.vault ≠ 0)
    (done : callFn msg state fn = .ok next) : next.vault = state.vault := by
  cases fn with
  | setVault vault =>
      simp only [callFn, setVault, require_bind_eq_ok] at done
      exact absurd done.2.1 set
  | mint recipient amount => exact (mint_ok done).2.1
  | burn account amount => exact (burn_ok done).2.1
  | transfer recipient amount =>
      obtain ⟨token, _, same⟩ := bind_eq_ok.mp done
      cases same
      rfl
  | approve spender amount =>
      obtain ⟨token, _, same⟩ := bind_eq_ok.mp done
      cases same
      rfl
  | transferFrom owner recipient amount =>
      obtain ⟨token, _, same⟩ := bind_eq_ok.mp done
      cases same
      rfl

theorem burn_of_covered {sender account : Address} {amount : Nat} {state : State}
    (isVault : state.vault = sender) (holds : account ≠ 0)
    (covered : amount ≤ state.token.balances account) :
    ∃ coin, burn sender account amount state = .ok coin := by
  obtain ⟨token, burned⟩ : ∃ token, state.token.burn account amount = .ok token :=
    ⟨_, burn_eq_ok.mpr ⟨holds, covered, rfl⟩⟩
  simp only [burn, onlyVault, require_bind_eq_ok]
  exact ⟨_, isVault.symm, bind_eq_ok.mpr ⟨token, mapError_eq_ok.mpr burned, rfl⟩⟩

end Dics.StableCoin

namespace Dics.PriceOracle

inductive Role where
  | defaultAdmin
  | admin
  | upgrader
  | priceSetter
  deriving DecidableEq

structure State where
  roles : Roles.Table Role Address
  priceScaled : Nat
  lastUpdatedAt : Nat

inductive Error where
  | accessControlUnauthorizedAccount
  deriving DecidableEq

def initialized (timelockAdmin : Address) (initialPriceScaled timestamp : Nat) : State :=
  { roles := ((Roles.Table.empty.assign .defaultAdmin timelockAdmin true).assign
      .admin timelockAdmin true).assign .upgrader timelockAdmin true
    priceScaled := initialPriceScaled
    lastUpdatedAt := timestamp }

inductive Fn where
  | setPrice (newPriceScaled : Nat)
  | changeRole (change : Roles.Change Role Address)
  deriving DecidableEq

def setPrice (newPriceScaled : Nat) (msg : Msg) (state : State) : Except Error State := do
  require (state.roles .priceSetter msg.sender = true) .accessControlUnauthorizedAccount
  return { state with priceScaled := newPriceScaled, lastUpdatedAt := msg.timestamp }

def getPrice (state : State) : Nat := state.priceScaled

def callFn (msg : Msg) (state : State) : Fn → Except Error State
  | .setPrice newPriceScaled => setPrice newPriceScaled msg state
  | .changeRole change => do
      let roles ← change.apply .defaultAdmin .accessControlUnauthorizedAccount msg.sender
        state.roles
      return { state with roles := roles }

end Dics.PriceOracle
