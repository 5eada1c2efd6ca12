/-
The InsurancePolicy contract: policies, the premium module and the catalogue.

Policy ids chosen by the manager and ids taken from the counter share one
space; `subscribeToPolicy` skips over ids that are already taken, at most a
thousand times.
-/

import Dics.Chain.Basic
import Dics.Lib.Roles

open Transactions Tokens Words

namespace Dics.InsurancePolicy

inductive Role where
  | defaultAdmin
  | admin
  | upgrader
  | pauser
  | policyManager
  deriving DecidableEq

structure PremiumTerms where
  amountPerPeriod : BitVec 128
  periodSeconds : BitVec 40
  deriving DecidableEq

structure PolicyTemplate where
  coverageAmount : BitVec 128
  premiumAmountPerPeriod : BitVec 128
  periodSeconds : BitVec 40
  termSeconds : BitVec 40
  active : Bool
  metadataHash : Bytes32
  deriving DecidableEq

structure State where
  roles : Roles.Table Role Address
  paused : Bool
  policies : Nat → Policy
  policyExists : Nat → Bool
  premiumToken : Address
  premiumTreasury : Address
  premiumGracePeriodSeconds : Nat
  premiumTerms : Nat → PremiumTerms
  premiumPaidUntil : Nat → Nat
  policyTemplates : Nat → PolicyTemplate
  nextPolicyId : Nat

inductive Event where
  | policyRegistered (policyId : Nat) (holder : Address)
      (validFrom validUntil coverageAmount : Nat) (metadataHash : Bytes32)
  | policyRevoked (policyId : Nat)
  | policyCoverageUpdated (policyId newCoverageAmount : Nat)
  | premiumConfigUpdated (token treasury : Address) (gracePeriodSeconds : Nat)
  | premiumTermsSet (policyId amountPerPeriod periodSeconds : Nat)
  | premiumPaid (policyId : Nat) (payer : Address) (amount paidUntil : Nat)
  | policyTemplateAdded (templateId coverageAmount premiumAmountPerPeriod periodSeconds
      termSeconds : Nat)
  | policyTemplateStatusChanged (templateId : Nat) (active : Bool)
  | policySubscribed (policyId templateId : Nat) (holder : Address) (validUntil : Nat)
  | paused (account : Address)
  | unpaused (account : Address)
  | roleChanged (change : Roles.Change Role Address)
  deriving DecidableEq

inductive Error where
  | policyAlreadyExists
  | policyNotFound
  | invalidHolder
  | invalidDateRange
  | premiumTokenNotSet
  | premiumTermsNotSet
  | onlyPolicyHolderCanPay
  | policyTemplateNotFound
  | policyTemplateInactive
  | policyIdSpaceExhausted
  | enforcedPause
  | expectedPause
  | accessControlUnauthorizedAccount
  | arithmeticPanic
  | token (error : TokenError)
  deriving DecidableEq

/-- What an unwritten policy slot reads as. -/
def emptyPolicy : Policy :=
  { policyId := 0, coverageAmount := 0, holder := 0, validFrom := 0, validUntil := 0,
    revoked := false, metadataHash := 0 }

def initialized (timelockAdmin : Address) : State :=
  { roles := ((Roles.Table.empty.assign .defaultAdmin timelockAdmin true).assign
      .admin timelockAdmin true).assign .upgrader timelockAdmin true
    paused := false
    policies := fun _ => emptyPolicy
    policyExists := fun _ => false
    premiumToken := 0
    premiumTreasury := 0
    premiumGracePeriodSeconds := 0
    premiumTerms := fun _ => { amountPerPeriod := 0, periodSeconds := 0 }
    premiumPaidUntil := fun _ => 0
    policyTemplates := fun _ =>
      { coverageAmount := 0, premiumAmountPerPeriod := 0, periodSeconds := 0,
        termSeconds := 0, active := false, metadataHash := 0 }
    nextPolicyId := 1 }

def whenNotPaused (state : State) : Except Error Unit :=
  require (state.paused = false) .enforcedPause

def onlyRole (role : Role) (msg : Msg) (state : State) : Except Error Unit :=
  require (state.roles role msg.sender = true) .accessControlUnauthorizedAccount

/-! ### Views -/

def getPolicy (state : State) (policyId : Nat) : Option Policy :=
  if state.policyExists policyId = true then some (state.policies policyId) else none

theorem getPolicy_eq_some {state : State} {policyId : Nat} {policy : Policy} :
    getPolicy state policyId = some policy ↔
      state.policyExists policyId = true ∧ state.policies policyId = policy := by
  simp only [getPolicy, Option.ite_none_right_eq_some, Option.some.injEq]

/-- `none` is the overflow of the grace period, which reverts. -/
def isPremiumCurrent (state : State) (timestamp policyId : Nat) : Option Bool :=
  if (state.premiumTerms policyId).amountPerPeriod = 0 then some true
  else do
    let deadline ← checkedAdd (state.premiumPaidUntil policyId) state.premiumGracePeriodSeconds
    return decide (timestamp ≤ deadline)

def isPolicyActive (state : State) (policyId atTime : Nat) : Bool :=
  state.policyExists policyId && !(state.policies policyId).revoked &&
    decide ((state.policies policyId).validFrom.toNat ≤ atTime) &&
    decide (atTime ≤ (state.policies policyId).validUntil.toNat)

def isClaimEligible (state : State) (timestamp policyId : Nat) (claimant : Address)
    (claimAmount atTime : Nat) : Option Bool :=
  let policy := state.policies policyId
  if state.policyExists policyId = false then some false
  else if policy.revoked = true then some false
  else if policy.holder ≠ claimant then some false
  else if atTime < policy.validFrom.toNat ∨ atTime > policy.validUntil.toNat then some false
  else if claimAmount > policy.coverageAmount.toNat then some false
  else isPremiumCurrent state timestamp policyId

/-- The contract as `ClaimRegistry` calls it at a given time. -/
def view (state : State) (timestamp : Nat) : PolicyRegistry where
  getPolicy := getPolicy state
  isPremiumCurrent := isPremiumCurrent state timestamp

/-! ### Premium configuration and collection -/

def setPremiumConfig (token treasury : Address) (gracePeriodSeconds : Nat) (msg : Msg)
    (state : State) : Except Error (State × List Event) := do
  onlyRole .admin msg state
  return (
    { state with
      premiumToken := token
      premiumTreasury := treasury
      premiumGracePeriodSeconds := gracePeriodSeconds },
    [.premiumConfigUpdated token treasury gracePeriodSeconds])

def setPremiumTerms (policyId amountPerPeriod periodSeconds : Nat) (msg : Msg)
    (state : State) : Except Error (State × List Event) := do
  onlyRole .policyManager msg state
  require (state.policyExists policyId = true) .policyNotFound
  return (
    { state with
      premiumTerms := Function.update state.premiumTerms policyId
        { amountPerPeriod := BitVec.ofNat 128 amountPerPeriod
          periodSeconds := BitVec.ofNat 40 periodSeconds } },
    [.premiumTermsSet policyId amountPerPeriod periodSeconds])

/-- Shared by renewal and by the first payment of a subscription. -/
def collectPremium (self : Address) (policyId : Nat) (payer : Address) (msg : Msg)
    (state : State) (tokens : Bank Address) :
    Except Error ((State × Bank Address) × Receipt Event) := do
  require (state.premiumToken ≠ 0) .premiumTokenNotSet
  let terms := state.premiumTerms policyId
  require (terms.amountPerPeriod ≠ 0) .premiumTermsNotSet
  let newPaidUntil ← orRevert .arithmeticPanic
    (checkedAdd (if state.premiumPaidUntil policyId > msg.timestamp
      then state.premiumPaidUntil policyId else msg.timestamp) terms.periodSeconds.toNat)
  let (tokens, movements) ← (tokens.act state.premiumToken self
    (.transferFrom payer state.premiumTreasury terms.amountPerPeriod.toNat)).mapError .token
  return (
    ({ state with
        premiumPaidUntil := Function.update state.premiumPaidUntil policyId newPaidUntil },
      tokens),
    { events := [.premiumPaid policyId payer terms.amountPerPeriod.toNat newPaidUntil]
      movements := movements })

def payPremium (self : Address) (policyId : Nat) (msg : Msg) (state : State)
    (tokens : Bank Address) : Except Error ((State × Bank Address) × Receipt Event) := do
  whenNotPaused state
  require (state.policyExists policyId = true) .policyNotFound
  require ((state.policies policyId).holder = msg.sender) .onlyPolicyHolderCanPay
  collectPremium self policyId msg.sender msg state tokens

/-! ### Policy catalogue -/

def addPolicyTemplate (templateId coverageAmount premiumAmountPerPeriod periodSeconds
    termSeconds : Nat) (metadataHash : Bytes32) (msg : Msg) (state : State) :
    Except Error (State × List Event) := do
  whenNotPaused state
  onlyRole .policyManager msg state
  return (
    { state with
      policyTemplates := Function.update state.policyTemplates templateId
        { coverageAmount := BitVec.ofNat 128 coverageAmount
          premiumAmountPerPeriod := BitVec.ofNat 128 premiumAmountPerPeriod
          periodSeconds := BitVec.ofNat 40 periodSeconds
          termSeconds := BitVec.ofNat 40 termSeconds
          active := true
          metadataHash := metadataHash } },
    [.policyTemplateAdded templateId coverageAmount premiumAmountPerPeriod periodSeconds
      termSeconds])

def setPolicyTemplateActive (templateId : Nat) (active : Bool) (msg : Msg) (state : State) :
    Except Error (State × List Event) := do
  onlyRole .policyManager msg state
  require ((state.policyTemplates templateId).premiumAmountPerPeriod ≠ 0)
    .policyTemplateNotFound
  return (
    { state with
      policyTemplates := Function.update state.policyTemplates templateId
        { state.policyTemplates templateId with active := active } },
    [.policyTemplateStatusChanged templateId active])

/-- The skip-forward loop of `subscribeToPolicy`.  `attemptsLeft` counts down
from the thousand the source allows; the increment is checked. -/
def skipForward (policyExists : Nat → Bool) : Nat → Nat → Option Nat
  | 0, _ => none
  | attemptsLeft + 1, policyId =>
      if policyExists policyId = true then
        (checkedAdd policyId 1).bind (skipForward policyExists attemptsLeft)
      else some policyId

def subscribeToPolicy (self : Address) (templateId : Nat) (msg : Msg) (state : State)
    (tokens : Bank Address) : Except Error ((State × Bank Address) × Receipt Event) := do
  whenNotPaused state
  let template := state.policyTemplates templateId
  require (template.premiumAmountPerPeriod ≠ 0) .policyTemplateNotFound
  require (template.active = true) .policyTemplateInactive
  let policyId ← orRevert .policyIdSpaceExhausted
    (skipForward state.policyExists 1000 state.nextPolicyId)
  let nextPolicyId ← orRevert .arithmeticPanic (checkedAdd policyId 1)
  let validUntil ← orRevert .arithmeticPanic
    (checkedAdd msg.timestamp template.termSeconds.toNat)
  let issued : State :=
    { state with
      nextPolicyId := nextPolicyId
      policies := Function.update state.policies policyId
        { policyId := BitVec.ofNat 128 policyId
          coverageAmount := template.coverageAmount
          holder := msg.sender
          validFrom := BitVec.ofNat 40 msg.timestamp
          validUntil := BitVec.ofNat 40 validUntil
          revoked := false
          metadataHash := template.metadataHash }
      policyExists := Function.update state.policyExists policyId true
      premiumTerms := Function.update state.premiumTerms policyId
        { amountPerPeriod := template.premiumAmountPerPeriod
          periodSeconds := template.periodSeconds } }
  let (result, receipt) ← collectPremium self policyId msg.sender msg issued tokens
  return (result,
    { receipt with
      events := .policyRegistered policyId msg.sender msg.timestamp validUntil
          template.coverageAmount.toNat template.metadataHash ::
        .policySubscribed policyId templateId msg.sender validUntil :: receipt.events })

/-! ### Policy management -/

def registerPolicy (policyId : Nat) (holder : Address) (validFrom validUntil coverageAmount : Nat)
    (metadataHash : Bytes32) (msg : Msg) (state : State) :
    Except Error (State × List Event) := do
  whenNotPaused state
  onlyRole .policyManager msg state
  require (state.policyExists policyId = false) .policyAlreadyExists
  require (holder ≠ 0) .invalidHolder
  require (validFrom < validUntil) .invalidDateRange
  return (
    { state with
      policies := Function.update state.policies policyId
        { policyId := BitVec.ofNat 128 policyId
          coverageAmount := BitVec.ofNat 128 coverageAmount
          holder := holder
          validFrom := BitVec.ofNat 40 validFrom
          validUntil := BitVec.ofNat 40 validUntil
          revoked := false
          metadataHash := metadataHash }
      policyExists := Function.update state.policyExists policyId true },
    [.policyRegistered policyId holder validFrom validUntil coverageAmount metadataHash])

def revokePolicy (policyId : Nat) (msg : Msg) (state : State) :
    Except Error (State × List Event) := do
  whenNotPaused state
  onlyRole .policyManager msg state
  require (state.policyExists policyId = true) .policyNotFound
  return (
    { state with
      policies := Function.update state.policies policyId
        { state.policies policyId with revoked := true } },
    [.policyRevoked policyId])

def updateCoverage (policyId newCoverageAmount : Nat) (msg : Msg) (state : State) :
    Except Error (State × List Event) := do
  whenNotPaused state
  onlyRole .policyManager msg state
  require (state.policyExists policyId = true) .policyNotFound
  return (
    { state with
      policies := Function.update state.policies policyId
        { state.policies policyId with coverageAmount := BitVec.ofNat 128 newCoverageAmount } },
    [.policyCoverageUpdated policyId newCoverageAmount])

def pause (msg : Msg) (state : State) : Except Error (State × List Event) := do
  onlyRole .pauser msg state
  whenNotPaused state
  return ({ state with paused := true }, [.paused msg.sender])

def unpause (msg : Msg) (state : State) : Except Error (State × List Event) := do
  onlyRole .admin msg state
  require (state.paused = true) .expectedPause
  return ({ state with paused := false }, [.unpaused msg.sender])

def changeRole (change : Roles.Change Role Address) (msg : Msg) (state : State) :
    Except Error (State × List Event) := do
  let roles ← change.apply .defaultAdmin .accessControlUnauthorizedAccount msg.sender state.roles
  return ({ state with roles := roles }, [.roleChanged change])

/-! ### Calls -/

structure World where
  policy : State
  tokens : Bank Address

inductive Fn where
  | setPremiumConfig (token treasury : Address) (gracePeriodSeconds : Nat)
  | setPremiumTerms (policyId amountPerPeriod periodSeconds : Nat)
  | payPremium (policyId : Nat)
  | addPolicyTemplate (templateId coverageAmount premiumAmountPerPeriod periodSeconds
      termSeconds : Nat) (metadataHash : Bytes32)
  | setPolicyTemplateActive (templateId : Nat) (active : Bool)
  | subscribeToPolicy (templateId : Nat)
  | registerPolicy (policyId : Nat) (holder : Address)
      (validFrom validUntil coverageAmount : Nat) (metadataHash : Bytes32)
  | revokePolicy (policyId : Nat)
  | updateCoverage (policyId newCoverageAmount : Nat)
  | pause
  | unpause
  | changeRole (change : Roles.Change Role Address)
  deriving DecidableEq

def World.withState (world : World) (result : Except Error (State × List Event)) :
    Except Error (World × Receipt Event) := do
  let (policy, events) ← result
  return ({ world with policy := policy }, { events := events, movements := [] })

def World.withTokens (result : Except Error ((State × Bank Address) × Receipt Event)) :
    Except Error (World × Receipt Event) := do
  let ((policy, tokens), receipt) ← result
  return ({ policy := policy, tokens := tokens }, receipt)

def callFn (self : Address) (msg : Msg) (world : World) :
    Fn → Except Error (World × Receipt Event)
  | .setPremiumConfig token treasury gracePeriodSeconds =>
      world.withState (setPremiumConfig token treasury gracePeriodSeconds msg world.policy)
  | .setPremiumTerms policyId amountPerPeriod periodSeconds =>
      world.withState (setPremiumTerms policyId amountPerPeriod periodSeconds msg world.policy)
  | .payPremium policyId =>
      World.withTokens (payPremium self policyId msg world.policy world.tokens)
  | .addPolicyTemplate templateId coverageAmount premiumAmountPerPeriod periodSeconds
      termSeconds metadataHash =>
      world.withState (addPolicyTemplate templateId coverageAmount premiumAmountPerPeriod
        periodSeconds termSeconds metadataHash msg world.policy)
  | .setPolicyTemplateActive templateId active =>
      world.withState (setPolicyTemplateActive templateId active msg world.policy)
  | .subscribeToPolicy templateId =>
      World.withTokens (subscribeToPolicy self templateId msg world.policy world.tokens)
  | .registerPolicy policyId holder validFrom validUntil coverageAmount metadataHash =>
      world.withState (registerPolicy policyId holder validFrom validUntil coverageAmount
        metadataHash msg world.policy)
  | .revokePolicy policyId => world.withState (revokePolicy policyId msg world.policy)
  | .updateCoverage policyId newCoverageAmount =>
      world.withState (updateCoverage policyId newCoverageAmount msg world.policy)
  | .pause => world.withState (pause msg world.policy)
  | .unpause => world.withState (unpause msg world.policy)
  | .changeRole change => world.withState (changeRole change msg world.policy)

/-! ### What a committed call did to the tokens -/

theorem withState_tokens {world next : World} {receipt : Receipt Event}
    {result : Except Error (State × List Event)}
    (done : world.withState result = .ok (next, receipt)) :
    next.tokens = world.tokens ∧ receipt.movements = [] := by
  obtain ⟨⟨_, _⟩, _, same⟩ := bind_eq_ok.mp done
  cases same
  exact ⟨rfl, rfl⟩

theorem collectPremium_ok {self payer : Address} {policyId : Nat} {msg : Msg}
    {state after : State} {tokens paid : Bank Address} {receipt : Receipt Event}
    (done : collectPremium self policyId payer msg state tokens = .ok ((after, paid), receipt)) :
    ∃ token treasury amount,
      tokens.act token self (.transferFrom payer treasury amount) =
        .ok (paid, receipt.movements) := by
  simp only [collectPremium, require_bind_eq_ok, orRevert_bind_eq_ok] at done
  obtain ⟨_, _, _, _, collecting⟩ := done
  obtain ⟨⟨_, _⟩, collected, same⟩ := bind_eq_ok.mp collecting
  cases same
  exact ⟨_, _, _, mapError_eq_ok.mp collected⟩

theorem callFn_tokens {self : Address} {msg : Msg} {world next : World}
    {receipt : Receipt Event} {fn : Fn}
    (done : callFn self msg world fn = .ok (next, receipt)) :
    (next.tokens = world.tokens ∧ receipt.movements = []) ∨
      ∃ token treasury amount,
        world.tokens.act token self (.transferFrom msg.sender treasury amount) =
          .ok (next.tokens, receipt.movements) := by
  cases fn with
  | payPremium policyId =>
      obtain ⟨⟨⟨state, tokens⟩, paid⟩, paying, same⟩ := bind_eq_ok.mp done
      cases same
      simp only [payPremium, whenNotPaused, require_bind_eq_ok] at paying
      exact Or.inr (collectPremium_ok paying.2.2.2)
  | subscribeToPolicy templateId =>
      obtain ⟨⟨⟨state, tokens⟩, paid⟩, subscribing, same⟩ := bind_eq_ok.mp done
      cases same
      simp only [subscribeToPolicy, whenNotPaused, require_bind_eq_ok,
        orRevert_bind_eq_ok] at subscribing
      obtain ⟨_, _, _, _, _, _, _, _, _, collecting⟩ := subscribing
      obtain ⟨⟨⟨_, _⟩, _⟩, collected, same⟩ := bind_eq_ok.mp collecting
      cases same
      obtain ⟨token, treasury, amount, moved⟩ := collectPremium_ok collected
      exact Or.inr ⟨token, treasury, amount, moved⟩
  | setPremiumConfig token treasury gracePeriodSeconds => exact Or.inl (withState_tokens done)
  | setPremiumTerms policyId amountPerPeriod periodSeconds => exact Or.inl (withState_tokens done)
  | addPolicyTemplate templateId coverageAmount premiumAmountPerPeriod periodSeconds termSeconds
      metadataHash => exact Or.inl (withState_tokens done)
  | setPolicyTemplateActive templateId active => exact Or.inl (withState_tokens done)
  | registerPolicy policyId holder validFrom validUntil coverageAmount metadataHash =>
      exact Or.inl (withState_tokens done)
  | revokePolicy policyId => exact Or.inl (withState_tokens done)
  | updateCoverage policyId newCoverageAmount => exact Or.inl (withState_tokens done)
  | pause => exact Or.inl (withState_tokens done)
  | unpause => exact Or.inl (withState_tokens done)
  | changeRole change => exact Or.inl (withState_tokens done)

end Dics.InsurancePolicy
