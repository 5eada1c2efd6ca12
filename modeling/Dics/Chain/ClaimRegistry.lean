/-
The ClaimRegistry contract.

Every external function of `ClaimRegistry.sol` is a partial state transformer
that reverts with the source's own error.  The payout token and the rescued
tokens are standard tokens without callbacks, so no call can re-enter and the
`nonReentrant` guard never fires; contract upgrades are outside the model.
-/

import Dics.Chain.Basic
import Dics.Lib.Roles

open Transactions Tokens Words

namespace Dics.ClaimRegistry

inductive Role where
  | defaultAdmin
  | admin
  | upgrader
  | pauser
  | underwriter
  | oracle
  deriving DecidableEq

inductive ClaimStatus where
  | submitted
  | underReview
  | approved
  | paid
  | rejected
  deriving DecidableEq

/-- The underlying `uint8` of the enum. -/
def ClaimStatus.index : ClaimStatus → Nat
  | .submitted => 0
  | .underReview => 1
  | .approved => 2
  | .paid => 3
  | .rejected => 4

structure Claim where
  claimId : BitVec 128
  policyId : BitVec 128
  claimant : Address
  amount : BitVec 96
  status : ClaimStatus
  submittedAt : BitVec 40
  processedAt : BitVec 40
  merkleRoot : Bytes32
  deriving DecidableEq

/-- What an unwritten mapping slot reads as. -/
def Claim.empty : Claim :=
  { claimId := 0, policyId := 0, claimant := 0, amount := 0, status := .submitted,
    submittedAt := 0, processedAt := 0, merkleRoot := 0 }

structure State where
  roles : Roles.Table Role Address
  paused : Bool
  nextClaimId : Nat
  claims : Nat → Claim
  policyClaims : Nat → List Nat
  usedOracleRequestIds : Bytes32 → Bool
  payoutToken : Address
  policyRegistry : Address
  maxPayoutPerClaim : Nat
  maxPayoutPerWindow : Nat
  rateLimitWindowSeconds : Nat
  windowStart : Nat
  windowTotalPaid : Nat

inductive Event where
  | claimSubmitted (claimId policyId : Nat) (claimant : Address) (merkleRoot : Bytes32)
      (amount timestamp : Nat)
  | claimStatusChanged (claimId : Nat) (status : ClaimStatus)
  | claimPayout (claimId : Nat) (recipient : Address) (amount : Nat) (token : Address)
  | rateLimitsUpdated (maxPerClaim maxPerWindow windowSeconds : Nat)
  | foreignTokenRescued (token recipient : Address) (amount : Nat)
  | stuckPayoutReleased (claimId : Nat) (recipient : Address) (amount : Nat)
  | policyRegistryUpdated (newPolicyRegistry : Address)
  | paused (account : Address)
  | unpaused (account : Address)
  | roleChanged (change : Roles.Change Role Address)
  deriving DecidableEq

inductive Error where
  | claimNotFound
  | claimNotApproved
  | claimAmountExceedsCap
  | rateLimitWindowExceeded
  | oracleRequestAlreadyUsed
  | cannotRescuePayoutToken
  | payoutHasNotFailed
  | policyRegistryNotSet
  | policyNotActive
  | notPolicyHolder
  | claimExceedsPolicyCoverage
  | premiumNotCurrent
  | enforcedPause
  | expectedPause
  | accessControlUnauthorizedAccount
  | policyRegistryReverted
  | arithmeticPanic
  | token (error : TokenError)
  deriving DecidableEq

/-! ### Initialisation -/

structure InitArgs where
  timelockAdmin : Address
  payoutTokenAddress : Address
  policyRegistryAddress : Address
  maxPayoutPerClaim : Nat
  maxPayoutPerWindow : Nat
  rateLimitWindowSeconds : Nat

def initialized (args : InitArgs) (timestamp : Nat) : State :=
  { roles := ((Roles.Table.empty.assign .defaultAdmin args.timelockAdmin true).assign
      .admin args.timelockAdmin true).assign .upgrader args.timelockAdmin true
    paused := false
    nextClaimId := 1
    claims := fun _ => Claim.empty
    policyClaims := fun _ => []
    usedOracleRequestIds := fun _ => false
    payoutToken := args.payoutTokenAddress
    policyRegistry := args.policyRegistryAddress
    maxPayoutPerClaim := args.maxPayoutPerClaim
    maxPayoutPerWindow := args.maxPayoutPerWindow
    rateLimitWindowSeconds := args.rateLimitWindowSeconds
    windowStart := timestamp
    windowTotalPaid := 0 }

/-! ### Modifiers -/

def whenNotPaused (state : State) : Except Error Unit :=
  require (state.paused = false) .enforcedPause

def onlyRole (role : Role) (msg : Msg) (state : State) : Except Error Unit :=
  require (state.roles role msg.sender = true) .accessControlUnauthorizedAccount

/-! ### Claim lifecycle -/

def Claim.reserved (claim : Claim) : Nat :=
  if claim.status = .rejected then 0 else claim.amount.toNat

/-- The loop of `_consumedCoverage`, with its checked addition. -/
def consumedCoverage (state : State) (policyId : Nat) : Option Nat :=
  (state.policyClaims policyId).foldlM
    (fun total id =>
      let claim := state.claims id
      if claim.status ≠ .rejected then checkedAdd total claim.amount.toNat else some total) 0

/-- The record `submitClaim` stores, with the source's narrowing casts. -/
def newClaim (claimId policyId : Nat) (merkleRoot : Bytes32) (amount : Nat) (msg : Msg) :
    Claim :=
  { claimId := BitVec.ofNat 128 claimId
    policyId := BitVec.ofNat 128 policyId
    claimant := msg.sender
    amount := BitVec.ofNat 96 amount
    status := .submitted
    submittedAt := BitVec.ofNat 40 msg.timestamp
    processedAt := 0
    merkleRoot := merkleRoot }

def submitClaim (policyId : Nat) (merkleRoot : Bytes32) (amount : Nat)
    (registries : Address → PolicyRegistry) (msg : Msg) (state : State) :
    Except Error (State × List Event) := do
  whenNotPaused state
  require (amount ≤ state.maxPayoutPerClaim) .claimAmountExceedsCap
  require (state.policyRegistry ≠ 0) .policyRegistryNotSet
  let policy ← orRevert .policyRegistryReverted
    ((registries state.policyRegistry).getPolicy policyId)
  require (¬(policy.revoked = true ∨ msg.timestamp < policy.validFrom.toNat ∨
    msg.timestamp > policy.validUntil.toNat)) .policyNotActive
  require (policy.holder = msg.sender) .notPolicyHolder
  let premiumCurrent ← orRevert .policyRegistryReverted
    ((registries state.policyRegistry).isPremiumCurrent policyId)
  require (premiumCurrent = true) .premiumNotCurrent
  let consumedSoFar ← orRevert .arithmeticPanic (consumedCoverage state policyId)
  let consumed ← orRevert .arithmeticPanic (checkedAdd consumedSoFar amount)
  require (consumed ≤ policy.coverageAmount.toNat) .claimExceedsPolicyCoverage
  let next ← orRevert .arithmeticPanic (checkedAdd state.nextClaimId 1)
  return (
    { state with
      nextClaimId := next
      claims := Function.update state.claims state.nextClaimId
        (newClaim state.nextClaimId policyId merkleRoot amount msg)
      policyClaims := Function.update state.policyClaims policyId
        (state.policyClaims policyId ++ [state.nextClaimId]) },
    [.claimSubmitted state.nextClaimId policyId msg.sender merkleRoot amount msg.timestamp])

def setClaimStatus (claimId : Nat) (status : ClaimStatus) (msg : Msg) (state : State) :
    Except Error (State × List Event) := do
  whenNotPaused state
  onlyRole .underwriter msg state
  let claim := state.claims claimId
  require (claim.claimant ≠ 0) .claimNotFound
  return (
    { state with
      claims := Function.update state.claims claimId
        { claim with
          status := status
          processedAt := if status = .approved ∨ status = .rejected
            then BitVec.ofNat 40 msg.timestamp else claim.processedAt } },
    [.claimStatusChanged claimId status])

def oracleDecision (approved : Bool) : ClaimStatus :=
  if approved then .approved else .rejected

def recordOracleVerification (claimId : Nat) (requestId : Bytes32) (approved : Bool)
    (msg : Msg) (state : State) : Except Error (State × List Event) := do
  whenNotPaused state
  onlyRole .oracle msg state
  require (state.usedOracleRequestIds requestId = false) .oracleRequestAlreadyUsed
  let claim := state.claims claimId
  require (claim.claimant ≠ 0) .claimNotFound
  return (
    { state with
      usedOracleRequestIds := Function.update state.usedOracleRequestIds requestId true
      claims := Function.update state.claims claimId
        { claim with
          status := oracleDecision approved
          processedAt := BitVec.ofNat 40 msg.timestamp } },
    [.claimStatusChanged claimId (oracleDecision approved)])

/-- The window is restarted lazily, by the first payout after its end. -/
def openWindow (windowEnd : Nat) (msg : Msg) (state : State) : State :=
  if windowEnd ≤ msg.timestamp
  then { state with windowStart := msg.timestamp, windowTotalPaid := 0 }
  else state

def enforceRateLimit (amount : Nat) (msg : Msg) (state : State) : Except Error State := do
  let windowEnd ← orRevert .arithmeticPanic
    (checkedAdd state.windowStart state.rateLimitWindowSeconds)
  let total ← orRevert .arithmeticPanic
    (checkedAdd (openWindow windowEnd msg state).windowTotalPaid amount)
  require (total ≤ state.maxPayoutPerWindow) .rateLimitWindowExceeded
  return { openWindow windowEnd msg state with windowTotalPaid := total }

def markPaid (claimId : Nat) (msg : Msg) (state : State) : State :=
  { state with
    claims := Function.update state.claims claimId
      { state.claims claimId with
        status := .paid
        processedAt := BitVec.ofNat 40 msg.timestamp } }

/-- The transfer both paying functions end with: the stored amount, from the
registry's own balance to the stored claimant. -/
def payClaimant (self : Address) (claimId : Nat) (state : State) (tokens : Bank Address) :
    Except Error (Bank Address × List (Movement Address)) :=
  (tokens.act state.payoutToken self
    (.transfer (state.claims claimId).claimant (state.claims claimId).amount.toNat)).mapError
    .token

def payoutClaim (self : Address) (claimId : Nat) (msg : Msg) (state : State)
    (tokens : Bank Address) : Except Error ((State × Bank Address) × Receipt Event) := do
  whenNotPaused state
  onlyRole .underwriter msg state
  let claim := state.claims claimId
  require (claim.claimant ≠ 0) .claimNotFound
  require (claim.status = .approved) .claimNotApproved
  let limited ← enforceRateLimit claim.amount.toNat msg state
  let (tokens, movements) ← payClaimant self claimId (markPaid claimId msg limited) tokens
  return ((markPaid claimId msg limited, tokens),
    { events := [.claimPayout claimId claim.claimant claim.amount.toNat state.payoutToken]
      movements := movements })

def releaseStuckPayout (self : Address) (claimId : Nat) (msg : Msg) (state : State)
    (tokens : Bank Address) : Except Error ((State × Bank Address) × Receipt Event) := do
  onlyRole .admin msg state
  let claim := state.claims claimId
  require (claim.claimant ≠ 0) .claimNotFound
  require (claim.status = .approved) .payoutHasNotFailed
  let (tokens, movements) ← payClaimant self claimId (markPaid claimId msg state) tokens
  return ((markPaid claimId msg state, tokens),
    { events := [.stuckPayoutReleased claimId claim.claimant claim.amount.toNat]
      movements := movements })

/-! ### Emergency controls and parameters -/

def pause (msg : Msg) (state : State) : Except Error (State × List Event) := do
  onlyRole .pauser msg state
  whenNotPaused state
  return ({ state with paused := true }, [.paused msg.sender])

def unpause (msg : Msg) (state : State) : Except Error (State × List Event) := do
  onlyRole .admin msg state
  require (state.paused = true) .expectedPause
  return ({ state with paused := false }, [.unpaused msg.sender])

def updateRateLimits (maxPerClaim maxPerWindow windowSeconds : Nat) (msg : Msg)
    (state : State) : Except Error (State × List Event) := do
  onlyRole .admin msg state
  return (
    { state with
      maxPayoutPerClaim := maxPerClaim
      maxPayoutPerWindow := maxPerWindow
      rateLimitWindowSeconds := windowSeconds },
    [.rateLimitsUpdated maxPerClaim maxPerWindow windowSeconds])

def setPolicyRegistry (newPolicyRegistry : Address) (msg : Msg) (state : State) :
    Except Error (State × List Event) := do
  onlyRole .admin msg state
  return ({ state with policyRegistry := newPolicyRegistry },
    [.policyRegistryUpdated newPolicyRegistry])

def rescueForeignToken (self token recipient : Address) (amount : Nat) (msg : Msg) (state : State)
    (tokens : Bank Address) : Except Error ((State × Bank Address) × Receipt Event) := do
  onlyRole .admin msg state
  require (token ≠ state.payoutToken) .cannotRescuePayoutToken
  let (tokens, movements) ← (tokens.act token self (.transfer recipient amount)).mapError .token
  return ((state, tokens),
    { events := [.foreignTokenRescued token recipient amount], movements := movements })

/-- The inherited `grantRole`, `revokeRole` and `renounceRole`. -/
def changeRole (change : Roles.Change Role Address) (msg : Msg) (state : State) :
    Except Error (State × List Event) := do
  let roles ← change.apply .defaultAdmin .accessControlUnauthorizedAccount msg.sender state.roles
  return ({ state with roles := roles }, [.roleChanged change])

end Dics.ClaimRegistry
