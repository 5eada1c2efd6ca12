/-
Calls on the ClaimRegistry, and everything a committed call can have done.

The world of a call is the registry's storage together with the deployed
tokens.  What the contract at a policy-registry address answers is part of the
call, because the registry may be pointed at any contract.  The predicates
below describe the committed calls once; later modules argue from them and
never unfold a contract function.
-/

import Dics.Chain.ClaimRegistry

open Transactions Tokens Words

namespace Dics.ClaimRegistry

structure World where
  registry : State
  tokens : Bank Address

inductive Fn where
  | submitClaim (policyId : Nat) (merkleRoot : Bytes32) (amount : Nat)
  | setClaimStatus (claimId : Nat) (status : ClaimStatus)
  | recordOracleVerification (claimId : Nat) (requestId : Bytes32) (approved : Bool)
  | payoutClaim (claimId : Nat)
  | releaseStuckPayout (claimId : Nat)
  | pause
  | unpause
  | updateRateLimits (maxPerClaim maxPerWindow windowSeconds : Nat)
  | setPolicyRegistry (newPolicyRegistry : Address)
  | rescueForeignToken (token recipient : Address) (amount : Nat)
  | changeRole (change : Roles.Change Role Address)
  deriving DecidableEq

inductive Target where
  | registry (fn : Fn)
  | token (token : Address) (act : Act Address)
  deriving DecidableEq

structure Call where
  msg : Msg
  registries : Address → PolicyRegistry
  target : Target

/-- Functions that touch neither tokens nor the token movements. -/
def World.withState (world : World) (result : Except Error (State × List Event)) :
    Except Error (World × Receipt Event) := do
  let (registry, events) ← result
  return ({ world with registry := registry }, { events := events, movements := [] })

def World.withTokens (result : Except Error ((State × Bank Address) × Receipt Event)) :
    Except Error (World × Receipt Event) := do
  let ((registry, tokens), receipt) ← result
  return ({ registry := registry, tokens := tokens }, receipt)

def callFn (self : Address) (registries : Address → PolicyRegistry) (msg : Msg)
    (world : World) : Fn → Except Error (World × Receipt Event)
  | .submitClaim policyId merkleRoot amount =>
      world.withState (submitClaim policyId merkleRoot amount registries msg world.registry)
  | .setClaimStatus claimId status =>
      world.withState (setClaimStatus claimId status msg world.registry)
  | .recordOracleVerification claimId requestId approved =>
      world.withState (recordOracleVerification claimId requestId approved msg world.registry)
  | .payoutClaim claimId =>
      World.withTokens (payoutClaim self claimId msg world.registry world.tokens)
  | .releaseStuckPayout claimId =>
      World.withTokens (releaseStuckPayout self claimId msg world.registry world.tokens)
  | .pause => world.withState (pause msg world.registry)
  | .unpause => world.withState (unpause msg world.registry)
  | .updateRateLimits maxPerClaim maxPerWindow windowSeconds =>
      world.withState
        (updateRateLimits maxPerClaim maxPerWindow windowSeconds msg world.registry)
  | .setPolicyRegistry newPolicyRegistry =>
      world.withState (setPolicyRegistry newPolicyRegistry msg world.registry)
  | .rescueForeignToken token recipient amount =>
      World.withTokens
        (rescueForeignToken self token recipient amount msg world.registry world.tokens)
  | .changeRole change => world.withState (changeRole change msg world.registry)

/-- Run one transaction.  `self` is the registry's own address. -/
def exec (self : Address) (world : World) (call : Call) :
    Except Error (World × Receipt Event) :=
  match call.target with
  | .registry fn => callFn self call.registries call.msg world fn
  | .token token act => do
      let (tokens, movements) ← (world.tokens.act token call.msg.sender act).mapError .token
      return ({ world with tokens := tokens }, { events := [], movements := movements })

/-! ### What a committed call did -/

def Fn.writes : Fn → Option (Nat × ClaimStatus)
  | .setClaimStatus claimId status => some (claimId, status)
  | .recordOracleVerification claimId _ approved => some (claimId, oracleDecision approved)
  | _ => none

def Fn.pays : Fn → Option Nat
  | .payoutClaim claimId => some claimId
  | .releaseStuckPayout claimId => some claimId
  | _ => none

/-- The bookkeeping that only `submitClaim` touches. -/
structure SameBooks (before after : State) : Prop where
  nextClaimId : after.nextClaimId = before.nextClaimId
  policyClaims : after.policyClaims = before.policyClaims
  payoutToken : after.payoutToken = before.payoutToken

theorem SameBooks.refl (state : State) : SameBooks state state := ⟨rfl, rfl, rfl⟩

/-- A new claim, with the answers the policy registry gave for it. -/
structure Submitted (world : World) (msg : Msg) (registries : Address → PolicyRegistry)
    (policyId : Nat) (merkleRoot : Bytes32) (amount : Nat) (policy : Policy)
    (consumedSoFar : Nat) (next : World) (receipt : Receipt Event) : Prop where
  unpaused : world.registry.paused = false
  withinCap : amount ≤ world.registry.maxPayoutPerClaim
  registrySet : world.registry.policyRegistry ≠ 0
  found : (registries world.registry.policyRegistry).getPolicy policyId = some policy
  notRevoked : policy.revoked = false
  started : policy.validFrom.toNat ≤ msg.timestamp
  running : msg.timestamp ≤ policy.validUntil.toNat
  holder : policy.holder = msg.sender
  premiumCurrent :
    (registries world.registry.policyRegistry).isPremiumCurrent policyId = some true
  consumed : consumedCoverage world.registry policyId = some consumedSoFar
  covered : consumedSoFar + amount ≤ policy.coverageAmount.toNat
  nextClaimId : next.registry.nextClaimId = world.registry.nextClaimId + 1
  claims : next.registry.claims =
    Function.update world.registry.claims world.registry.nextClaimId
      (newClaim world.registry.nextClaimId policyId merkleRoot amount msg)
  policyClaims : next.registry.policyClaims =
    Function.update world.registry.policyClaims policyId
      (world.registry.policyClaims policyId ++ [world.registry.nextClaimId])
  payoutToken : next.registry.payoutToken = world.registry.payoutToken
  policyRegistry : next.registry.policyRegistry = world.registry.policyRegistry
  roles : next.registry.roles = world.registry.roles
  usedOracleRequestIds :
    next.registry.usedOracleRequestIds = world.registry.usedOracleRequestIds
  tokens : next.tokens = world.tokens
  receipt : receipt = ⟨[.claimSubmitted world.registry.nextClaimId policyId msg.sender
    merkleRoot amount msg.timestamp], []⟩

/-- A status written by the underwriter or by the oracle, whatever the status
was before. -/
structure StatusWritten (world : World) (claimId : Nat) (status : ClaimStatus)
    (next : World) (receipt : Receipt Event) : Prop where
  found : (world.registry.claims claimId).claimant ≠ 0
  claims : ∃ processedAt, next.registry.claims =
    Function.update world.registry.claims claimId
      { world.registry.claims claimId with status := status, processedAt := processedAt }
  books : SameBooks world.registry next.registry
  policyRegistry : next.registry.policyRegistry = world.registry.policyRegistry
  roles : next.registry.roles = world.registry.roles
  tokens : next.tokens = world.tokens
  receipt : receipt = ⟨[.claimStatusChanged claimId status], []⟩

/-- The transfer a claim stands for: its stored amount, from the registry `here`
to its stored claimant. -/
def payment (here : Address) (state : State) (claimId : Nat) : Movement Address :=
  { token := state.payoutToken
    sender := here
    recipient := (state.claims claimId).claimant
    amount := (state.claims claimId).amount.toNat }

/-- An approved claim paid in full to its own claimant. -/
structure PaidOut (here : Address) (world : World) (claimId : Nat)
    (next : World) (receipt : Receipt Event) : Prop where
  found : (world.registry.claims claimId).claimant ≠ 0
  approved : (world.registry.claims claimId).status = .approved
  claims : ∃ processedAt, next.registry.claims =
    Function.update world.registry.claims claimId
      { world.registry.claims claimId with status := .paid, processedAt := processedAt }
  books : SameBooks world.registry next.registry
  policyRegistry : next.registry.policyRegistry = world.registry.policyRegistry
  roles : next.registry.roles = world.registry.roles
  usedOracleRequestIds :
    next.registry.usedOracleRequestIds = world.registry.usedOracleRequestIds
  tokens : next.tokens = Function.update world.tokens world.registry.payoutToken
    ((world.tokens world.registry.payoutToken).move here
      (world.registry.claims claimId).claimant (world.registry.claims claimId).amount.toNat)
  movements : receipt.movements = [payment here world.registry claimId]

def Event.concerns : Event → Option Nat
  | .claimSubmitted claimId _ _ _ _ _ => some claimId
  | .claimStatusChanged claimId _ => some claimId
  | .claimPayout claimId _ _ _ => some claimId
  | .stuckPayoutReleased claimId _ _ => some claimId
  | _ => none

/-- A call that leaves every claim and the payout token alone. -/
structure Administered (world next : World) (receipt : Receipt Event) : Prop where
  claims : next.registry.claims = world.registry.claims
  books : SameBooks world.registry next.registry
  usedOracleRequestIds :
    next.registry.usedOracleRequestIds = world.registry.usedOracleRequestIds
  payoutToken :
    next.tokens world.registry.payoutToken = world.tokens world.registry.payoutToken
  allowances : ∀ token, (next.tokens token).allowances = (world.tokens token).allowances
  movements : ∀ movement ∈ receipt.movements, movement.token ≠ world.registry.payoutToken
  events : ∀ event ∈ receipt.events, event.concerns = none

theorem submitClaim_ok {self : Address} {registries : Address → PolicyRegistry} {msg : Msg}
    {world next : World} {receipt : Receipt Event} {policyId amount : Nat}
    {merkleRoot : Bytes32}
    (done : callFn self registries msg world (.submitClaim policyId merkleRoot amount) =
      .ok (next, receipt)) :
    ∃ policy consumedSoFar, Submitted world msg registries policyId merkleRoot amount policy
      consumedSoFar next receipt := by
  obtain ⟨⟨state, events⟩, submitted, same⟩ := bind_eq_ok.mp done
  cases same
  simp only [submitClaim, whenNotPaused, require_bind_eq_ok, orRevert_bind_eq_ok,
    checkedAdd_eq_some, pure_eq_ok, not_or, Bool.not_eq_true, Nat.not_lt, gt_iff_lt] at submitted
  obtain ⟨unpaused, withinCap, registrySet, policy, found, ⟨notRevoked, started, running⟩,
    holder, _, premium, rfl, consumedSoFar, consumed, _, ⟨_, rfl⟩, covered, _, ⟨_, rfl⟩,
    same⟩ := submitted
  cases same
  exact ⟨policy, consumedSoFar,
    { unpaused, withinCap, registrySet, found, notRevoked, started, running, holder,
      premiumCurrent := premium, consumed, covered, nextClaimId := rfl, claims := rfl,
      policyClaims := rfl, payoutToken := rfl, policyRegistry := rfl, roles := rfl,
      usedOracleRequestIds := rfl, tokens := rfl, receipt := rfl }⟩

theorem setClaimStatus_ok {self : Address} {registries : Address → PolicyRegistry} {msg : Msg}
    {world next : World} {receipt : Receipt Event} {claimId : Nat} {status : ClaimStatus}
    (done : callFn self registries msg world (.setClaimStatus claimId status) =
      .ok (next, receipt)) :
    StatusWritten world claimId status next receipt ∧
      world.registry.roles .underwriter msg.sender = true ∧
      next.registry.usedOracleRequestIds = world.registry.usedOracleRequestIds := by
  obtain ⟨⟨state, events⟩, written, same⟩ := bind_eq_ok.mp done
  cases same
  simp only [setClaimStatus, whenNotPaused, onlyRole, require_bind_eq_ok, pure_eq_ok] at written
  obtain ⟨_, role, found, same⟩ := written
  cases same
  exact ⟨⟨found, ⟨_, rfl⟩, ⟨rfl, rfl, rfl⟩, rfl, rfl, rfl, rfl⟩, role, rfl⟩

theorem recordOracleVerification_ok {self : Address} {registries : Address → PolicyRegistry}
    {msg : Msg} {world next : World} {receipt : Receipt Event} {claimId : Nat}
    {requestId : Bytes32} {approved : Bool}
    (done : callFn self registries msg world
      (.recordOracleVerification claimId requestId approved) = .ok (next, receipt)) :
    StatusWritten world claimId (oracleDecision approved) next receipt ∧
      world.registry.roles .oracle msg.sender = true ∧
      world.registry.usedOracleRequestIds requestId = false ∧
      next.registry.usedOracleRequestIds =
        Function.update world.registry.usedOracleRequestIds requestId true := by
  obtain ⟨⟨state, events⟩, written, same⟩ := bind_eq_ok.mp done
  cases same
  simp only [recordOracleVerification, whenNotPaused, onlyRole, require_bind_eq_ok,
    pure_eq_ok] at written
  obtain ⟨_, role, unused, found, same⟩ := written
  cases same
  exact ⟨⟨found, ⟨_, rfl⟩, ⟨rfl, rfl, rfl⟩, rfl, rfl, rfl, rfl⟩, role, unused, rfl⟩

theorem enforceRateLimit_ok {amount : Nat} {msg : Msg} {state limited : State}
    (done : enforceRateLimit amount msg state = .ok limited) :
    ∃ windowStart windowTotalPaid,
      limited = { state with windowStart, windowTotalPaid } := by
  simp only [enforceRateLimit, orRevert_bind_eq_ok, require_bind_eq_ok, pure_eq_ok] at done
  obtain ⟨_, _, _, _, _, rfl⟩ := done
  unfold openWindow
  split
  · exact ⟨_, _, rfl⟩
  · exact ⟨_, _, rfl⟩

theorem payClaimant_ok {self : Address} {claimId : Nat} {state : State}
    {tokens paid : Bank Address} {movements : List (Movement Address)}
    (done : payClaimant self claimId state tokens = .ok (paid, movements)) :
    paid = Function.update tokens state.payoutToken
        ((tokens state.payoutToken).move self (state.claims claimId).claimant
          (state.claims claimId).amount.toNat) ∧
      movements = [⟨state.payoutToken, self, (state.claims claimId).claimant,
        (state.claims claimId).amount.toNat⟩] := by
  obtain ⟨_, rfl, rfl⟩ := act_transfer_eq_ok (mapError_eq_ok.mp done)
  exact ⟨rfl, rfl⟩

theorem payoutClaim_ok {self : Address} {registries : Address → PolicyRegistry} {msg : Msg}
    {world next : World} {receipt : Receipt Event} {claimId : Nat}
    (done : callFn self registries msg world (.payoutClaim claimId) = .ok (next, receipt)) :
    PaidOut self world claimId next receipt ∧
      receipt.events = [.claimPayout claimId (world.registry.claims claimId).claimant
        (world.registry.claims claimId).amount.toNat world.registry.payoutToken] := by
  obtain ⟨⟨⟨state, tokens⟩, paid⟩, payout, same⟩ := bind_eq_ok.mp done
  cases same
  simp only [payoutClaim, whenNotPaused, onlyRole, require_bind_eq_ok] at payout
  obtain ⟨_, _, found, approved, limiting⟩ := payout
  obtain ⟨limited, limit, transferring⟩ := bind_eq_ok.mp limiting
  obtain ⟨⟨_, _⟩, transferred, same⟩ := bind_eq_ok.mp transferring
  cases same
  obtain ⟨windowStart, windowTotalPaid, rfl⟩ := enforceRateLimit_ok limit
  obtain ⟨rfl, rfl⟩ := payClaimant_ok transferred
  refine ⟨⟨found, approved, ⟨_, rfl⟩, ⟨rfl, rfl, rfl⟩, rfl, rfl, rfl, ?_, ?_⟩, rfl⟩
  · simp only [markPaid, Function.update_self]
  · simp only [markPaid, payment, Function.update_self]

theorem releaseStuckPayout_ok {self : Address} {registries : Address → PolicyRegistry}
    {msg : Msg} {world next : World} {receipt : Receipt Event} {claimId : Nat}
    (done : callFn self registries msg world (.releaseStuckPayout claimId) =
      .ok (next, receipt)) :
    PaidOut self world claimId next receipt ∧
      receipt.events = [.stuckPayoutReleased claimId (world.registry.claims claimId).claimant
        (world.registry.claims claimId).amount.toNat] := by
  obtain ⟨⟨⟨state, tokens⟩, paid⟩, payout, same⟩ := bind_eq_ok.mp done
  cases same
  simp only [releaseStuckPayout, onlyRole, require_bind_eq_ok] at payout
  obtain ⟨_, found, approved, transferring⟩ := payout
  obtain ⟨⟨_, _⟩, transferred, same⟩ := bind_eq_ok.mp transferring
  cases same
  obtain ⟨rfl, rfl⟩ := payClaimant_ok transferred
  refine ⟨⟨found, approved, ⟨_, rfl⟩, ⟨rfl, rfl, rfl⟩, rfl, rfl, rfl, ?_, ?_⟩, rfl⟩
  · simp only [markPaid, Function.update_self]
  · simp only [markPaid, payment, Function.update_self]

/-- A role is new to an account only after a grant. -/
def GrantsNewRoles (fn : Fn) (before after : State) : Prop :=
  ∀ role account, after.roles role account = true →
    before.roles role account = true ∨ fn = .changeRole (.grantRole role account)

/-- The functions that touch no claim. -/
def Fn.administrative : Fn → Bool
  | .pause => true
  | .unpause => true
  | .updateRateLimits _ _ _ => true
  | .setPolicyRegistry _ => true
  | .rescueForeignToken _ _ _ => true
  | .changeRole _ => true
  | _ => false

/-- A call that changed some of the storage outside the claims and the roles, and
emitted one event about no claim. -/
private theorem administered_of_state {world next : World} {receipt : Receipt Event}
    {state : State} {event : Event} {fn : Fn}
    (same : ((⟨state, world.tokens⟩ : World), (⟨[event], []⟩ : Receipt Event)) =
      (next, receipt))
    (claims : state.claims = world.registry.claims) (books : SameBooks world.registry state)
    (used : state.usedOracleRequestIds = world.registry.usedOracleRequestIds)
    (roles : GrantsNewRoles fn world.registry state) (quiet : event.concerns = none) :
    Administered world next receipt ∧ GrantsNewRoles fn world.registry next.registry := by
  cases same
  refine ⟨⟨claims, books, used, rfl, fun _ => rfl, ?_, ?_⟩, roles⟩
  · intro movement member
    cases member
  · intro other member
    rw [List.mem_singleton.mp member]
    exact quiet

theorem administrative_ok {self : Address} {registries : Address → PolicyRegistry} {msg : Msg}
    {world next : World} {receipt : Receipt Event} {fn : Fn}
    (done : callFn self registries msg world fn = .ok (next, receipt))
    (administrative : fn.administrative = true) :
    Administered world next receipt ∧ GrantsNewRoles fn world.registry next.registry := by
  have unchanged : ∀ state : State, state.roles = world.registry.roles →
      GrantsNewRoles fn world.registry state := by
    intro state same role account held
    rw [same] at held
    exact Or.inl held
  cases fn with
  | pause =>
      simp only [callFn, World.withState, pause, onlyRole, whenNotPaused, bind_assoc,
        require_bind_eq_ok, pure_bind, pure_eq_ok] at done
      exact administered_of_state done.2.2 rfl ⟨rfl, rfl, rfl⟩ rfl (unchanged _ rfl) rfl
  | unpause =>
      simp only [callFn, World.withState, unpause, onlyRole, bind_assoc,
        require_bind_eq_ok, pure_bind, pure_eq_ok] at done
      exact administered_of_state done.2.2 rfl ⟨rfl, rfl, rfl⟩ rfl (unchanged _ rfl) rfl
  | updateRateLimits maxPerClaim maxPerWindow windowSeconds =>
      simp only [callFn, World.withState, updateRateLimits, onlyRole, bind_assoc,
        require_bind_eq_ok, pure_bind, pure_eq_ok] at done
      exact administered_of_state done.2 rfl ⟨rfl, rfl, rfl⟩ rfl (unchanged _ rfl) rfl
  | setPolicyRegistry newPolicyRegistry =>
      simp only [callFn, World.withState, setPolicyRegistry, onlyRole, bind_assoc,
        require_bind_eq_ok, pure_bind, pure_eq_ok] at done
      exact administered_of_state done.2 rfl ⟨rfl, rfl, rfl⟩ rfl (unchanged _ rfl) rfl
  | rescueForeignToken token recipient amount =>
      obtain ⟨⟨⟨state, tokens⟩, _⟩, rescue, same⟩ := bind_eq_ok.mp done
      cases same
      simp only [rescueForeignToken, onlyRole, require_bind_eq_ok] at rescue
      obtain ⟨_, foreign, transferring⟩ := rescue
      obtain ⟨⟨_, _⟩, transferred, same⟩ := bind_eq_ok.mp transferring
      cases same
      obtain ⟨_, rfl, rfl⟩ := act_transfer_eq_ok (mapError_eq_ok.mp transferred)
      refine ⟨⟨rfl, SameBooks.refl _, rfl, ?_, ?_, ?_, ?_⟩, unchanged _ rfl⟩
      · exact Function.update_of_ne foreign.symm _ _
      · intro other
        exact update_move_allowances _ _ _ _ _ _
      · intro movement member
        rw [List.mem_singleton.mp member]
        exact foreign
      · intro event member
        rw [List.mem_singleton.mp member]
        rfl
  | changeRole change =>
      obtain ⟨⟨state, events⟩, changing, same⟩ := bind_eq_ok.mp done
      obtain ⟨roles, changed, assigned⟩ := bind_eq_ok.mp changing
      cases assigned
      refine administered_of_state (Except.ok.inj same) rfl ⟨rfl, rfl, rfl⟩ rfl ?_ rfl
      intro role account held
      rcases Roles.Change.apply_holds changed held with before | granted
      · exact Or.inl before
      · rw [granted]
        exact Or.inr rfl
  | _ => cases administrative

/-- Every committed function call is a submission, a status write, a payout, or
leaves all claims alone. -/
theorem callFn_cases {self : Address} {registries : Address → PolicyRegistry} {msg : Msg}
    {world next : World} {receipt : Receipt Event} {fn : Fn}
    (done : callFn self registries msg world fn = .ok (next, receipt)) :
    (∃ policyId merkleRoot amount policy consumedSoFar,
      fn = .submitClaim policyId merkleRoot amount ∧
        Submitted world msg registries policyId merkleRoot amount policy consumedSoFar
          next receipt) ∨
    (∃ claimId status, fn.writes = some (claimId, status) ∧
      StatusWritten world claimId status next receipt) ∨
    (∃ claimId, fn.pays = some claimId ∧ PaidOut self world claimId next receipt) ∨
    (fn.writes = none ∧ fn.pays = none ∧ Administered world next receipt) := by
  cases fn with
  | submitClaim policyId merkleRoot amount =>
      obtain ⟨policy, consumedSoFar, submitted⟩ := submitClaim_ok done
      exact Or.inl ⟨policyId, merkleRoot, amount, policy, consumedSoFar, rfl, submitted⟩
  | setClaimStatus claimId status =>
      exact Or.inr (Or.inl ⟨claimId, status, rfl, (setClaimStatus_ok done).1⟩)
  | recordOracleVerification claimId requestId approved =>
      exact Or.inr (Or.inl ⟨claimId, oracleDecision approved, rfl,
        (recordOracleVerification_ok done).1⟩)
  | payoutClaim claimId =>
      exact Or.inr (Or.inr (Or.inl ⟨claimId, rfl, (payoutClaim_ok done).1⟩))
  | releaseStuckPayout claimId =>
      exact Or.inr (Or.inr (Or.inl ⟨claimId, rfl, (releaseStuckPayout_ok done).1⟩))
  | _ => exact Or.inr (Or.inr (Or.inr ⟨rfl, rfl, (administrative_ok done rfl).1⟩))

theorem callFn_allowances {self : Address} {registries : Address → PolicyRegistry} {msg : Msg}
    {world next : World} {receipt : Receipt Event} {fn : Fn}
    (done : callFn self registries msg world fn = .ok (next, receipt)) (token : Address) :
    (next.tokens token).allowances = (world.tokens token).allowances := by
  rcases callFn_cases done with
    ⟨_, _, _, _, _, _, submitted⟩ | ⟨_, _, _, written⟩ | ⟨claimId, _, paid⟩ |
    ⟨_, _, administered⟩
  · rw [submitted.tokens]
  · rw [written.tokens]
  · rw [paid.tokens]
    exact update_move_allowances _ _ _ _ _ _
  · exact administered.allowances token

theorem callFn_holds {self : Address} {registries : Address → PolicyRegistry} {msg : Msg}
    {world next : World} {receipt : Receipt Event} {fn : Fn}
    (done : callFn self registries msg world fn = .ok (next, receipt)) :
    GrantsNewRoles fn world.registry next.registry := by
  intro role account held
  cases fn with
  | submitClaim policyId merkleRoot amount =>
      obtain ⟨_, _, submitted⟩ := submitClaim_ok done
      rw [submitted.roles] at held
      exact Or.inl held
  | setClaimStatus claimId status =>
      rw [(setClaimStatus_ok done).1.roles] at held
      exact Or.inl held
  | recordOracleVerification claimId requestId approved =>
      rw [(recordOracleVerification_ok done).1.roles] at held
      exact Or.inl held
  | payoutClaim claimId =>
      rw [(payoutClaim_ok done).1.roles] at held
      exact Or.inl held
  | releaseStuckPayout claimId =>
      rw [(releaseStuckPayout_ok done).1.roles] at held
      exact Or.inl held
  | _ => exact (administrative_ok done rfl).2 role account held

theorem callFn_usedOracleRequestIds {self : Address} {registries : Address → PolicyRegistry}
    {msg : Msg} {world next : World} {receipt : Receipt Event} {fn : Fn}
    (done : callFn self registries msg world fn = .ok (next, receipt)) :
    next.registry.usedOracleRequestIds = world.registry.usedOracleRequestIds ∨
      ∃ claimId requestId approved,
        fn = .recordOracleVerification claimId requestId approved ∧
          world.registry.roles .oracle msg.sender = true := by
  rcases callFn_cases done with
    ⟨_, _, _, _, _, _, submitted⟩ | ⟨claimId, status, writes, _⟩ | ⟨_, _, paid⟩ |
    ⟨_, _, administered⟩
  · exact Or.inl submitted.usedOracleRequestIds
  · cases fn with
    | setClaimStatus claimId status => exact Or.inl (setClaimStatus_ok done).2.2
    | recordOracleVerification claimId requestId approved =>
        exact Or.inr ⟨claimId, requestId, approved, rfl,
          (recordOracleVerification_ok done).2.1⟩
    | _ => cases writes
  · exact Or.inl paid.usedOracleRequestIds
  · exact Or.inl administered.usedOracleRequestIds

end Dics.ClaimRegistry
