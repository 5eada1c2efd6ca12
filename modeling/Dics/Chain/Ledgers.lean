/-
What the event logs of the contracts tell.

Each contract has a view that a reader can keep from its events alone.  The
registry's log tells every claim but the time of its last decision; the policy
contract's log tells every policy, its terms and payments and the catalogue but
for the metadata of a template; the Vault's log tells all positions.
-/

import Dics.Chain.Cdp
import Dics.Chain.PolicyRuns
import Dics.Chain.RegistryRuns
import Dics.Lib.EventLogs

open Transactions Tokens Words EventLogs

namespace Dics.ClaimRegistry

/-- The claims with their statuses, the lists they are filed in, and the
settings of the contract. -/
structure Ledger where
  paused : Bool
  nextClaimId : Nat
  claims : Nat → Claim
  policyClaims : Nat → List Nat
  policyRegistry : Address
  maxPayoutPerClaim : Nat
  maxPayoutPerWindow : Nat
  rateLimitWindowSeconds : Nat

/-- No event carries the time of a decision. -/
def Claim.undated (claim : Claim) : Claim := { claim with processedAt := 0 }

def State.ledger (state : State) : Ledger :=
  { paused := state.paused
    nextClaimId := state.nextClaimId
    claims := fun id => (state.claims id).undated
    policyClaims := state.policyClaims
    policyRegistry := state.policyRegistry
    maxPayoutPerClaim := state.maxPayoutPerClaim
    maxPayoutPerWindow := state.maxPayoutPerWindow
    rateLimitWindowSeconds := state.rateLimitWindowSeconds }

def Ledger.setStatus (ledger : Ledger) (claimId : Nat) (status : ClaimStatus) : Ledger :=
  { ledger with
    claims := Function.update ledger.claims claimId
      { ledger.claims claimId with status := status } }

def Ledger.read (ledger : Ledger) : Event → Ledger
  | .claimSubmitted claimId policyId claimant merkleRoot amount timestamp =>
      { ledger with
        nextClaimId := claimId + 1
        claims := Function.update ledger.claims claimId
          (newClaim claimId policyId merkleRoot amount
            { sender := claimant, timestamp := timestamp })
        policyClaims := Function.update ledger.policyClaims policyId
          (ledger.policyClaims policyId ++ [claimId]) }
  | .claimStatusChanged claimId status => ledger.setStatus claimId status
  | .claimPayout claimId _ _ _ => ledger.setStatus claimId .paid
  | .stuckPayoutReleased claimId _ _ => ledger.setStatus claimId .paid
  | .rateLimitsUpdated maxPerClaim maxPerWindow windowSeconds =>
      { ledger with
        maxPayoutPerClaim := maxPerClaim
        maxPayoutPerWindow := maxPerWindow
        rateLimitWindowSeconds := windowSeconds }
  | .policyRegistryUpdated newPolicyRegistry =>
      { ledger with policyRegistry := newPolicyRegistry }
  | .paused _ => { ledger with paused := true }
  | .unpaused _ => { ledger with paused := false }
  | .foreignTokenRescued _ _ _ => ledger
  | .roleChanged _ => ledger

theorem undated_update (claims : Nat → Claim) (claimId : Nat) (claim : Claim) :
    (fun id => (Function.update claims claimId claim id).undated) =
      Function.update (fun id => (claims id).undated) claimId claim.undated := by
  funext id
  by_cases same : id = claimId
  · subst same
    rw [Function.update_self, Function.update_self]
  · rw [Function.update_of_ne same, Function.update_of_ne same]

/-- A status written together with a decision time, as a reader sees it. -/
theorem ledger_setStatus (state : State) (claimId : Nat) (status : ClaimStatus)
    (processedAt : BitVec 40) :
    State.ledger
        { state with
          claims := Function.update state.claims claimId
            { state.claims claimId with status := status, processedAt := processedAt } } =
      state.ledger.setStatus claimId status := by
  unfold State.ledger Ledger.setStatus
  dsimp only
  rw [undated_update]
  rfl

theorem markPaid_ledger (claimId : Nat) (msg : Msg) (state : State) :
    (markPaid claimId msg state).ledger = state.ledger.setStatus claimId .paid :=
  ledger_setStatus state claimId .paid _

theorem enforceRateLimit_ledger {amount : Nat} {msg : Msg} {state limited : State}
    (done : enforceRateLimit amount msg state = .ok limited) :
    limited.ledger = state.ledger := by
  obtain ⟨windowStart, windowTotalPaid, rfl⟩ := enforceRateLimit_ok done
  rfl

theorem callFn_tells {self : Address} {registries : Address → PolicyRegistry} {msg : Msg}
    {world next : World} {receipt : Receipt Event} {fn : Fn}
    (done : callFn self registries msg world fn = .ok (next, receipt)) :
    replay Ledger.read world.registry.ledger receipt.events = next.registry.ledger := by
  cases fn with
  | submitClaim policyId merkleRoot amount =>
      obtain ⟨⟨state, events⟩, submitted, same⟩ := bind_eq_ok.mp done
      cases same
      simp only [submitClaim, whenNotPaused, require_bind_eq_ok, orRevert_bind_eq_ok,
        checkedAdd_eq_some, pure_eq_ok] at submitted
      obtain ⟨_, _, _, _, _, _, _, _, _, _, _, _, _, _, _, _, ⟨_, rfl⟩, same⟩ := submitted
      cases same
      unfold State.ledger
      dsimp only
      rw [undated_update]
      rfl
  | setClaimStatus claimId status =>
      obtain ⟨⟨state, events⟩, written, same⟩ := bind_eq_ok.mp done
      cases same
      simp only [setClaimStatus, whenNotPaused, onlyRole, require_bind_eq_ok,
        pure_eq_ok] at written
      obtain ⟨_, _, _, same⟩ := written
      cases same
      exact (ledger_setStatus world.registry claimId status _).symm
  | recordOracleVerification claimId requestId approved =>
      obtain ⟨⟨state, events⟩, written, same⟩ := bind_eq_ok.mp done
      cases same
      simp only [recordOracleVerification, whenNotPaused, onlyRole, require_bind_eq_ok,
        pure_eq_ok] at written
      obtain ⟨_, _, _, _, same⟩ := written
      cases same
      exact (ledger_setStatus world.registry claimId (oracleDecision approved) _).symm
  | payoutClaim claimId =>
      obtain ⟨⟨⟨state, tokens⟩, paid⟩, payout, same⟩ := bind_eq_ok.mp done
      cases same
      simp only [payoutClaim, whenNotPaused, onlyRole, require_bind_eq_ok] at payout
      obtain ⟨_, _, _, _, limiting⟩ := payout
      obtain ⟨limited, limit, transferring⟩ := bind_eq_ok.mp limiting
      obtain ⟨⟨_, _⟩, _, same⟩ := bind_eq_ok.mp transferring
      cases same
      rw [markPaid_ledger, enforceRateLimit_ledger limit]
      rfl
  | releaseStuckPayout claimId =>
      obtain ⟨⟨⟨state, tokens⟩, paid⟩, payout, same⟩ := bind_eq_ok.mp done
      cases same
      simp only [releaseStuckPayout, onlyRole, require_bind_eq_ok] at payout
      obtain ⟨_, _, _, transferring⟩ := payout
      obtain ⟨⟨_, _⟩, _, same⟩ := bind_eq_ok.mp transferring
      cases same
      rw [markPaid_ledger]
      rfl
  | pause =>
      simp only [callFn, World.withState, pause, onlyRole, whenNotPaused, bind_assoc,
        require_bind_eq_ok, pure_bind, pure_eq_ok] at done
      obtain ⟨_, _, same⟩ := done
      cases same
      rfl
  | unpause =>
      simp only [callFn, World.withState, unpause, onlyRole, bind_assoc,
        require_bind_eq_ok, pure_bind, pure_eq_ok] at done
      obtain ⟨_, _, same⟩ := done
      cases same
      rfl
  | updateRateLimits maxPerClaim maxPerWindow windowSeconds =>
      simp only [callFn, World.withState, updateRateLimits, onlyRole, bind_assoc,
        require_bind_eq_ok, pure_bind, pure_eq_ok] at done
      obtain ⟨_, same⟩ := done
      cases same
      rfl
  | setPolicyRegistry newPolicyRegistry =>
      simp only [callFn, World.withState, setPolicyRegistry, onlyRole, bind_assoc,
        require_bind_eq_ok, pure_bind, pure_eq_ok] at done
      obtain ⟨_, same⟩ := done
      cases same
      rfl
  | rescueForeignToken token recipient amount =>
      obtain ⟨⟨⟨state, tokens⟩, _⟩, rescue, same⟩ := bind_eq_ok.mp done
      cases same
      simp only [rescueForeignToken, onlyRole, require_bind_eq_ok] at rescue
      obtain ⟨_, _, transferring⟩ := rescue
      obtain ⟨⟨_, _⟩, _, same⟩ := bind_eq_ok.mp transferring
      cases same
      rfl
  | changeRole change =>
      simp only [callFn, World.withState, changeRole, bind_assoc] at done
      obtain ⟨roles, _, same⟩ := bind_eq_ok.mp done
      cases same
      rfl

theorem exec_tells (self : Address) :
    Tells (exec self) Receipt.events (fun world => world.registry.ledger) Ledger.read := by
  intro world call next receipt done
  unfold exec at done
  cases target : call.target with
  | registry fn =>
      rw [target] at done
      exact callFn_tells done
  | token token act =>
      rw [target] at done
      obtain ⟨⟨_, _⟩, _, same⟩ := bind_eq_ok.mp done
      cases same
      rfl

/-- Whatever was called, reading the registry's log from the beginning gives
the registry's ledger. -/
theorem log_tells_claims (deployment : Deployment) (calls : List Call) :
    replay Ledger.read deployment.start.registry.ledger
        (log Receipt.events (deployment.history calls)) =
      (deployment.run calls).registry.ledger :=
  (exec_tells deployment.self).replay_run deployment.start calls

end Dics.ClaimRegistry

namespace Dics.InsurancePolicy

/-- The storage of the contract without its roles. -/
structure Ledger where
  paused : Bool
  policies : Nat → Policy
  policyExists : Nat → Bool
  premiumToken : Address
  premiumTreasury : Address
  premiumGracePeriodSeconds : Nat
  premiumTerms : Nat → PremiumTerms
  premiumPaidUntil : Nat → Nat
  policyTemplates : Nat → PolicyTemplate
  nextPolicyId : Nat

/-- `PolicyTemplateAdded` leaves the metadata out. -/
def PolicyTemplate.undescribed (template : PolicyTemplate) : PolicyTemplate :=
  { template with metadataHash := 0 }

def State.ledger (state : State) : Ledger :=
  { paused := state.paused
    policies := state.policies
    policyExists := state.policyExists
    premiumToken := state.premiumToken
    premiumTreasury := state.premiumTreasury
    premiumGracePeriodSeconds := state.premiumGracePeriodSeconds
    premiumTerms := state.premiumTerms
    premiumPaidUntil := state.premiumPaidUntil
    policyTemplates := fun id => (state.policyTemplates id).undescribed
    nextPolicyId := state.nextPolicyId }

/-- The terms of a subscription are not in its events; a reader finds them in
the template. -/
def Ledger.read (ledger : Ledger) : Event → Ledger
  | .policyRegistered policyId holder validFrom validUntil coverageAmount metadataHash =>
      { ledger with
        policies := Function.update ledger.policies policyId
          (Issue.policy ⟨policyId, holder, validFrom, validUntil, coverageAmount, metadataHash⟩)
        policyExists := Function.update ledger.policyExists policyId true }
  | .policyRevoked policyId =>
      { ledger with
        policies := Function.update ledger.policies policyId
          { ledger.policies policyId with revoked := true } }
  | .policyCoverageUpdated policyId newCoverageAmount =>
      { ledger with
        policies := Function.update ledger.policies policyId
          { ledger.policies policyId with
            coverageAmount := BitVec.ofNat 128 newCoverageAmount } }
  | .premiumConfigUpdated token treasury gracePeriodSeconds =>
      { ledger with
        premiumToken := token
        premiumTreasury := treasury
        premiumGracePeriodSeconds := gracePeriodSeconds }
  | .premiumTermsSet policyId amountPerPeriod periodSeconds =>
      { ledger with
        premiumTerms := Function.update ledger.premiumTerms policyId
          { amountPerPeriod := BitVec.ofNat 128 amountPerPeriod
            periodSeconds := BitVec.ofNat 40 periodSeconds } }
  | .premiumPaid policyId _ _ paidUntil =>
      { ledger with
        premiumPaidUntil := Function.update ledger.premiumPaidUntil policyId paidUntil }
  | .policyTemplateAdded templateId coverageAmount premiumAmountPerPeriod periodSeconds
      termSeconds =>
      { ledger with
        policyTemplates := Function.update ledger.policyTemplates templateId
          { coverageAmount := BitVec.ofNat 128 coverageAmount
            premiumAmountPerPeriod := BitVec.ofNat 128 premiumAmountPerPeriod
            periodSeconds := BitVec.ofNat 40 periodSeconds
            termSeconds := BitVec.ofNat 40 termSeconds
            active := true
            metadataHash := 0 } }
  | .policyTemplateStatusChanged templateId active =>
      { ledger with
        policyTemplates := Function.update ledger.policyTemplates templateId
          { ledger.policyTemplates templateId with active := active } }
  | .policySubscribed policyId templateId _ _ =>
      { ledger with
        nextPolicyId := policyId + 1
        premiumTerms := Function.update ledger.premiumTerms policyId
          { amountPerPeriod := (ledger.policyTemplates templateId).premiumAmountPerPeriod
            periodSeconds := (ledger.policyTemplates templateId).periodSeconds } }
  | .paused _ => { ledger with paused := true }
  | .unpaused _ => { ledger with paused := false }
  | .roleChanged _ => ledger

theorem undescribed_update (templates : Nat → PolicyTemplate) (templateId : Nat)
    (template : PolicyTemplate) :
    (fun id => (Function.update templates templateId template id).undescribed) =
      Function.update (fun id => (templates id).undescribed) templateId
        template.undescribed := by
  funext id
  by_cases same : id = templateId
  · subst same
    rw [Function.update_self, Function.update_self]
  · rw [Function.update_of_ne same, Function.update_of_ne same]

theorem collectPremium_tells {self payer : Address} {policyId : Nat} {msg : Msg}
    {state after : State} {tokens paid : Bank Address} {receipt : Receipt Event}
    (done : collectPremium self policyId payer msg state tokens = .ok ((after, paid), receipt)) :
    replay Ledger.read state.ledger receipt.events = after.ledger := by
  simp only [collectPremium, require_bind_eq_ok, orRevert_bind_eq_ok] at done
  obtain ⟨_, _, newPaidUntil, _, collecting⟩ := done
  obtain ⟨⟨_, _⟩, _, same⟩ := bind_eq_ok.mp collecting
  cases same
  rfl

theorem callFn_tells {self : Address} {msg : Msg} {world next : World} {receipt : Receipt Event}
    {fn : Fn} (done : callFn self msg world fn = .ok (next, receipt)) :
    replay Ledger.read world.policy.ledger receipt.events = next.policy.ledger := by
  cases fn with
  | subscribeToPolicy templateId =>
      obtain ⟨⟨⟨state, tokens⟩, paid⟩, subscribing, same⟩ := bind_eq_ok.mp done
      cases same
      simp only [subscribeToPolicy, whenNotPaused, require_bind_eq_ok, orRevert_bind_eq_ok,
        checkedAdd_eq_some] at subscribing
      obtain ⟨_, _, _, policyId, _, _, ⟨_, rfl⟩, validUntil, _, collecting⟩ := subscribing
      obtain ⟨⟨⟨_, _⟩, collected⟩, collect, same⟩ := bind_eq_ok.mp collecting
      cases same
      rw [← collectPremium_tells collect]
      unfold replay
      rw [List.foldl_cons, List.foldl_cons]
      congr 1
      simp only [Ledger.read, State.ledger, Issue.policy, PolicyTemplate.undescribed,
        BitVec.ofNat_toNat, BitVec.setWidth_eq]
  | payPremium policyId =>
      obtain ⟨⟨⟨state, tokens⟩, paid⟩, paying, same⟩ := bind_eq_ok.mp done
      cases same
      simp only [payPremium, whenNotPaused, require_bind_eq_ok] at paying
      exact collectPremium_tells paying.2.2.2
  | registerPolicy policyId holder validFrom validUntil coverageAmount metadataHash =>
      simp only [callFn, World.withState, registerPolicy, whenNotPaused, onlyRole, bind_assoc,
        require_bind_eq_ok, pure_bind, pure_eq_ok] at done
      obtain ⟨_, _, _, _, _, same⟩ := done
      cases same
      rfl
  | revokePolicy policyId =>
      simp only [callFn, World.withState, revokePolicy, whenNotPaused, onlyRole, bind_assoc,
        require_bind_eq_ok, pure_bind, pure_eq_ok] at done
      obtain ⟨_, _, _, same⟩ := done
      cases same
      rfl
  | updateCoverage policyId newCoverageAmount =>
      simp only [callFn, World.withState, updateCoverage, whenNotPaused, onlyRole, bind_assoc,
        require_bind_eq_ok, pure_bind, pure_eq_ok] at done
      obtain ⟨_, _, _, same⟩ := done
      cases same
      rfl
  | setPremiumTerms policyId amountPerPeriod periodSeconds =>
      simp only [callFn, World.withState, setPremiumTerms, onlyRole, bind_assoc,
        require_bind_eq_ok, pure_bind, pure_eq_ok] at done
      obtain ⟨_, _, same⟩ := done
      cases same
      rfl
  | setPremiumConfig token treasury gracePeriodSeconds =>
      simp only [callFn, World.withState, setPremiumConfig, onlyRole, bind_assoc,
        require_bind_eq_ok, pure_bind, pure_eq_ok] at done
      obtain ⟨_, same⟩ := done
      cases same
      rfl
  | addPolicyTemplate templateId coverageAmount premiumAmountPerPeriod periodSeconds termSeconds
      metadataHash =>
      simp only [callFn, World.withState, addPolicyTemplate, whenNotPaused, onlyRole, bind_assoc,
        require_bind_eq_ok, pure_bind, pure_eq_ok] at done
      obtain ⟨_, _, same⟩ := done
      cases same
      unfold State.ledger
      dsimp only
      rw [undescribed_update]
      rfl
  | setPolicyTemplateActive templateId active =>
      simp only [callFn, World.withState, setPolicyTemplateActive, onlyRole, bind_assoc,
        require_bind_eq_ok, pure_bind, pure_eq_ok] at done
      obtain ⟨_, _, same⟩ := done
      cases same
      unfold State.ledger
      dsimp only
      rw [undescribed_update]
      rfl
  | pause =>
      simp only [callFn, World.withState, pause, onlyRole, whenNotPaused, bind_assoc,
        require_bind_eq_ok, pure_bind, pure_eq_ok] at done
      obtain ⟨_, _, same⟩ := done
      cases same
      rfl
  | unpause =>
      simp only [callFn, World.withState, unpause, onlyRole, bind_assoc,
        require_bind_eq_ok, pure_bind, pure_eq_ok] at done
      obtain ⟨_, _, same⟩ := done
      cases same
      rfl
  | changeRole change =>
      simp only [callFn, World.withState, changeRole, bind_assoc] at done
      obtain ⟨roles, _, same⟩ := bind_eq_ok.mp done
      cases same
      rfl

theorem exec_tells (self : Address) :
    Tells (exec self) Receipt.events (fun world => world.policy.ledger) Ledger.read := by
  intro world call next receipt done
  unfold exec at done
  cases target : call.target with
  | policy fn =>
      rw [target] at done
      exact callFn_tells done
  | token token act =>
      rw [target] at done
      obtain ⟨⟨_, _⟩, _, same⟩ := bind_eq_ok.mp done
      cases same
      rfl

theorem log_tells_policies (deployment : Deployment) (calls : List Call) :
    replay Ledger.read deployment.start.policy.ledger
        (log Receipt.events (deployment.history calls)) =
      (deployment.run calls).policy.ledger :=
  (exec_tells deployment.self).replay_run deployment.start calls

end Dics.InsurancePolicy

namespace Dics.Vault

/-- The positions and the settings of the Vault. -/
structure Ledger where
  paused : Bool
  stableCoin : Address
  stableCoinSet : Bool
  minCollateralRatioBps : Nat
  liquidationPenaltyBps : Nat
  positions : Address → Position

def State.ledger (state : State) : Ledger :=
  { paused := state.paused
    stableCoin := state.stableCoin
    stableCoinSet := state.stableCoinSet
    minCollateralRatioBps := state.minCollateralRatioBps
    liquidationPenaltyBps := state.liquidationPenaltyBps
    positions := state.positions }

def Ledger.setPosition (ledger : Ledger) (user : Address) (position : Position) : Ledger :=
  { ledger with positions := Function.update ledger.positions user position }

def Ledger.read (ledger : Ledger) : Event → Ledger
  | .collateralDeposited user amount =>
      ledger.setPosition user
        { ledger.positions user with
          collateralAmount := (ledger.positions user).collateralAmount + amount }
  | .collateralWithdrawn user amount =>
      ledger.setPosition user
        { ledger.positions user with
          collateralAmount := (ledger.positions user).collateralAmount - amount }
  | .debtMinted user amount =>
      ledger.setPosition user
        { ledger.positions user with
          debtAmount := (ledger.positions user).debtAmount + amount }
  | .debtRepaid user amount =>
      ledger.setPosition user
        { ledger.positions user with
          debtAmount := (ledger.positions user).debtAmount - amount }
  | .positionLiquidated user _ debtCovered collateralSeized =>
      ledger.setPosition user
        { collateralAmount := (ledger.positions user).collateralAmount - collateralSeized
          debtAmount := (ledger.positions user).debtAmount - debtCovered }
  | .riskParamsUpdated minCollateralRatioBps liquidationPenaltyBps =>
      { ledger with minCollateralRatioBps, liquidationPenaltyBps }
  | .stableCoinSet stableCoin => { ledger with stableCoin, stableCoinSet := true }
  | .paused _ => { ledger with paused := true }
  | .unpaused _ => { ledger with paused := false }
  | .roleChanged _ => ledger

theorem callFn_tells {self : Address} {msg : Msg} {world next : World} {receipt : Receipt Event}
    {fn : Fn} (done : callFn self msg world fn = .ok (next, receipt)) :
    replay Ledger.read world.vault.ledger receipt.events = next.vault.ledger := by
  cases fn with
  | setStableCoin stableCoinAddress =>
      simp only [callFn, setStableCoin, onlyRole, require_bind_eq_ok, pure_eq_ok] at done
      obtain ⟨_, _, same⟩ := done
      cases same
      rfl
  | depositCollateral amount =>
      simp only [callFn, depositCollateral, whenNotPaused, require_bind_eq_ok] at done
      obtain ⟨_, _, receiving⟩ := done
      obtain ⟨⟨tokens, movements⟩, _, adding⟩ := bind_eq_ok.mp receiving
      simp only [orRevert_bind_eq_ok, checkedAdd_eq_some, pure_eq_ok] at adding
      obtain ⟨_, ⟨_, rfl⟩, same⟩ := adding
      cases same
      rfl
  | withdrawCollateral amount =>
      simp only [callFn, withdrawCollateral, whenNotPaused, require_bind_eq_ok,
        orRevert_bind_eq_ok] at done
      obtain ⟨_, _, _, _, _, _, sending⟩ := done
      obtain ⟨⟨tokens, movements⟩, _, same⟩ := bind_eq_ok.mp sending
      cases same
      rfl
  | mintStableCoin amount =>
      simp only [callFn, mintStableCoin, whenNotPaused, require_bind_eq_ok, orRevert_bind_eq_ok,
        checkedAdd_eq_some] at done
      obtain ⟨_, _, _, _, ⟨_, rfl⟩, _, _, _, minting⟩ := done
      obtain ⟨coin, _, same⟩ := bind_eq_ok.mp minting
      cases same
      rfl
  | repayDebt amount =>
      simp only [callFn, repayDebt, whenNotPaused, require_bind_eq_ok] at done
      obtain ⟨_, _, _, _, burning⟩ := done
      obtain ⟨coin, _, same⟩ := bind_eq_ok.mp burning
      cases same
      rfl
  | liquidate user debtToCover =>
      simp only [callFn, liquidate, whenNotPaused, require_bind_eq_ok,
        orRevert_bind_eq_ok] at done
      obtain ⟨_, _, _, _, _, _, uncapped, _, burning⟩ := done
      obtain ⟨coin, _, sending⟩ := bind_eq_ok.mp burning
      obtain ⟨⟨tokens, movements⟩, _, same⟩ := bind_eq_ok.mp sending
      cases same
      rfl
  | updateRiskParams newMinCollateralRatioBps newLiquidationPenaltyBps =>
      simp only [callFn, updateRiskParams, onlyRole, require_bind_eq_ok, pure_eq_ok] at done
      obtain ⟨_, same⟩ := done
      cases same
      rfl
  | pause =>
      simp only [callFn, pause, onlyRole, whenNotPaused, require_bind_eq_ok, pure_eq_ok] at done
      obtain ⟨_, _, same⟩ := done
      cases same
      rfl
  | unpause =>
      simp only [callFn, unpause, onlyRole, require_bind_eq_ok, pure_eq_ok] at done
      obtain ⟨_, _, same⟩ := done
      cases same
      rfl
  | changeRole change =>
      obtain ⟨roles, _, same⟩ := bind_eq_ok.mp done
      cases same
      rfl

end Dics.Vault

namespace Dics.Cdp

theorem exec_tells (addresses : Addresses) :
    Tells (exec addresses) Receipt.events (fun world => world.vault.ledger)
      Vault.Ledger.read := by
  intro world call next receipt done
  unfold exec at done
  cases target : call.target with
  | vault fn =>
      rw [target] at done
      exact Vault.callFn_tells (mapError_eq_ok.mp done)
  | coin address fn =>
      rw [target] at done
      obtain ⟨_, _, same⟩ := bind_eq_ok.mp done
      cases same
      rfl
  | oracle address fn =>
      rw [target] at done
      obtain ⟨_, _, same⟩ := bind_eq_ok.mp done
      cases same
      rfl
  | token token act =>
      rw [target] at done
      obtain ⟨⟨_, _⟩, _, same⟩ := bind_eq_ok.mp done
      cases same
      rfl

theorem log_tells_positions (deployment : Deployment) (calls : List (Call deployment.addresses)) :
    replay Vault.Ledger.read deployment.start.vault.ledger
        (log Receipt.events (deployment.history calls)) =
      (deployment.run calls).vault.ledger :=
  (exec_tells deployment.addresses).replay_run deployment.start calls

end Dics.Cdp
