/-
Eligibility, coded twice.

`submitClaim` checks a policy field by field and reverts; `isClaimEligible`
answers the same question in another order and with `false`.  A claim is
accepted exactly when the view says so, its amount fits the cap and what is
left of the coverage, and a claim id is left to give it.
-/

import Dics.Chain.Coverage

open Transactions Tokens Words Totals

namespace Dics.ClaimRegistry

private theorem consumed_foldlM_of_lt (claims : Nat → Claim) (ids : List Nat) (start : Nat)
    (fits : start + total Claim.reserved claims ids < wordBound) :
    ids.foldlM
      (fun total id =>
        let claim := claims id
        if claim.status ≠ .rejected then checkedAdd total claim.amount.toNat else some total)
      start = some (start + total Claim.reserved claims ids) := by
  induction ids generalizing start with
  | nil => rfl
  | cons id rest ih =>
      have split : total Claim.reserved claims (id :: rest) =
          (claims id).reserved + total Claim.reserved claims rest := rfl
      rw [split, ← Nat.add_assoc] at fits ⊢
      rw [List.foldlM_cons]
      apply Option.bind_eq_some_iff.mpr
      refine ⟨start + (claims id).reserved, ?_, ih _ fits⟩
      dsimp only
      by_cases rejected : (claims id).status = .rejected
      · rw [if_neg (not_not.mpr rejected), reserved_of_rejected rejected]
        rfl
      · rw [if_pos rejected, checkedAdd_eq_some, reserved_of_not_rejected rejected]
        rw [reserved_of_not_rejected rejected] at fits
        refine ⟨?_, rfl⟩
        omega

/-- The loop of `_consumedCoverage` panics only when the sum does not fit. -/
theorem consumedCoverage_of_lt {state : State} {policyId : Nat}
    (fits : reservedTotal state policyId < wordBound) :
    consumedCoverage state policyId = some (reservedTotal state policyId) := by
  have summed := consumed_foldlM_of_lt state.claims (state.policyClaims policyId) 0
  rw [Nat.zero_add] at summed
  exact summed fits

/-- Everything `submitClaim` asks for.  The last requirement is the checked
increment of the claim counter. -/
structure Acceptable (state : State) (msg : Msg) (registries : Address → PolicyRegistry)
    (policyId amount : Nat) (policy : Policy) : Prop where
  unpaused : state.paused = false
  withinCap : amount ≤ state.maxPayoutPerClaim
  registrySet : state.policyRegistry ≠ 0
  found : (registries state.policyRegistry).getPolicy policyId = some policy
  notRevoked : policy.revoked = false
  started : policy.validFrom.toNat ≤ msg.timestamp
  running : msg.timestamp ≤ policy.validUntil.toNat
  holder : policy.holder = msg.sender
  premiumCurrent : (registries state.policyRegistry).isPremiumCurrent policyId = some true
  covered : amount + reservedTotal state policyId ≤ policy.coverageAmount.toNat
  idLeft : state.nextClaimId + 1 < wordBound

/-- The storage after an accepted submission. -/
def State.withClaim (state : State) (policyId : Nat) (merkleRoot : Bytes32) (amount : Nat)
    (msg : Msg) : State :=
  { state with
    nextClaimId := state.nextClaimId + 1
    claims := Function.update state.claims state.nextClaimId
      (newClaim state.nextClaimId policyId merkleRoot amount msg)
    policyClaims := Function.update state.policyClaims policyId
      (state.policyClaims policyId ++ [state.nextClaimId]) }

section Submissions

variable {registries : Address → PolicyRegistry} {msg : Msg} {policyId amount : Nat}

theorem Acceptable.submits (self : Address) (world : World) (merkleRoot : Bytes32)
    {policy : Policy}
    (acceptable : Acceptable world.registry msg registries policyId amount policy) :
    callFn self registries msg world (.submitClaim policyId merkleRoot amount) =
      .ok (⟨world.registry.withClaim policyId merkleRoot amount msg, world.tokens⟩,
        ⟨[.claimSubmitted world.registry.nextClaimId policyId msg.sender merkleRoot amount
          msg.timestamp], []⟩) := by
  have covered := acceptable.covered
  have small : policy.coverageAmount.toNat < wordBound :=
    Nat.lt_trans policy.coverageAmount.isLt (by decide)
  have consumed := consumedCoverage_of_lt
    (show reservedTotal world.registry policyId < wordBound by omega)
  apply bind_eq_ok.mpr
  refine ⟨(world.registry.withClaim policyId merkleRoot amount msg, _), ?_, rfl⟩
  simp only [submitClaim, whenNotPaused, require_bind_eq_ok, orRevert_bind_eq_ok,
    checkedAdd_eq_some, pure_eq_ok, not_or, Bool.not_eq_true, Nat.not_lt, gt_iff_lt]
  refine ⟨acceptable.unpaused, acceptable.withinCap, acceptable.registrySet, policy,
    acceptable.found, ⟨acceptable.notRevoked, acceptable.started, acceptable.running⟩,
    acceptable.holder, true, acceptable.premiumCurrent, rfl, _, consumed, _, ⟨?_, rfl⟩, ?_,
    _, ⟨acceptable.idLeft, rfl⟩, rfl⟩
  · omega
  · omega

theorem acceptable_of_submitted (self : Address) {world next : World} {merkleRoot : Bytes32}
    {receipt : Receipt Event}
    (done : callFn self registries msg world (.submitClaim policyId merkleRoot amount) =
      .ok (next, receipt)) :
    ∃ policy, Acceptable world.registry msg registries policyId amount policy := by
  obtain ⟨policy, consumedSoFar, submitted⟩ := submitClaim_ok done
  have consumed := consumedCoverage_eq submitted.consumed
  have covered := submitted.covered
  have idLeft : world.registry.nextClaimId + 1 < wordBound := by
    obtain ⟨⟨state, events⟩, submitting, _⟩ := bind_eq_ok.mp done
    simp only [submitClaim, require_bind_eq_ok, orRevert_bind_eq_ok, checkedAdd_eq_some,
      whenNotPaused] at submitting
    obtain ⟨_, _, _, _, _, _, _, _, _, _, _, _, _, _, _, _, ⟨bounded, _⟩, _⟩ := submitting
    exact bounded
  refine ⟨policy, submitted.unpaused, submitted.withinCap, submitted.registrySet,
    submitted.found, submitted.notRevoked, submitted.started, submitted.running,
    submitted.holder, submitted.premiumCurrent, ?_, idLeft⟩
  omega

end Submissions

end Dics.ClaimRegistry

namespace Dics.InsurancePolicy

/-- The view's nested conditions, flattened. -/
theorem isClaimEligible_eq_true {state : State} {timestamp policyId amount atTime : Nat}
    {claimant : Address} :
    isClaimEligible state timestamp policyId claimant amount atTime = some true ↔
      state.policyExists policyId = true ∧ (state.policies policyId).revoked = false ∧
        (state.policies policyId).holder = claimant ∧
        (state.policies policyId).validFrom.toNat ≤ atTime ∧
        atTime ≤ (state.policies policyId).validUntil.toNat ∧
        amount ≤ (state.policies policyId).coverageAmount.toNat ∧
        isPremiumCurrent state timestamp policyId = some true := by
  unfold isClaimEligible
  dsimp only
  by_cases absent : state.policyExists policyId = false
  · simp [absent]
  rw [if_neg absent]
  by_cases revoked : (state.policies policyId).revoked = true
  · simp [revoked]
  rw [if_neg revoked]
  by_cases other : (state.policies policyId).holder ≠ claimant
  · simp [other]
  rw [if_neg other]
  by_cases outside : atTime < (state.policies policyId).validFrom.toNat ∨
      atTime > (state.policies policyId).validUntil.toNat
  · rw [if_pos outside]
    constructor
    · intro impossible
      cases impossible
    · rintro ⟨_, _, _, started, running, _⟩
      omega
  rw [if_neg outside]
  by_cases tooMuch : amount > (state.policies policyId).coverageAmount.toNat
  · rw [if_pos tooMuch]
    constructor
    · intro impossible
      cases impossible
    · rintro ⟨_, _, _, _, _, covered, _⟩
      omega
  rw [if_neg tooMuch]
  constructor
  · intro current
    refine ⟨Bool.eq_true_of_not_eq_false absent, Bool.eq_false_of_not_eq_true revoked,
      not_not.mp other, ?_, ?_, ?_, current⟩
    · omega
    · omega
    · omega
  · rintro ⟨_, _, _, _, _, _, current⟩
    exact current

theorem isPolicyActive_of_eligible {state : State} {timestamp policyId amount atTime : Nat}
    {claimant : Address}
    (eligible : isClaimEligible state timestamp policyId claimant amount atTime = some true) :
    isPolicyActive state policyId atTime = true := by
  obtain ⟨found, notRevoked, _, started, running, _, _⟩ := isClaimEligible_eq_true.mp eligible
  simp only [isPolicyActive, found, notRevoked, started, running, decide_true, Bool.not_false,
    Bool.and_self]

end Dics.InsurancePolicy

namespace Dics.Insurance

open ClaimRegistry (Acceptable reservedTotal)

section Pair

variable {addresses : Addresses} {world : World} {call : Call addresses}
variable {policyId amount : Nat} {merkleRoot : Bytes32}

/-- A submission to the registry in its paired world. -/
theorem submits_iff (target : call.target = .registry (.submitClaim policyId merkleRoot amount)) :
    (∃ next receipt, exec addresses world call = .ok (next, receipt)) ↔
      ∃ policy, Acceptable world.registry call.msg (call.registries world) policyId amount
        policy := by
  unfold exec
  rw [target]
  constructor
  · rintro ⟨next, receipt, done⟩
    obtain ⟨⟨after, own⟩, committed, _⟩ := bind_eq_ok.mp done
    exact ClaimRegistry.acceptable_of_submitted addresses.registry (mapError_eq_ok.mp committed)
  · rintro ⟨policy, acceptable⟩
    have submits := Acceptable.submits addresses.registry world.claims merkleRoot acceptable
    exact ⟨_, _, bind_eq_ok.mpr ⟨_, mapError_eq_ok.mpr submits, rfl⟩⟩

/-- Pointed at the policy contract, the registry asks for what its view
`isClaimEligible` answers. -/
theorem acceptable_iff_eligible (pointed : world.registry.policyRegistry = addresses.policy) :
    (∃ policy, Acceptable world.registry call.msg (call.registries world) policyId amount
        policy) ↔
      world.registry.paused = false ∧ amount ≤ world.registry.maxPayoutPerClaim ∧
        world.registry.policyRegistry ≠ 0 ∧
        InsurancePolicy.isClaimEligible world.policy call.msg.timestamp policyId
          call.msg.sender amount call.msg.timestamp = some true ∧
        amount + reservedTotal world.registry policyId ≤ coverage world policyId ∧
        world.registry.nextClaimId + 1 < wordBound := by
  have asked : call.registries world world.registry.policyRegistry =
      InsurancePolicy.view world.policy call.msg.timestamp := by
    rw [pointed]
    exact registries_policy call world
  constructor
  · rintro ⟨policy, acceptable⟩
    have found := acceptable.found
    have premiumCurrent := acceptable.premiumCurrent
    rw [asked] at found premiumCurrent
    obtain ⟨registered, rfl⟩ := InsurancePolicy.getPolicy_eq_some.mp found
    have covered := acceptable.covered
    refine ⟨acceptable.unpaused, acceptable.withinCap, acceptable.registrySet, ?_, covered,
      acceptable.idLeft⟩
    apply InsurancePolicy.isClaimEligible_eq_true.mpr
    exact ⟨registered, acceptable.notRevoked, acceptable.holder, acceptable.started,
      acceptable.running, Nat.le_trans (Nat.le_add_right _ _) covered, premiumCurrent⟩
  · rintro ⟨unpaused, withinCap, registrySet, eligible, covered, idLeft⟩
    obtain ⟨registered, notRevoked, holder, started, running, _, premiumCurrent⟩ :=
      InsurancePolicy.isClaimEligible_eq_true.mp eligible
    refine ⟨world.policy.policies policyId, unpaused, withinCap, registrySet, ?_, notRevoked,
      started, running, holder, ?_, covered, idLeft⟩
    · rw [asked]
      exact InsurancePolicy.getPolicy_eq_some.mpr ⟨registered, rfl⟩
    · rw [asked]
      exact premiumCurrent

end Pair

/-- In every reachable state of the pair a claim is accepted exactly when the
registry is unpaused and set, the amount fits the cap and the coverage left,
the view declares the claim eligible now, and a claim id is left. -/
theorem accepted_iff_eligible (deployment : Deployment)
    (calls : List (Call deployment.addresses)) (call : Call deployment.addresses)
    (policyId amount : Nat) (merkleRoot : Bytes32)
    (target : call.target = .registry (.submitClaim policyId merkleRoot amount))
    (paired : (deployment.run calls).registry.policyRegistry = 0 ∨
      (deployment.run calls).registry.policyRegistry = deployment.addresses.policy) :
    ((∃ next receipt,
        exec deployment.addresses (deployment.run calls) call = .ok (next, receipt)) ↔
      (deployment.run calls).registry.paused = false ∧
        amount ≤ (deployment.run calls).registry.maxPayoutPerClaim ∧
        (deployment.run calls).registry.policyRegistry ≠ 0 ∧
        InsurancePolicy.isClaimEligible (deployment.run calls).policy call.msg.timestamp
          policyId call.msg.sender amount call.msg.timestamp = some true ∧
        amount + reservedTotal (deployment.run calls).registry policyId ≤
          coverage (deployment.run calls) policyId ∧
        (deployment.run calls).registry.nextClaimId + 1 < wordBound) ∧
    ((∃ next receipt,
        exec deployment.addresses (deployment.run calls) call = .ok (next, receipt)) →
      InsurancePolicy.isClaimEligible (deployment.run calls).policy call.msg.timestamp
          policyId call.msg.sender amount call.msg.timestamp = some true ∧
        InsurancePolicy.isPolicyActive (deployment.run calls).policy policyId
          call.msg.timestamp = true) := by
  rcases paired with unset | pointed
  · have rejected : ¬∃ next receipt,
        exec deployment.addresses (deployment.run calls) call = .ok (next, receipt) := by
      rw [submits_iff target]
      rintro ⟨policy, acceptable⟩
      exact acceptable.registrySet unset
    refine ⟨⟨fun accepted => absurd accepted rejected, ?_⟩,
      fun accepted => absurd accepted rejected⟩
    rintro ⟨_, _, registrySet, _⟩
    exact absurd unset registrySet
  · rw [submits_iff target, acceptable_iff_eligible pointed]
    refine ⟨Iff.rfl, ?_⟩
    rintro ⟨_, _, _, eligible, _, _⟩
    exact ⟨eligible, InsurancePolicy.isPolicyActive_of_eligible eligible⟩

def eligibleCall : Call sampleAddresses := holderCall (.registry (.submitClaim 7 0 0))

theorem accepted_iff_eligible_sample :
    (sampleDeployment.run sampleSetupCalls).registry.policyRegistry = sampleAddresses.policy ∧
      (∃ next receipt, exec sampleAddresses (sampleDeployment.run sampleSetupCalls)
        eligibleCall = .ok (next, receipt)) :=
  ⟨by decide,
    (accepted_iff_eligible sampleDeployment sampleSetupCalls eligibleCall 7 0 0 rfl
      (by decide)).1.mpr (by decide)⟩

/-! ### The last claim id -/

/-- Claims of nothing use up the claim ids but leave the coverage alone. -/
def exhaustingCalls (count : Nat) : List (Call sampleAddresses) :=
  sampleSetupCalls ++ List.replicate count eligibleCall

structure Exhausting (count : Nat) (world : World) : Prop where
  policy : world.policy = (sampleDeployment.run sampleSetupCalls).policy
  unpaused : world.registry.paused = false
  pointed : world.registry.policyRegistry = sampleAddresses.policy
  amounts : ∀ id, (world.registry.claims id).amount = 0
  counter : world.registry.nextClaimId = count + 1

private theorem Exhausting.reservedTotal {count : Nat} {world : World}
    (exhausting : Exhausting count world) (policyId : Nat) :
    reservedTotal world.registry policyId = 0 := by
  unfold ClaimRegistry.reservedTotal total
  apply List.sum_eq_zero
  intro share member
  obtain ⟨id, _, rfl⟩ := List.mem_map.mp member
  have bounded := ClaimRegistry.reserved_le_amount (world.registry.claims id)
  rw [exhausting.amounts] at bounded
  exact Nat.le_zero.mp bounded

private theorem setup_eligible :
    InsurancePolicy.isClaimEligible (sampleDeployment.run sampleSetupCalls).policy 10 7 0xA1 0
      10 = some true := by
  decide

private theorem Exhausting.eligible {count : Nat} {world : World}
    (exhausting : Exhausting count world) :
    InsurancePolicy.isClaimEligible world.policy 10 7 0xA1 0 10 = some true := by
  rw [exhausting.policy]
  exact setup_eligible

private theorem Exhausting.acceptable {count : Nat} {world : World}
    (exhausting : Exhausting count world) (idLeft : count + 2 < wordBound) :
    ∃ policy, Acceptable world.registry eligibleCall.msg (eligibleCall.registries world) 7 0
      policy := by
  apply (acceptable_iff_eligible exhausting.pointed).mpr
  refine ⟨exhausting.unpaused, Nat.zero_le _, ?_, exhausting.eligible, ?_, ?_⟩
  · rw [exhausting.pointed]
    decide
  · rw [exhausting.reservedTotal 7]
    exact Nat.zero_le _
  · rw [exhausting.counter]
    exact idLeft

private theorem Exhausting.step {count : Nat} {world : World}
    (exhausting : Exhausting count world) (idLeft : count + 2 < wordBound) :
    Exhausting (count + 1) (settle (exec sampleAddresses) world eligibleCall) := by
  obtain ⟨policy, acceptable⟩ := exhausting.acceptable idLeft
  have submits := Acceptable.submits sampleAddresses.registry world.claims 0 acceptable
  have done : exec sampleAddresses world eligibleCall = .ok
      ({ world with
          registry := world.registry.withClaim 7 0 0 eligibleCall.msg },
        ⟨[.registry (.claimSubmitted world.registry.nextClaimId 7 0xA1 0 0 10)], []⟩) :=
    bind_eq_ok.mpr ⟨_, mapError_eq_ok.mpr submits, rfl⟩
  rw [settle_of_ok done]
  refine ⟨exhausting.policy, exhausting.unpaused, exhausting.pointed, ?_, ?_⟩
  · intro id
    simp only [ClaimRegistry.State.withClaim]
    by_cases new : id = world.registry.nextClaimId
    · rw [new, Function.update_self]
      rfl
    · rw [Function.update_of_ne new]
      exact exhausting.amounts id
  · simp only [ClaimRegistry.State.withClaim, exhausting.counter]

private theorem exhausting_run (count : Nat) (idLeft : count + 1 < wordBound) :
    Exhausting count (sampleDeployment.run (exhaustingCalls count)) := by
  induction count with
  | zero => exact ⟨rfl, by decide, by decide, fun _ => rfl, by decide⟩
  | succ count ih =>
      have before := ih (Nat.lt_of_succ_lt idLeft)
      have calls : exhaustingCalls (count + 1) = exhaustingCalls count ++ [eligibleCall] := by
        rw [exhaustingCalls, List.replicate_succ', ← List.append_assoc]
        rfl
      have continued : sampleDeployment.run (exhaustingCalls count ++ [eligibleCall]) =
          settle (exec sampleAddresses) (sampleDeployment.run (exhaustingCalls count))
            eligibleCall := run_snoc _ _ _
      rw [calls, continued]
      exact before.step idLeft

/-- When only the last id is left, everything but the counter's increment speaks
for the claim, and the submission still reverts. -/
theorem last_claim_id_blocks_eligible_claim :
    (sampleDeployment.run (exhaustingCalls (wordBound - 2))).registry.paused = false ∧
      (sampleDeployment.run (exhaustingCalls (wordBound - 2))).registry.policyRegistry =
        sampleAddresses.policy ∧
      InsurancePolicy.isClaimEligible
        (sampleDeployment.run (exhaustingCalls (wordBound - 2))).policy 10 7 0xA1 0 10 =
          some true ∧
      0 + reservedTotal (sampleDeployment.run (exhaustingCalls (wordBound - 2))).registry 7 ≤
        coverage (sampleDeployment.run (exhaustingCalls (wordBound - 2))) 7 ∧
      ¬∃ next receipt, exec sampleAddresses
        (sampleDeployment.run (exhaustingCalls (wordBound - 2))) eligibleCall =
          .ok (next, receipt) := by
  have bound : 2 ≤ wordBound := by decide
  have exhausting := exhausting_run (wordBound - 2) (by omega)
  refine ⟨exhausting.unpaused, exhausting.pointed, exhausting.eligible, ?_, ?_⟩
  · rw [exhausting.reservedTotal 7]
    exact Nat.zero_le _
  · rw [submits_iff rfl]
    rintro ⟨policy, acceptable⟩
    have idLeft := acceptable.idLeft
    rw [exhausting.counter] at idLeft
    omega

end Dics.Insurance
