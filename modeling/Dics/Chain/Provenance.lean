/-
Where the money that leaves the ClaimRegistry goes.

Every stored claim goes back to a submission that passed the checks against the
policy contract as it was then.  The payout token leaves the registry only
through the two paying functions, and only for an approved claim; the recovery
function for foreign tokens cannot touch it.
-/

import Dics.Chain.Insurance

open Transactions Tokens Words

namespace Dics.Insurance

open ClaimRegistry (Claim Fresh payment)

variable {addresses : Addresses}

/-- A commit that submitted the claim, with the policy it was checked against:
held by the claimant, not revoked, in its term and premium-current. -/
structure Eligible (claimId : Nat) (claim : Claim) (submission : Commit addresses)
    (policyId : Nat) (merkleRoot : Bytes32) (amount : Nat) (policy : Policy) : Prop where
  submits : submission.call.target = .registry (.submitClaim policyId merkleRoot amount)
  numbered : submission.before.registry.nextClaimId = claimId
  sender : submission.call.msg.sender = claim.claimant
  onPolicy : claim.policyId = BitVec.ofNat 128 policyId
  found : InsurancePolicy.getPolicy submission.before.policy policyId = some policy
  holder : policy.holder = claim.claimant
  notRevoked : policy.revoked = false
  started : policy.validFrom.toNat ≤ submission.call.msg.timestamp
  running : submission.call.msg.timestamp ≤ policy.validUntil.toNat
  premiumCurrent : InsurancePolicy.isPremiumCurrent submission.before.policy
    submission.call.msg.timestamp policyId = some true

def SubmittedEarlier (claimId : Nat) (claim : Claim) (past : List (Commit addresses)) : Prop :=
  ∃ submission ∈ past, ∃ policyId merkleRoot amount policy,
    Eligible claimId claim submission policyId merkleRoot amount policy

theorem SubmittedEarlier.append {claimId : Nat} {claim : Claim} {past : List (Commit addresses)}
    (earlier : SubmittedEarlier claimId claim past) (more : List (Commit addresses)) :
    SubmittedEarlier claimId claim (past ++ more) := by
  obtain ⟨submission, member, eligible⟩ := earlier
  exact ⟨submission, List.mem_append_left _ member, eligible⟩

theorem SubmittedEarlier.congr {claimId : Nat} {claim other : Claim}
    {past : List (Commit addresses)} (earlier : SubmittedEarlier claimId claim past)
    (claimant : other.claimant = claim.claimant) (policy : other.policyId = claim.policyId) :
    SubmittedEarlier claimId other past := by
  obtain ⟨submission, member, policyId, merkleRoot, amount, found, eligible⟩ := earlier
  refine ⟨submission, member, policyId, merkleRoot, amount, found, ?_⟩
  exact
    { eligible with
      sender := eligible.sender.trans claimant.symm
      onPolicy := policy.trans eligible.onPolicy
      holder := eligible.holder.trans claimant.symm }

structure Provenance (payoutToken : Address) (world : World) (past : List (Commit addresses)) :
    Prop where
  unapproved : world.tokens.Unapproved addresses.registry
  pointed : world.registry.policyRegistry = addresses.policy
  payoutToken : world.registry.payoutToken = payoutToken
  fresh : Fresh world.registry
  submitted : ∀ claimId, (world.registry.claims claimId).claimant ≠ 0 →
    SubmittedEarlier claimId (world.registry.claims claimId) past

theorem provenance_start (deployment : Deployment) :
    @Provenance deployment.addresses deployment.args.payoutTokenAddress deployment.start [] where
  unapproved := deployment.unapproved
  pointed := deployment.pointed
  payoutToken := rfl
  fresh := ClaimRegistry.fresh_initialized _ _
  submitted _ found := absurd rfl found

private theorem eligible_of_submitted {world next : World} {call : Call addresses}
    {receipt : Receipt Event} {own : Receipt ClaimRegistry.Event}
    {policyId amount consumedSoFar : Nat} {merkleRoot : Bytes32} {policy : Policy}
    (pointed : world.registry.policyRegistry = addresses.policy)
    (target : call.target = .registry (.submitClaim policyId merkleRoot amount))
    (submitted : ClaimRegistry.Submitted world.claims call.msg (call.registries world) policyId
      merkleRoot amount policy consumedSoFar next.claims own) :
    Eligible world.registry.nextClaimId
      (ClaimRegistry.newClaim world.registry.nextClaimId policyId merkleRoot amount call.msg)
      ⟨world, call, receipt, next⟩ policyId merkleRoot amount policy := by
  have answers : call.registries world world.claims.registry.policyRegistry =
      InsurancePolicy.view world.policy call.msg.timestamp := by
    change call.registries world world.registry.policyRegistry = _
    rw [pointed, registries_policy]
  have found := submitted.found
  have premiumCurrent := submitted.premiumCurrent
  rw [answers] at found premiumCurrent
  exact
    { submits := target
      numbered := rfl
      sender := rfl
      onPolicy := rfl
      found := found
      holder := submitted.holder
      notRevoked := submitted.notRevoked
      started := submitted.started
      running := submitted.running
      premiumCurrent := premiumCurrent }

private theorem found_step {self : Address} {world next : ClaimRegistry.World}
    {call : ClaimRegistry.Call} {receipt : Receipt ClaimRegistry.Event}
    (done : ClaimRegistry.exec self world call = .ok (next, receipt)) {claimId : Nat}
    (missing : (world.registry.claims claimId).claimant = 0)
    (found : (next.registry.claims claimId).claimant ≠ 0) :
    ∃ policyId merkleRoot amount policy consumedSoFar,
      call.target = .registry (.submitClaim policyId merkleRoot amount) ∧
      ClaimRegistry.Submitted world call.msg call.registries policyId merkleRoot amount policy
        consumedSoFar next receipt ∧
      claimId = world.registry.nextClaimId := by
  rcases ClaimRegistry.exec_cases done with
    ⟨policyId, merkleRoot, amount, policy, consumedSoFar, target, submitted⟩ |
    ⟨written, status, _, write⟩ | ⟨paidId, _, paid⟩ | ⟨_, _, claims, _⟩
  · refine ⟨policyId, merkleRoot, amount, policy, consumedSoFar, target, submitted, ?_⟩
    by_contra other
    rw [submitted.claims, Function.update_of_ne other] at found
    exact found missing
  · have other : claimId ≠ written := fun same => write.found (same ▸ missing)
    obtain ⟨processedAt, claims⟩ := write.claims
    rw [claims, Function.update_of_ne other] at found
    exact absurd missing found
  · have other : claimId ≠ paidId := fun same => paid.found (same ▸ missing)
    obtain ⟨processedAt, claims⟩ := paid.claims
    rw [claims, Function.update_of_ne other] at found
    exact absurd missing found
  · rw [claims] at found
    exact absurd missing found

private theorem provenance_step {payoutToken : Address} {world next : World}
    {past : List (Commit addresses)} {call : Call addresses} {receipt : Receipt Event}
    (before : Provenance payoutToken world past)
    (done : exec addresses world call = .ok (next, receipt))
    (pointer : next.registry.policyRegistry = world.registry.policyRegistry) :
    Provenance payoutToken next (past ++ [⟨world, call, receipt, next⟩]) := by
  have unapproved := unapproved_step before.unapproved done
  have pointed := pointer.trans before.pointed
  rcases exec_cases before.unapproved done with
    ⟨fn, own, target, _, committed, _, _, _⟩ | ⟨_, _, same, _⟩
  · refine ⟨unapproved, pointed, ?_, ClaimRegistry.fresh_step before.fresh committed, ?_⟩
    · exact (ClaimRegistry.payoutToken_step committed).trans before.payoutToken
    · intro claimId found
      by_cases existing : (world.registry.claims claimId).claimant = 0
      · obtain ⟨policyId, merkleRoot, amount, policy, consumedSoFar, submits, submitted, new⟩ :=
          found_step committed existing found
        have asked : fn = .submitClaim policyId merkleRoot amount := by
          cases submits
          rfl
        have stored : next.registry.claims claimId =
            ClaimRegistry.newClaim world.registry.nextClaimId policyId merkleRoot amount
              call.msg := by
          have claims : next.registry.claims = _ := submitted.claims
          rw [claims, new, Function.update_self]
          rfl
        rw [stored, new]
        rw [asked] at target
        exact ⟨⟨world, call, receipt, next⟩, List.mem_append_right _ List.mem_cons_self,
          policyId, merkleRoot, amount, policy,
          eligible_of_submitted before.pointed target submitted⟩
      · have earlier := (before.submitted claimId existing).append
          [⟨world, call, receipt, next⟩]
        obtain ⟨status, processedAt, kept⟩ :=
          ClaimRegistry.existing_claim_step before.fresh committed existing
        change next.registry.claims claimId = _ at kept
        rw [kept]
        exact earlier.congr rfl rfl
  · refine ⟨unapproved, pointed, ?_, ?_, ?_⟩
    · rw [same]
      exact before.payoutToken
    · rw [same]
      exact before.fresh
    · intro claimId found
      rw [same] at found ⊢
      exact (before.submitted claimId found).append _

/-! ### Outgoing transfers -/

def outflow (payoutToken : Address) (commit : Commit addresses) : Nat :=
  ((commit.output.movements.filter fun movement =>
    movement.token = payoutToken ∧ movement.sender = addresses.registry).map
      Movement.amount).sum

/-- A transfer of an approved claim's stored amount to its stored claimant, for
a claim that was submitted in order. -/
def PaysApprovedClaim (past : List (Commit addresses)) (before : World)
    (movement : Movement Address) : Prop :=
  ∃ claimId, (before.registry.claims claimId).status = .approved ∧
    movement = payment addresses.registry before.registry claimId ∧
    SubmittedEarlier claimId (before.registry.claims claimId) past

/-- An empty transfer that somebody asked of the token itself. -/
def MovesNothing (call : Call addresses) (movement : Movement Address) : Prop :=
  movement.amount = 0 ∧ ∀ fn, call.target ≠ .registry fn

private theorem movement_step {payoutToken : Address} {world next : World}
    {past : List (Commit addresses)} {call : Call addresses} {receipt : Receipt Event}
    (before : Provenance payoutToken world past)
    (done : exec addresses world call = .ok (next, receipt)) {movement : Movement Address}
    (moved : movement ∈ receipt.movements) (payout : movement.token = payoutToken)
    (outgoing : movement.sender = addresses.registry) :
    MovesNothing call movement ∨ PaysApprovedClaim past world movement := by
  rcases exec_cases before.unapproved done with
    ⟨fn, own, _, _, committed, sameMovements, _⟩ | ⟨_, bypassed, _, untouched⟩
  · rw [sameMovements] at moved
    rcases ClaimRegistry.callFn_cases committed with
      ⟨_, _, _, _, _, _, submitted⟩ | ⟨_, _, _, written⟩ | ⟨claimId, _, paid⟩ |
      ⟨_, _, administered⟩
    · rw [submitted.receipt] at moved
      cases moved
    · rw [written.receipt] at moved
      cases moved
    · rw [paid.movements] at moved
      exact Or.inr ⟨claimId, paid.approved, List.mem_singleton.mp moved,
        before.submitted claimId paid.found⟩
    · have foreign := administered.movements movement moved
      exact absurd (payout.trans before.payoutToken.symm) foreign
  · exact Or.inl ⟨untouched.movements movement moved outgoing, bypassed⟩

private theorem balance_step {payoutToken : Address} {world next : World}
    {past : List (Commit addresses)} {call : Call addresses} {receipt : Receipt Event}
    (before : Provenance payoutToken world past)
    (done : exec addresses world call = .ok (next, receipt)) :
    (world.tokens payoutToken).balances addresses.registry ≤
      (next.tokens payoutToken).balances addresses.registry +
        outflow payoutToken ⟨world, call, receipt, next⟩ := by
  have token := before.payoutToken
  subst token
  rcases exec_cases before.unapproved done with
    ⟨fn, own, _, _, committed, sameMovements, _⟩ | ⟨_, _, _, untouched⟩
  · rcases ClaimRegistry.callFn_cases committed with
      ⟨_, _, _, _, _, _, submitted⟩ | ⟨_, _, _, written⟩ | ⟨claimId, _, paid⟩ |
      ⟨_, _, administered⟩
    · have same : next.tokens = world.tokens := submitted.tokens
      rw [same]
      exact Nat.le_add_right _ _
    · have same : next.tokens = world.tokens := written.tokens
      rw [same]
      exact Nat.le_add_right _ _
    · have moved : next.tokens = _ := paid.tokens
      have paidAmount : outflow world.registry.payoutToken ⟨world, call, receipt, next⟩ =
          (world.registry.claims claimId).amount.toNat := by
        simp only [outflow, sameMovements, paid.movements, payment, World.claims,
          List.filter_cons, List.filter_nil, and_self, decide_true, if_true, List.map_cons,
          List.map_nil, List.sum_singleton]
      rw [paidAmount, moved]
      change _ ≤ (Function.update world.tokens world.registry.payoutToken _ _).balances _ + _
      rw [Function.update_self]
      exact balances_le_move_add _ _ _ _
    · have same : next.tokens world.registry.payoutToken =
          world.tokens world.registry.payoutToken := administered.payoutToken
      rw [same]
      exact Nat.le_add_right _ _
  · exact Nat.le_trans (untouched.balances _) (Nat.le_add_right _ _)

/-- In every run that keeps the registry pointed at the policy contract, each
transfer of the payout token out of the registry pays an approved claim, of
which the claimant held an active and premium-current policy when it submitted
it.  The registry's balance shrinks by no more than these transfers. -/
theorem payouts_have_provenance (deployment : Deployment)
    (calls : List (Call deployment.addresses))
    (notRepointed : ∀ commit ∈ deployment.history calls,
      commit.after.registry.policyRegistry = commit.before.registry.policyRegistry)
    {past future : List (Commit deployment.addresses)} {commit : Commit deployment.addresses}
    (cut : deployment.history calls = past ++ commit :: future) :
    (∀ movement ∈ commit.output.movements,
      movement.token = deployment.args.payoutTokenAddress →
      movement.sender = deployment.addresses.registry →
      MovesNothing commit.call movement ∨ PaysApprovedClaim past commit.before movement) ∧
    (commit.before.tokens deployment.args.payoutTokenAddress).balances
        deployment.addresses.registry ≤
      (commit.after.tokens deployment.args.payoutTokenAddress).balances
          deployment.addresses.registry +
        outflow deployment.args.payoutTokenAddress commit := by
  obtain ⟨earlier, samePast, reached, done⟩ := history_split cut
  have kept : ∀ other ∈ deployment.history earlier,
      other.after.registry.policyRegistry = other.before.registry.policyRegistry := by
    intro other member
    apply notRepointed other
    rw [cut, ← samePast]
    exact List.mem_append_left _ member
  have invariant : Provenance deployment.args.payoutTokenAddress commit.before past := by
    rw [← reached, ← samePast]
    refine run_induction (provenance_start deployment) ?_ earlier kept
    intro world past call next receipt before done pointer
    exact provenance_step before done pointer
  exact ⟨fun movement moved payout outgoing => movement_step invariant done moved payout outgoing,
    balance_step invariant done⟩

/-- `0xA1` submits a claim for `500` on its policy, and `0xD1` approves and pays
it. -/
def samplePaidCalls : List (Call sampleAddresses) :=
  sampleSetupCalls ++
    [holderCall (.registry (.submitClaim 7 0 500)),
     underwriterCall (.registry (.setClaimStatus 1 .approved)),
     underwriterCall (.registry (.payoutClaim 1))]

theorem payouts_have_provenance_sample :
    ∃ past commit, sampleDeployment.history samplePaidCalls = past ++ [commit] ∧
      commit.output.movements = [⟨0x70, 0xC1, 0xA1, 500⟩] ∧
      ∀ movement ∈ commit.output.movements, movement.token = 0x70 → movement.sender = 0xC1 →
        MovesNothing commit.call movement ∨ PaysApprovedClaim past commit.before movement := by
  have committed : sampleDeployment.history samplePaidCalls ≠ [] := by
    apply List.ne_nil_of_length_pos
    decide
  have cut := (List.dropLast_concat_getLast committed).symm
  exact ⟨_, _, cut, rfl,
    (payouts_have_provenance sampleDeployment samplePaidCalls (by decide) cut).1⟩

end Dics.Insurance
