/-
Policies that are over.

A policy is over once it is revoked or its term has passed, and the policy
contract takes back neither.  From then on the registry accepts no claim on
it, so the claims it has are all it will ever have: only their statuses still
change, and no later payment goes to any other claim on the policy.
-/

import Dics.Chain.Coverage
import Dics.Chain.PolicyRuns

open Transactions Tokens Words

namespace Dics.ClaimRegistry

def Listed (state : State) : Prop :=
  ∀ policyId, ∀ claimId ∈ state.policyClaims policyId, claimId < state.nextClaimId

theorem listed_step {self : Address} {world next : World} {call : Call}
    {receipt : Receipt Event} (listed : Listed world.registry)
    (done : exec self world call = .ok (next, receipt)) : Listed next.registry := by
  intro policyId claimId member
  have grows := nextClaimId_step done
  rcases policyClaims_step done policyId with ⟨extended, bumped⟩ | same
  · rw [extended, List.mem_append, List.mem_singleton] at member
    rcases member with old | rfl
    · exact Nat.lt_of_lt_of_le (listed policyId claimId old) grows
    · omega
  · rw [same] at member
    exact Nat.lt_of_lt_of_le (listed policyId claimId member) grows

/-- Only status and processing time of a claim with an earlier id can change. -/
theorem earlier_claim_step {self : Address} {world next : World} {call : Call}
    {receipt : Receipt Event} (done : exec self world call = .ok (next, receipt))
    {claimId : Nat} (handedOut : claimId < world.registry.nextClaimId) :
    ∃ status processedAt, next.registry.claims claimId =
      { world.registry.claims claimId with status := status, processedAt := processedAt } := by
  have rewritten : ∀ {written : Nat} {status : ClaimStatus} {processedAt : BitVec 40},
      next.registry.claims = Function.update world.registry.claims written
        { world.registry.claims written with status := status, processedAt := processedAt } →
      ∃ status processedAt, next.registry.claims claimId =
        { world.registry.claims claimId with
          status := status
          processedAt := processedAt } := by
    intro written status processedAt claims
    rw [claims]
    by_cases same : claimId = written
    · subst same
      rw [Function.update_self]
      exact ⟨_, _, rfl⟩
    · rw [Function.update_of_ne same]
      exact ⟨_, _, rfl⟩
  rcases exec_cases done with
    ⟨_, _, _, _, _, _, submitted⟩ | ⟨_, _, _, written⟩ | ⟨_, _, paid⟩ | ⟨_, _, claims, _⟩
  · rw [submitted.claims, Function.update_of_ne (Nat.ne_of_lt handedOut)]
    exact ⟨_, _, rfl⟩
  · obtain ⟨processedAt, claims⟩ := written.claims
    exact rewritten claims
  · obtain ⟨processedAt, claims⟩ := paid.claims
    exact rewritten claims
  · rw [claims]
    exact ⟨_, _, rfl⟩

/-- A policy's list grows only by a submission on it that met a running policy. -/
theorem list_grows_by_submission {self : Address} {world next : World} {call : Call}
    {receipt : Receipt Event} (done : exec self world call = .ok (next, receipt))
    {policyId : Nat}
    (grown : next.registry.policyClaims policyId ≠ world.registry.policyClaims policyId) :
    ∃ policy,
      (call.registries world.registry.policyRegistry).getPolicy policyId = some policy ∧
      policy.revoked = false ∧ call.msg.timestamp ≤ policy.validUntil.toNat := by
  rcases exec_cases done with
    ⟨submittedOn, _, _, policy, _, _, submitted⟩ | ⟨_, _, _, written⟩ | ⟨_, _, paid⟩ |
    ⟨_, _, _, books⟩
  · have same : policyId = submittedOn := by
      by_contra other
      rw [submitted.policyClaims, Function.update_of_ne other] at grown
      exact grown rfl
    subst same
    exact ⟨policy, submitted.found, submitted.notRevoked, submitted.running⟩
  · exact absurd (congrFun written.books.policyClaims policyId) grown
  · exact absurd (congrFun paid.books.policyClaims policyId) grown
  · exact absurd (congrFun books.policyClaims policyId) grown

end Dics.ClaimRegistry

namespace Dics.Insurance

variable {addresses : Addresses} {policyId : Nat}

/-- The commit finds the policy, as it stood at `start`, revoked or past its
term, and leaves the registry pointed at the policy contract. -/
def IsOver (policyId : Nat) (start : World) (commit : Commit addresses) : Prop :=
  ((start.policy.policies policyId).revoked = true ∨
    (start.policy.policies policyId).validUntil.toNat < commit.call.msg.timestamp) ∧
  commit.after.registry.policyRegistry = addresses.policy

instance (start : World) (commit : Commit addresses) :
    Decidable (IsOver policyId start commit) :=
  inferInstanceAs (Decidable (_ ∧ _))

/-- The claims on the policy are those of `start`, up to their statuses. -/
structure Frozen (policyId : Nat) (start world : World) : Prop where
  listed : world.registry.policyClaims policyId = start.registry.policyClaims policyId
  claims : ∀ claimId ∈ start.registry.policyClaims policyId, ∃ status processedAt,
    world.registry.claims claimId =
      { start.registry.claims claimId with status := status, processedAt := processedAt }

structure Closed (policyId : Nat) (start world : World) : Prop where
  frozen : Frozen policyId start world
  kept : InsurancePolicy.Kept policyId start.policy world.policy
  pointed : world.registry.policyRegistry = addresses.policy
  handedOut : ClaimRegistry.Listed world.registry

section Steps

variable {start world next : World} {call : Call addresses} {receipt : Receipt Event}

theorem Frozen.claim_trans (frozen : Frozen policyId start world) {claimId : Nat}
    (member : claimId ∈ start.registry.policyClaims policyId)
    (changed : ∃ status processedAt, next.registry.claims claimId =
      { world.registry.claims claimId with status := status, processedAt := processedAt }) :
    ∃ status processedAt, next.registry.claims claimId =
      { start.registry.claims claimId with status := status, processedAt := processedAt } := by
  obtain ⟨_, _, earlier⟩ := frozen.claims claimId member
  obtain ⟨status, processedAt, now⟩ := changed
  rw [now, earlier]
  exact ⟨status, processedAt, rfl⟩

/-- The policy contract answers for a policy that is over in no way that lets a
claim pass. -/
theorem Closed.not_running (closed : @Closed addresses policyId start world)
    (ended : (start.policy.policies policyId).revoked = true ∨
      (start.policy.policies policyId).validUntil.toNat < call.msg.timestamp) {policy : Policy}
    (found : (call.registries world world.registry.policyRegistry).getPolicy policyId =
      some policy) :
    ¬(policy.revoked = false ∧ call.msg.timestamp ≤ policy.validUntil.toNat) := by
  rintro ⟨notRevoked, running⟩
  rw [closed.pointed, registries_policy] at found
  obtain ⟨_, rfl⟩ := InsurancePolicy.getPolicy_eq_some.mp found
  rcases ended with revoked | past
  · rw [closed.kept.revoked revoked] at notRevoked
    cases notRevoked
  · rw [closed.kept.validUntil] at running
    omega

theorem policy_kept (done : exec addresses world call = .ok (next, receipt))
    (found : world.policy.policyExists policyId = true) :
    InsurancePolicy.Kept policyId world.policy next.policy := by
  unfold exec at done
  cases target : call.target with
  | policy fn =>
      rw [target] at done
      obtain ⟨⟨after, own⟩, committed, same⟩ := bind_eq_ok.mp done
      cases same
      exact (InsurancePolicy.callFn_effect (mapError_eq_ok.mp committed)).kept found
  | registry fn =>
      rw [target] at done
      obtain ⟨_, _, same⟩ := bind_eq_ok.mp done
      cases same
      exact InsurancePolicy.Kept.of_same found rfl rfl
  | token token act =>
      rw [target] at done
      obtain ⟨⟨_, _⟩, _, same⟩ := bind_eq_ok.mp done
      cases same
      exact InsurancePolicy.Kept.of_same found rfl rfl

theorem closed_step (closed : @Closed addresses policyId start world)
    (listed : ClaimRegistry.Listed start.registry)
    (growing : start.registry.nextClaimId ≤ world.registry.nextClaimId)
    (done : exec addresses world call = .ok (next, receipt))
    (ended : IsOver policyId start ⟨world, call, receipt, next⟩) :
    @Closed addresses policyId start next ∧
      start.registry.nextClaimId ≤ next.registry.nextClaimId := by
  have kept := closed.kept.trans (policy_kept done closed.kept.policyExists)
  unfold exec at done
  cases target : call.target with
  | registry fn =>
      rw [target] at done
      obtain ⟨⟨after, own⟩, committed, same⟩ := bind_eq_ok.mp done
      cases same
      have called := mapError_eq_ok.mp committed
      have list : after.registry.policyClaims policyId =
          world.registry.policyClaims policyId := by
        by_contra grown
        obtain ⟨policy, found, running⟩ := ClaimRegistry.list_grows_by_submission called grown
        exact closed.not_running ended.1 found running
      refine ⟨⟨⟨list.trans closed.frozen.listed, ?_⟩, kept, ended.2,
        ClaimRegistry.listed_step closed.handedOut called⟩,
        Nat.le_trans growing (ClaimRegistry.nextClaimId_step called)⟩
      intro claimId member
      have handedOut : claimId < world.registry.nextClaimId :=
        Nat.lt_of_lt_of_le (listed policyId claimId member) growing
      exact @Frozen.claim_trans policyId start world ⟨world.policy, after.registry, after.tokens⟩
        closed.frozen claimId member (ClaimRegistry.earlier_claim_step called handedOut)
  | policy fn =>
      rw [target] at done
      obtain ⟨_, _, same⟩ := bind_eq_ok.mp done
      cases same
      exact ⟨⟨⟨closed.frozen.listed, closed.frozen.claims⟩, kept, closed.pointed,
        closed.handedOut⟩, growing⟩
  | token token act =>
      rw [target] at done
      obtain ⟨⟨_, _⟩, _, same⟩ := bind_eq_ok.mp done
      cases same
      exact ⟨⟨⟨closed.frozen.listed, closed.frozen.claims⟩, kept, closed.pointed,
        closed.handedOut⟩, growing⟩

theorem listed_run (deployment : Deployment) (calls : List (Call deployment.addresses)) :
    ClaimRegistry.Listed (deployment.run calls).registry := by
  refine @run_induction _ _ _ _ (exec deployment.addresses)
    (fun world _ => ClaimRegistry.Listed world.registry) (fun _ => True) deployment.start
    ?_ ?_ calls (fun _ _ => trivial)
  · intro policyId claimId member
    exact absurd member List.not_mem_nil
  · intro world past call next receipt before done _
    unfold exec at done
    cases target : call.target with
    | registry fn =>
        rw [target] at done
        obtain ⟨⟨after, own⟩, committed, same⟩ := bind_eq_ok.mp done
        cases same
        exact ClaimRegistry.listed_step before (mapError_eq_ok.mp committed)
    | policy fn =>
        rw [target] at done
        obtain ⟨_, _, same⟩ := bind_eq_ok.mp done
        cases same
        exact before
    | token token act =>
        rw [target] at done
        obtain ⟨⟨_, _⟩, _, same⟩ := bind_eq_ok.mp done
        cases same
        exact before

end Steps

/-- Once a policy is revoked, or while its term has passed, no order of calls on
both contracts ever adds a claim to it or changes the amount or the claimant of
one it has, as long as the registry is not pointed elsewhere. -/
theorem closed_policy_claims_frozen (deployment : Deployment)
    (calls later : List (Call deployment.addresses)) (policyId : Nat)
    (found : (deployment.run calls).policy.policyExists policyId = true)
    (pointed : (deployment.run calls).registry.policyRegistry = deployment.addresses.policy)
    (ended : ∀ commit ∈ Transactions.history (exec deployment.addresses) (deployment.run calls)
      later, IsOver policyId (deployment.run calls) commit) :
    Frozen policyId (deployment.run calls)
      (Transactions.run (exec deployment.addresses) (deployment.run calls) later) := by
  have listed := listed_run deployment calls
  have closed := @run_induction _ _ _ _ (exec deployment.addresses)
    (fun world _ => @Closed deployment.addresses policyId (deployment.run calls) world ∧
      (deployment.run calls).registry.nextClaimId ≤ world.registry.nextClaimId)
    (IsOver policyId (deployment.run calls)) (deployment.run calls) ?_ ?_ later ended
  · exact closed.1.frozen
  · exact ⟨⟨⟨rfl, fun _ _ => ⟨_, _, rfl⟩⟩, InsurancePolicy.Kept.of_same found rfl rfl, pointed,
      listed⟩, Nat.le_refl _⟩
  · intro world past call next receipt before done allowed
    exact closed_step before.1 listed before.2 done allowed

/-- The policy of `0xA1` has one claim when it is revoked. -/
def sampleRevokedCalls : List (Call sampleAddresses) :=
  sampleSetupCalls ++
    [holderCall (.registry (.submitClaim 7 0 500)),
     managerCall (.policy (.revokePolicy 7))]

/-- A second claim is refused, the first one is approved and paid. -/
def sampleAfterwards : List (Call sampleAddresses) :=
  [holderCall (.registry (.submitClaim 7 0 100)),
   underwriterCall (.registry (.setClaimStatus 1 .approved)),
   underwriterCall (.registry (.payoutClaim 1))]

theorem closed_policy_claims_frozen_sample :
    (Transactions.history (exec sampleAddresses) (sampleDeployment.run sampleRevokedCalls)
        sampleAfterwards).length = 2 ∧
      Frozen 7 (sampleDeployment.run sampleRevokedCalls)
        (Transactions.run (exec sampleAddresses) (sampleDeployment.run sampleRevokedCalls)
          sampleAfterwards) :=
  ⟨by decide +kernel,
    closed_policy_claims_frozen sampleDeployment sampleRevokedCalls sampleAfterwards 7
      (by decide +kernel) (by decide +kernel) (by decide +kernel)⟩

end Dics.Insurance
