/-
The registry's book of claims.

A claim exists when its claimant is not the zero address; every function tests
just that.  The test is right in every reachable state: the ids that exist are
those handed out, each of them is filed under one policy, and what a claim was
filed with never changes.
-/

import Dics.Chain.RegistryRuns
import Dics.Lib.Filing

open Transactions Tokens Words Filing

namespace Dics.ClaimRegistry

structure ClaimBook (state : State) : Prop where
  started : 1 ≤ state.nextClaimId
  filed : Filed state.policyClaims 1 state.nextClaimId
  existing : ∀ id, (state.claims id).claimant ≠ 0 ↔ 1 ≤ id ∧ id < state.nextClaimId

theorem ClaimBook.fresh {state : State} (book : ClaimBook state) : Fresh state := by
  intro id unused
  by_contra found
  have handedOut := (book.existing id).mp found
  omega

theorem claimBook_initialized (args : InitArgs) (timestamp : Nat) :
    ClaimBook (initialized args timestamp) := by
  refine ⟨Nat.le_refl 1, filed_empty 1, ?_⟩
  intro id
  constructor
  · intro found
    exact absurd rfl found
  · intro between
    have next : (initialized args timestamp).nextClaimId = 1 := rfl
    omega

/-- Only `submitClaim` touches the lists, the counter or a claimant. -/
theorem ClaimBook.of_sameBooks {before after : State} (book : ClaimBook before)
    (books : SameBooks before after)
    (claimants : ∀ id, (after.claims id).claimant = (before.claims id).claimant) :
    ClaimBook after := by
  constructor
  case started =>
    rw [books.nextClaimId]
    exact book.started
  case filed =>
    rw [books.policyClaims, books.nextClaimId]
    exact book.filed
  case existing =>
    intro id
    rw [claimants, books.nextClaimId]
    exact book.existing id

private theorem claimant_update {claims after : Nat → Claim} {claimId : Nat} {claim : Claim}
    (updated : after = Function.update claims claimId claim)
    (same : claim.claimant = (claims claimId).claimant) (id : Nat) :
    (after id).claimant = (claims id).claimant := by
  rw [updated]
  by_cases here : id = claimId
  · subst here
    rw [Function.update_self]
    exact same
  · rw [Function.update_of_ne here]

theorem claimBook_step {self : Address} {world next : World} {call : Call}
    {receipt : Receipt Event} (book : ClaimBook world.registry) (real : call.msg.sender ≠ 0)
    (done : exec self world call = .ok (next, receipt)) : ClaimBook next.registry := by
  rcases exec_cases done with
    ⟨policyId, merkleRoot, amount, policy, consumedSoFar, _, submitted⟩ |
    ⟨claimId, status, _, written⟩ | ⟨claimId, _, paid⟩ | ⟨_, _, claims, books⟩
  · have started := book.started
    constructor
    case started =>
      rw [submitted.nextClaimId]
      omega
    case filed =>
      rw [submitted.policyClaims, submitted.nextClaimId]
      exact book.filed.file started policyId
    case existing =>
      intro id
      rw [submitted.claims, submitted.nextClaimId]
      by_cases new : id = world.registry.nextClaimId
      · rw [new, Function.update_self]
        constructor
        · intro _
          omega
        · intro _
          exact real
      · rw [Function.update_of_ne new, book.existing id]
        omega
  · obtain ⟨processedAt, claims⟩ := written.claims
    exact book.of_sameBooks written.books (claimant_update claims rfl)
  · obtain ⟨processedAt, claims⟩ := paid.claims
    exact book.of_sameBooks paid.books (claimant_update claims rfl)
  · exact book.of_sameBooks books (fun id => by rw [claims])

theorem claimBook_run (deployment : Deployment) (calls : List Call)
    (real : ∀ commit ∈ deployment.history calls, commit.call.msg.sender ≠ 0) :
    ClaimBook (deployment.run calls).registry := by
  refine @run_induction _ _ _ _ (exec deployment.self) (fun world _ => ClaimBook world.registry)
    (fun commit => commit.call.msg.sender ≠ 0) deployment.start
    (claimBook_initialized deployment.args deployment.timestamp) ?_ calls real
  intro world past call next receipt book done sender
  exact claimBook_step book sender done

/-- What a claim was submitted with outlives every call, committed or not. -/
theorem existing_claim_kept {deployment : Deployment} {calls : List Call}
    (fresh : Fresh (deployment.run calls).registry) (call : Call) {claimId : Nat}
    (found : ((deployment.run calls).registry.claims claimId).claimant ≠ 0) :
    ∃ status processedAt, (deployment.run (calls ++ [call])).registry.claims claimId =
      { (deployment.run calls).registry.claims claimId with
        status := status, processedAt := processedAt } := by
  have last : deployment.run (calls ++ [call]) =
      settle (exec deployment.self) (deployment.run calls) call := run_snoc _ _ _
  rw [last]
  cases outcome : exec deployment.self (deployment.run calls) call with
  | error error =>
      rw [settle_of_error outcome]
      exact ⟨_, _, rfl⟩
  | ok result =>
      rw [settle_of_ok outcome]
      exact existing_claim_step fresh outcome found

/-- The lists of all policies partition the ids handed out, every list is
increasing, exactly these ids have a claimant, and no call changes an existing
claim but for its status and its processing time.  Nobody can send from the zero
address. -/
theorem claims_are_filed_once (deployment : Deployment) (calls : List Call)
    (real : ∀ commit ∈ deployment.history calls, commit.call.msg.sender ≠ 0) :
    (∀ id, 1 ≤ id → id < (deployment.run calls).registry.nextClaimId →
      ∃! policyId, id ∈ (deployment.run calls).registry.policyClaims policyId) ∧
    (∀ policyId, ∀ id ∈ (deployment.run calls).registry.policyClaims policyId,
      1 ≤ id ∧ id < (deployment.run calls).registry.nextClaimId ∧
        ((deployment.run calls).registry.policyClaims policyId).count id = 1) ∧
    (∀ policyId, ((deployment.run calls).registry.policyClaims policyId).Pairwise (· < ·)) ∧
    (∀ id, ((deployment.run calls).registry.claims id).claimant ≠ 0 ↔
      1 ≤ id ∧ id < (deployment.run calls).registry.nextClaimId) ∧
    ∀ call claimId, ((deployment.run calls).registry.claims claimId).claimant ≠ 0 →
      ∃ status processedAt, (deployment.run (calls ++ [call])).registry.claims claimId =
        { (deployment.run calls).registry.claims claimId with
          status := status, processedAt := processedAt } := by
  have book := claimBook_run deployment calls real
  refine ⟨?_, ?_, book.filed.ordered, book.existing, ?_⟩
  · intro id started handedOut
    exact book.filed.existsUnique started handedOut
  · intro policyId id member
    obtain ⟨started, handedOut⟩ := (book.filed.filed id).mpr ⟨policyId, member⟩
    exact ⟨started, handedOut, book.filed.count_eq_one member⟩
  · intro call claimId found
    exact existing_claim_kept book.fresh call found

/-- `0xA1` submits claim `1` under policy `7`, which is approved and paid, then
claim `2` under policy `8`. -/
def sampleFiledCalls : List Call :=
  sampleOrderlyCalls ++ [sampleCall 0xA1 (.submitClaim 8 0 300)]

theorem claims_are_filed_once_sample :
    (∀ commit ∈ sampleDeployment.history sampleFiledCalls, commit.call.msg.sender ≠ 0) ∧
      (sampleDeployment.run sampleFiledCalls).registry.nextClaimId = 3 ∧
      ∃! policyId, 2 ∈ (sampleDeployment.run sampleFiledCalls).registry.policyClaims policyId :=
  ⟨by decide, by decide,
    (claims_are_filed_once sampleDeployment sampleFiledCalls (by decide)).1 2 (by decide)
      (by decide)⟩

end Dics.ClaimRegistry
