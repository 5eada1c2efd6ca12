/-
How often, and for what, the ClaimRegistry pays.

`payoutClaim` and `releaseStuckPayout` look at the present status only.  A
claim is therefore paid at most once in every run that never rewrites the
status of a paid claim, and `paid` records a transfer in every run in which no
caller writes `paid` by hand.  Both promises fail without these conditions, as
the two runs at the end of each section show.
-/

import Dics.Chain.RegistryRuns

open Transactions Tokens Words

namespace Dics.ClaimRegistry

def payouts (claimId : Nat) (commit : Commit) : List (Movement Address) :=
  if commit.call.pays = some claimId then commit.output.movements else []

def payoutsFor (claimId : Nat) (commits : List Commit) : List (Movement Address) :=
  commits.flatMap (payouts claimId)

def totalPaid (claimId : Nat) (commits : List Commit) : Nat :=
  ((payoutsFor claimId commits).map Movement.amount).sum

theorem payoutsFor_snoc (claimId : Nat) (past : List Commit) (commit : Commit) :
    payoutsFor claimId (past ++ [commit]) = payoutsFor claimId past ++ payouts claimId commit := by
  simp only [payoutsFor, List.flatMap_append, List.flatMap_cons, List.flatMap_nil,
    List.append_nil]

theorem payouts_of_pays_ne {claimId : Nat} {commit : Commit}
    (other : commit.call.pays ≠ some claimId) : payouts claimId commit = [] :=
  if_neg other

theorem payouts_of_paid {self : Address} {claimId : Nat} {world next : World} {call : Call}
    {receipt : Receipt Event} (pays : call.pays = some claimId)
    (paid : PaidOut self world claimId next receipt) :
    payouts claimId ⟨world, call, receipt, next⟩ = [payment self world.registry claimId] := by
  rw [payouts, if_pos pays]
  exact paid.movements

theorem pays_ne_of_none {call : Call} {claimId : Nat} (nothing : call.pays = none) :
    call.pays ≠ some claimId := by
  intro pays
  rw [nothing] at pays
  cases pays

theorem pays_of_submits {call : Call} {policyId amount : Nat} {merkleRoot : Bytes32}
    (target : call.target = .registry (.submitClaim policyId merkleRoot amount)) :
    call.pays = none := by
  rw [Call.pays, target]
  rfl

theorem pays_of_writes {call : Call} {claimId : Nat} {status : ClaimStatus}
    (writes : call.writes = some (claimId, status)) : call.pays = none := by
  unfold Call.writes at writes
  unfold Call.pays
  cases target : call.target with
  | token token act => rfl
  | registry fn =>
      rw [target] at writes
      cases fn <;> first | rfl | cases writes

/-! ### At most one payout -/

/-- A status write that takes a paid claim out of `paid`. -/
def ReopensPaid (claimId : Nat) (before : World) (call : Call) : Prop :=
  (before.registry.claims claimId).status = .paid ∧
    ∃ write ∈ call.writes, write.1 = claimId ∧ write.2 ≠ .paid

instance (claimId : Nat) (before : World) (call : Call) :
    Decidable (ReopensPaid claimId before call) :=
  inferInstanceAs (Decidable (_ ∧ _))

/-- Nothing was paid for the claim yet, or exactly its stored amount was and
the claim says so. -/
structure PaidAtMostOnce (claimId : Nat) (world : World) (past : List Commit) : Prop where
  fresh : Fresh world.registry
  payments : payoutsFor claimId past = [] ∨
    ∃ movement, payoutsFor claimId past = [movement] ∧
      movement.amount = (world.registry.claims claimId).amount.toNat ∧
      (world.registry.claims claimId).status = .paid ∧
      (world.registry.claims claimId).claimant ≠ 0

private theorem PaidAtMostOnce.of_untouched {claimId : Nat} {world : World}
    {past : List Commit} (before : PaidAtMostOnce claimId world past) {call : Call}
    {receipt : Receipt Event} {next : World} (fresh : Fresh next.registry)
    (unpaid : call.pays ≠ some claimId)
    (kept : (world.registry.claims claimId).claimant ≠ 0 →
      (world.registry.claims claimId).status = .paid →
      next.registry.claims claimId = world.registry.claims claimId) :
    PaidAtMostOnce claimId next (past ++ [⟨world, call, receipt, next⟩]) := by
  refine ⟨fresh, ?_⟩
  rw [payoutsFor_snoc, payouts_of_pays_ne unpaid, List.append_nil]
  rcases before.payments with nothing | ⟨movement, once, exact, paid, found⟩
  · exact Or.inl nothing
  · have same := kept found paid
    rw [same]
    exact Or.inr ⟨movement, once, exact, paid, found⟩

theorem paidAtMostOnce_step {self : Address} {claimId : Nat} {world next : World}
    {past : List Commit} {call : Call} {receipt : Receipt Event}
    (before : PaidAtMostOnce claimId world past)
    (done : exec self world call = .ok (next, receipt))
    (kept : ¬ReopensPaid claimId world call) :
    PaidAtMostOnce claimId next (past ++ [⟨world, call, receipt, next⟩]) := by
  have fresh := fresh_step before.fresh done
  rcases exec_cases done with
    ⟨policyId, merkleRoot, amount, policy, consumedSoFar, target, submitted⟩ |
    ⟨written, status, writes, write⟩ | ⟨paidId, pays, paid⟩ | ⟨_, noPay, claims, _⟩
  · have noPay : call.pays ≠ some claimId := pays_ne_of_none (pays_of_submits target)
    apply before.of_untouched fresh noPay
    intro found _paid
    rw [submitted.claims, Function.update_of_ne (before.fresh.ne_next found)]
  · have noPay : call.pays ≠ some claimId := pays_ne_of_none (pays_of_writes writes)
    obtain ⟨processedAt, claims⟩ := write.claims
    by_cases same : claimId = written
    · subst same
      refine ⟨fresh, ?_⟩
      rw [payoutsFor_snoc, payouts_of_pays_ne noPay, List.append_nil, claims,
        Function.update_self]
      rcases before.payments with nothing | ⟨movement, once, exact, paid, found⟩
      · exact Or.inl nothing
      · have stays : status = .paid := by
          by_contra leaves
          exact kept ⟨paid, (claimId, status), writes, rfl, leaves⟩
        exact Or.inr ⟨movement, once, exact, stays, found⟩
    · apply before.of_untouched fresh noPay
      intro _found _paid
      rw [claims, Function.update_of_ne same]
  · obtain ⟨processedAt, claims⟩ := paid.claims
    by_cases same : claimId = paidId
    · subst same
      -- An approved claim was not paid before, so this payment is the first.
      rcases before.payments with nothing | ⟨movement, _, _, alreadyPaid, _⟩
      · refine ⟨fresh, Or.inr ⟨payment self world.registry claimId, ?_, ?_⟩⟩
        · rw [payoutsFor_snoc, nothing, List.nil_append]
          exact payouts_of_paid pays paid
        · rw [claims, Function.update_self]
          exact ⟨rfl, rfl, paid.found⟩
      · rw [paid.approved] at alreadyPaid
        cases alreadyPaid
    · have noPay : call.pays ≠ some claimId := by
        rw [pays]
        exact fun equal => same (Option.some.inj equal).symm
      apply before.of_untouched fresh noPay
      intro _found _paid
      rw [claims, Function.update_of_ne same]
  · apply before.of_untouched fresh (pays_ne_of_none noPay)
    intro _found _paid
    rw [claims]

/-- In every run that leaves the status of a paid claim alone, at most one
transfer is made for the claim, and never more than its stored amount. -/
theorem paid_at_most_once (deployment : Deployment) (calls : List Call) (claimId : Nat)
    (kept : ∀ commit ∈ deployment.history calls,
      ¬ReopensPaid claimId commit.before commit.call) :
    (payoutsFor claimId (deployment.history calls)).length ≤ 1 ∧
      totalPaid claimId (deployment.history calls) ≤
        ((deployment.run calls).registry.claims claimId).amount.toNat := by
  have invariant : PaidAtMostOnce claimId (deployment.run calls) (deployment.history calls) := by
    refine run_induction ⟨fresh_initialized _ _, Or.inl rfl⟩ ?_ calls kept
    intro world past call next receipt before done allowed
    exact paidAtMostOnce_step before done allowed
  unfold totalPaid
  rcases invariant.payments with nothing | ⟨movement, once, exact, _, _⟩
  · rw [nothing]
    exact ⟨Nat.zero_le _, Nat.zero_le _⟩
  · rw [once, ← exact]
    exact ⟨Nat.le_refl _, Nat.le_of_eq (Nat.add_zero _)⟩

theorem paid_at_most_once_orderly :
    (∀ commit ∈ sampleDeployment.history sampleOrderlyCalls,
      ¬ReopensPaid 1 commit.before commit.call) ∧
    (payoutsFor 1 (sampleDeployment.history sampleOrderlyCalls)).length ≤ 1 ∧
      totalPaid 1 (sampleDeployment.history sampleOrderlyCalls) ≤
        ((sampleDeployment.run sampleOrderlyCalls).registry.claims 1).amount.toNat :=
  ⟨by decide, paid_at_most_once sampleDeployment sampleOrderlyCalls 1 (by decide)⟩

/-- The underwriter approves the paid claim once more and pays it again. -/
def sampleDoublePayoutCalls : List Call :=
  sampleOrderlyCalls ++
    [sampleCall 0xD1 (.setClaimStatus 1 .approved),
     sampleCall 0xD1 (.payoutClaim 1)]

theorem reopened_claim_paid_twice :
    ¬(payoutsFor 1 (sampleDeployment.history sampleDoublePayoutCalls)).length ≤ 1 ∧
      ¬totalPaid 1 (sampleDeployment.history sampleDoublePayoutCalls) ≤
        ((sampleDeployment.run sampleDoublePayoutCalls).registry.claims 1).amount.toNat := by
  decide

/-! ### Paid means transferred -/

/-- A status write that sets `paid` by hand on a claim that was not paid. -/
def MarksPaid (claimId : Nat) (before : World) (call : Call) : Prop :=
  (before.registry.claims claimId).status ≠ .paid ∧ call.writes = some (claimId, .paid)

instance (claimId : Nat) (before : World) (call : Call) :
    Decidable (MarksPaid claimId before call) :=
  inferInstanceAs (Decidable (_ ∧ _))

/-- A paid claim exists, and some earlier commit made exactly its transfer. -/
structure PaidRecordsTransfer (here : Address) (claimId : Nat) (world : World)
    (past : List Commit) : Prop where
  fresh : Fresh world.registry
  transferred : (world.registry.claims claimId).status = .paid →
    (world.registry.claims claimId).claimant ≠ 0 ∧
      payment here world.registry claimId ∈ payoutsFor claimId past

theorem payment_step {self : Address} {world next : World} {call : Call}
    {receipt : Receipt Event} (fresh : Fresh world.registry)
    (done : exec self world call = .ok (next, receipt)) {claimId : Nat}
    (found : (world.registry.claims claimId).claimant ≠ 0) :
    payment self next.registry claimId = payment self world.registry claimId := by
  rcases existing_claim_step fresh done found with ⟨status, processedAt, same⟩
  simp only [payment, payoutToken_step done, same]

private theorem paidRecordsTransfer_step {self : Address} {claimId : Nat}
    {world next : World} {past : List Commit} {call : Call} {receipt : Receipt Event}
    (before : PaidRecordsTransfer self claimId world past)
    (done : exec self world call = .ok (next, receipt))
    (kept : ¬MarksPaid claimId world call) :
    PaidRecordsTransfer self claimId next (past ++ [⟨world, call, receipt, next⟩]) := by
  refine ⟨fresh_step before.fresh done, ?_⟩
  intro paidAfter
  rw [payoutsFor_snoc]
  by_cases pays : call.pays = some claimId ∧ PaidOut self world claimId next receipt
  · rcases existing_claim_step before.fresh done pays.2.found with ⟨status, processedAt, same⟩
    rw [payment_step before.fresh done pays.2.found, payouts_of_paid pays.1 pays.2, same]
    exact ⟨pays.2.found, List.mem_append_right _ (List.mem_singleton.mpr rfl)⟩
  · have paidBefore : (world.registry.claims claimId).status = .paid := by
      rcases exec_cases done with
        ⟨policyId, merkleRoot, amount, policy, consumedSoFar, _, submitted⟩ |
        ⟨written, status, writes, write⟩ | ⟨paidId, paysId, paid⟩ | ⟨_, _, claims, _⟩
      · rw [submitted.claims] at paidAfter
        by_cases new : claimId = world.registry.nextClaimId
        · subst new
          rw [Function.update_self] at paidAfter
          cases paidAfter
        · rw [Function.update_of_ne new] at paidAfter
          exact paidAfter
      · rcases write.claims with ⟨processedAt, claims⟩
        rw [claims] at paidAfter
        by_cases same : claimId = written
        · subst same
          rw [Function.update_self] at paidAfter
          have statusPaid : status = .paid := paidAfter
          rw [statusPaid] at writes
          by_contra unpaid
          exact kept ⟨unpaid, writes⟩
        · rw [Function.update_of_ne same] at paidAfter
          exact paidAfter
      · rcases paid.claims with ⟨processedAt, claims⟩
        rw [claims] at paidAfter
        by_cases same : claimId = paidId
        · subst same
          exact absurd ⟨paysId, paid⟩ pays
        · rw [Function.update_of_ne same] at paidAfter
          exact paidAfter
      · rw [claims] at paidAfter
        exact paidAfter
    have earlier := before.transferred paidBefore
    rcases existing_claim_step before.fresh done earlier.1 with ⟨status, processedAt, same⟩
    rw [payment_step before.fresh done earlier.1, same]
    exact ⟨earlier.1, List.mem_append_left _ earlier.2⟩

/-- In every run in which nobody writes `paid` by hand, a paid claim was paid:
some committed call moved exactly the stored amount of the payout token from
the registry to the stored claimant for that claim. -/
theorem paid_was_transferred (deployment : Deployment) (calls : List Call) (claimId : Nat)
    (kept : ∀ commit ∈ deployment.history calls,
      ¬MarksPaid claimId commit.before commit.call)
    (paid : ((deployment.run calls).registry.claims claimId).status = .paid) :
    payment deployment.self (deployment.run calls).registry claimId ∈
      payoutsFor claimId (deployment.history calls) := by
  have invariant : PaidRecordsTransfer deployment.self claimId (deployment.run calls)
      (deployment.history calls) := by
    have initial : PaidRecordsTransfer deployment.self claimId deployment.start [] :=
      ⟨fresh_initialized _ _, fun impossible => by cases impossible⟩
    refine run_induction initial ?_ calls kept
    intro world past call next receipt before done allowed
    exact paidRecordsTransfer_step before done allowed
  exact (invariant.transferred paid).2

theorem paid_was_transferred_orderly :
    (∀ commit ∈ sampleDeployment.history sampleOrderlyCalls,
      ¬MarksPaid 1 commit.before commit.call) ∧
    ((sampleDeployment.run sampleOrderlyCalls).registry.claims 1).status = .paid ∧
    payment sampleDeployment.self (sampleDeployment.run sampleOrderlyCalls).registry 1 ∈
      payoutsFor 1 (sampleDeployment.history sampleOrderlyCalls) :=
  ⟨by decide, by decide,
    paid_was_transferred sampleDeployment sampleOrderlyCalls 1 (by decide) (by decide)⟩

/-- The underwriter marks the submitted claim paid without paying it. -/
def sampleHandMarkedCalls : List Call :=
  [sampleCall 0xAD (.changeRole (.grantRole .underwriter 0xD1)),
   sampleCall 0xA1 (.submitClaim 7 0 500),
   sampleCall 0xD1 (.setClaimStatus 1 .paid)]

theorem hand_marked_claim_never_paid :
    ((sampleDeployment.run sampleHandMarkedCalls).registry.claims 1).status = .paid ∧
      payoutsFor 1 (sampleDeployment.history sampleHandMarkedCalls) = [] ∧
      ¬payment sampleDeployment.self (sampleDeployment.run sampleHandMarkedCalls).registry 1 ∈
        payoutsFor 1 (sampleDeployment.history sampleHandMarkedCalls) := by
  decide

end Dics.ClaimRegistry
