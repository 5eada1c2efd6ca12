/-
The coverage of a policy as a budget for all of its claims.

`submitClaim` is the only place that compares the claims of a policy with its
coverage.  A rejected claim gives its share back, so a later write that revives
it can overdraw the budget, and a write that takes a claim out of `paid` lets
the same money leave twice.  Without such writes the budget holds for ever.
-/

import Dics.Chain.Insurance
import Dics.Lib.Totals

open Transactions Tokens Words Totals

namespace Dics.ClaimRegistry

def reservedTotal (state : State) (policyId : Nat) : Nat :=
  total Claim.reserved state.claims (state.policyClaims policyId)

private theorem consumed_foldlM (claims : Nat → Claim) (ids : List Nat) (start result : Nat)
    (summed : ids.foldlM
      (fun total id =>
        let claim := claims id
        if claim.status ≠ .rejected then checkedAdd total claim.amount.toNat else some total)
      start = some result) :
    result = start + total Claim.reserved claims ids := by
  induction ids generalizing start with
  | nil =>
      cases summed
      rfl
  | cons id rest ih =>
      obtain ⟨middle, first, remaining⟩ := Option.bind_eq_some_iff.mp summed
      have tail := ih middle remaining
      dsimp only at first
      have head : middle = start + (claims id).reserved := by
        unfold Claim.reserved
        by_cases rejected : (claims id).status = .rejected
        · rw [if_neg (not_not.mpr rejected)] at first
          rw [if_pos rejected]
          exact (Option.some.inj first).symm
        · rw [if_pos rejected, checkedAdd_eq_some] at first
          rw [if_neg rejected]
          exact first.2.symm
      have split : total Claim.reserved claims (id :: rest) =
          (claims id).reserved + total Claim.reserved claims rest := rfl
      omega

/-- The loop of `_consumedCoverage` adds up exactly the reserved amounts. -/
theorem consumedCoverage_eq {state : State} {policyId consumed : Nat}
    (summed : consumedCoverage state policyId = some consumed) :
    consumed = reservedTotal state policyId := by
  have counted := consumed_foldlM state.claims (state.policyClaims policyId) 0 consumed summed
  rw [Nat.zero_add] at counted
  exact counted

theorem reserved_le_amount (claim : Claim) : claim.reserved ≤ claim.amount.toNat := by
  unfold Claim.reserved
  split
  · exact Nat.zero_le _
  · exact Nat.le_refl _

theorem reserved_of_not_rejected {claim : Claim} (live : claim.status ≠ .rejected) :
    claim.reserved = claim.amount.toNat := if_neg live

theorem reserved_of_rejected {claim : Claim} (rejected : claim.status = .rejected) :
    claim.reserved = 0 := if_pos rejected

/-- The cast to `uint96` can only lower what a new claim reserves. -/
theorem newClaim_reserved_le (claimId policyId : Nat) (merkleRoot : Bytes32) (amount : Nat)
    (msg : Msg) : (newClaim claimId policyId merkleRoot amount msg).reserved ≤ amount := by
  have narrowed : (BitVec.ofNat 96 amount).toNat ≤ amount := by
    rw [BitVec.toNat_ofNat]
    exact Nat.mod_le _ _
  exact Nat.le_trans (reserved_le_amount _) narrowed

theorem reservedTotal_update_le {before after : State} {policyId claimId bound : Nat}
    {claim : Claim} (distinct : (before.policyClaims policyId).Nodup)
    (claims : after.claims = Function.update before.claims claimId claim)
    (listed : after.policyClaims = before.policyClaims)
    (within : reservedTotal before policyId ≤ bound)
    (fits : claimId ∈ before.policyClaims policyId →
      reservedTotal before policyId + claim.reserved ≤
        bound + (before.claims claimId).reserved) :
    reservedTotal after policyId ≤ bound := by
  unfold reservedTotal at *
  rw [claims, listed]
  by_cases member : claimId ∈ before.policyClaims policyId
  · have trade := total_update_of_mem Claim.reserved before.claims distinct member claim
    have room := fits member
    omega
  · rw [total_update_of_notMem Claim.reserved before.claims member claim]
    exact within

/-! ### The claims of one policy -/

/-- The list of a policy's claims is a list of distinct ids already handed out,
and each of them was paid at most once. -/
structure PolicyLedger (policyId : Nat) (world : World) (past : List Commit) : Prop where
  fresh : Fresh world.registry
  handedOut : ∀ claimId ∈ world.registry.policyClaims policyId,
    claimId < world.registry.nextClaimId
  distinct : (world.registry.policyClaims policyId).Nodup
  unpaid : ∀ claimId, world.registry.nextClaimId ≤ claimId → payoutsFor claimId past = []
  once : ∀ claimId ∈ world.registry.policyClaims policyId, PaidAtMostOnce claimId world past

theorem PolicyLedger.next_notMem {policyId : Nat} {world : World} {past : List Commit}
    (ledger : PolicyLedger policyId world past) :
    world.registry.nextClaimId ∉ world.registry.policyClaims policyId := by
  intro member
  exact Nat.lt_irrefl _ (ledger.handedOut _ member)

theorem nextClaimId_step {self : Address} {world next : World} {call : Call}
    {receipt : Receipt Event} (done : exec self world call = .ok (next, receipt)) :
    world.registry.nextClaimId ≤ next.registry.nextClaimId := by
  rcases exec_cases done with
    ⟨_, _, _, _, _, _, submitted⟩ | ⟨_, _, _, written⟩ | ⟨_, _, paid⟩ | ⟨_, _, _, books⟩
  · rw [submitted.nextClaimId]
    exact Nat.le_succ _
  · exact Nat.le_of_eq written.books.nextClaimId.symm
  · exact Nat.le_of_eq paid.books.nextClaimId.symm
  · exact Nat.le_of_eq books.nextClaimId.symm

theorem payouts_of_unused {self : Address} {world next : World} {call : Call}
    {receipt : Receipt Event} (fresh : Fresh world.registry)
    (done : exec self world call = .ok (next, receipt)) {claimId : Nat}
    (unused : world.registry.nextClaimId ≤ claimId) :
    payouts claimId ⟨world, call, receipt, next⟩ = [] := by
  rcases exec_cases done with
    ⟨_, _, _, _, _, target, _⟩ | ⟨_, _, writes, _⟩ | ⟨paidId, pays, paid⟩ | ⟨_, noPay, _, _⟩
  · exact payouts_of_pays_ne (pays_ne_of_none (pays_of_submits target))
  · exact payouts_of_pays_ne (pays_ne_of_none (pays_of_writes writes))
  · apply payouts_of_pays_ne
    intro paysUnused
    have same : paidId = claimId := Option.some.inj (pays.symm.trans paysUnused)
    have handedOut := fresh.lt_next paid.found
    omega
  · exact payouts_of_pays_ne (pays_ne_of_none noPay)

theorem policyClaims_step {self : Address} {world next : World} {call : Call}
    {receipt : Receipt Event} (done : exec self world call = .ok (next, receipt))
    (policyId : Nat) :
    (next.registry.policyClaims policyId = world.registry.policyClaims policyId ++
        [world.registry.nextClaimId] ∧
      next.registry.nextClaimId = world.registry.nextClaimId + 1) ∨
    next.registry.policyClaims policyId = world.registry.policyClaims policyId := by
  rcases exec_cases done with
    ⟨submittedOn, _, _, _, _, _, submitted⟩ | ⟨_, _, _, written⟩ | ⟨_, _, paid⟩ | ⟨_, _, _, books⟩
  · rw [submitted.policyClaims]
    by_cases same : policyId = submittedOn
    · subst same
      rw [Function.update_self]
      exact Or.inl ⟨rfl, submitted.nextClaimId⟩
    · rw [Function.update_of_ne same]
      exact Or.inr rfl
  · rw [written.books.policyClaims]
    exact Or.inr rfl
  · rw [paid.books.policyClaims]
    exact Or.inr rfl
  · rw [books.policyClaims]
    exact Or.inr rfl

theorem policyLedger_step {self : Address} {policyId : Nat} {world next : World}
    {past : List Commit} {call : Call} {receipt : Receipt Event}
    (before : PolicyLedger policyId world past)
    (done : exec self world call = .ok (next, receipt))
    (kept : ∀ claimId ∈ world.registry.policyClaims policyId,
      ¬ReopensPaid claimId world call) :
    PolicyLedger policyId next (past ++ [⟨world, call, receipt, next⟩]) := by
  have fresh := fresh_step before.fresh done
  have grows := nextClaimId_step done
  have unpaid : ∀ claimId, world.registry.nextClaimId ≤ claimId →
      payoutsFor claimId (past ++ [⟨world, call, receipt, next⟩]) = [] := by
    intro claimId unused
    rw [payoutsFor_snoc, before.unpaid claimId unused, List.nil_append]
    exact payouts_of_unused before.fresh done unused
  have once : ∀ claimId ∈ world.registry.policyClaims policyId,
      PaidAtMostOnce claimId next (past ++ [⟨world, call, receipt, next⟩]) := by
    intro claimId member
    exact paidAtMostOnce_step (before.once claimId member) done (kept claimId member)
  have later : ∀ claimId, next.registry.nextClaimId ≤ claimId →
      payoutsFor claimId (past ++ [⟨world, call, receipt, next⟩]) = [] := by
    intro claimId unused
    exact unpaid claimId (Nat.le_trans grows unused)
  rcases policyClaims_step done policyId with ⟨extended, bumped⟩ | same
  · refine ⟨fresh, ?_, ?_, later, ?_⟩
    · intro claimId member
      rw [extended, List.mem_append, List.mem_singleton] at member
      rcases member with old | new
      · have handedOut := before.handedOut claimId old
        omega
      · omega
    · rw [extended]
      exact List.Nodup.append before.distinct (List.nodup_singleton _)
        (List.disjoint_singleton.mpr before.next_notMem)
    · intro claimId member
      rw [extended, List.mem_append, List.mem_singleton] at member
      rcases member with old | new
      · exact once claimId old
      · exact ⟨fresh, Or.inl (unpaid claimId (Nat.le_of_eq new.symm))⟩
  · refine ⟨fresh, ?_, ?_, later, ?_⟩
    · intro claimId member
      rw [same] at member
      exact Nat.lt_of_lt_of_le (before.handedOut claimId member) grows
    · rw [same]
      exact before.distinct
    · intro claimId member
      rw [same] at member
      exact once claimId member

theorem PolicyLedger.of_same_registry {policyId : Nat} {world next : World}
    {past : List Commit} (ledger : PolicyLedger policyId world past)
    (same : next.registry = world.registry) : PolicyLedger policyId next past := by
  cases world
  cases next
  cases same
  exact ⟨ledger.fresh, ledger.handedOut, ledger.distinct, ledger.unpaid,
    fun claimId member => ⟨ledger.fresh, (ledger.once claimId member).payments⟩⟩

/-- A submission leaves its policy within the coverage it was checked against,
and every other policy as it was. -/
theorem reservedTotal_submitted {policyId submittedOn amount consumedSoFar : Nat}
    {merkleRoot : Bytes32} {policy : Policy} {world next : World} {past : List Commit}
    {msg : Msg} {registries : Address → PolicyRegistry} {receipt : Receipt Event}
    (ledger : PolicyLedger policyId world past)
    (submitted : Submitted world msg registries submittedOn merkleRoot amount policy
      consumedSoFar next receipt) :
    (policyId = submittedOn →
      reservedTotal next.registry policyId ≤ policy.coverageAmount.toNat) ∧
    (policyId ≠ submittedOn →
      reservedTotal next.registry policyId = reservedTotal world.registry policyId) := by
  have others := total_update_of_notMem Claim.reserved world.registry.claims
    ledger.next_notMem (newClaim world.registry.nextClaimId submittedOn merkleRoot amount msg)
  constructor
  · intro same
    subst same
    have consumed := consumedCoverage_eq submitted.consumed
    have covered := submitted.covered
    have narrowed := newClaim_reserved_le world.registry.nextClaimId policyId merkleRoot
      amount msg
    have grown : reservedTotal next.registry policyId =
        reservedTotal world.registry policyId +
          (newClaim world.registry.nextClaimId policyId merkleRoot amount msg).reserved := by
      unfold reservedTotal
      rw [submitted.claims, submitted.policyClaims, Function.update_self, total_snoc, others,
        Function.update_self]
    omega
  · intro different
    unfold reservedTotal
    rw [submitted.claims, submitted.policyClaims, Function.update_of_ne different, others]

/-- One call keeps the reserved amounts within a bound, if the bound covers what
a submission is checked against and leaves room for what is revived. -/
theorem reservedTotal_step {self : Address} {policyId bound : Nat} {world next : World}
    {past : List Commit} {call : Call} {receipt : Receipt Event}
    (ledger : PolicyLedger policyId world past)
    (done : exec self world call = .ok (next, receipt))
    (within : reservedTotal world.registry policyId ≤ bound)
    (checked : ∀ policy,
      (call.registries world.registry.policyRegistry).getPolicy policyId = some policy →
      policy.coverageAmount.toNat ≤ bound)
    (room : ∀ claimId status, call.writes = some (claimId, status) →
      claimId ∈ world.registry.policyClaims policyId →
      (world.registry.claims claimId).status = .rejected → status ≠ .rejected →
      reservedTotal world.registry policyId + (world.registry.claims claimId).amount.toNat ≤
        bound) :
    reservedTotal next.registry policyId ≤ bound := by
  rcases exec_cases done with
    ⟨submittedOn, merkleRoot, amount, policy, consumedSoFar, _, submitted⟩ |
    ⟨claimId, status, writes, written⟩ | ⟨claimId, _, paid⟩ | ⟨_, _, claims, books⟩
  · obtain ⟨onPolicy, elsewhere⟩ := reservedTotal_submitted ledger submitted
    by_cases same : policyId = submittedOn
    · have covered := onPolicy same
      subst same
      exact Nat.le_trans covered (checked policy submitted.found)
    · rw [elsewhere same]
      exact within
  · obtain ⟨processedAt, claims⟩ := written.claims
    apply reservedTotal_update_le ledger.distinct claims written.books.policyClaims within
    intro member
    have bounded := reserved_le_amount
      { world.registry.claims claimId with status := status, processedAt := processedAt }
    change _ ≤ (world.registry.claims claimId).amount.toNat at bounded
    by_cases rejected : (world.registry.claims claimId).status = .rejected
    · rw [reserved_of_rejected rejected]
      by_cases stays : status = .rejected
      · rw [reserved_of_rejected stays]
        exact within
      · have fits := room claimId status writes member rejected stays
        omega
    · rw [reserved_of_not_rejected rejected]
      omega
  · obtain ⟨processedAt, claims⟩ := paid.claims
    apply reservedTotal_update_le ledger.distinct claims paid.books.policyClaims within
    intro _member
    have live : (world.registry.claims claimId).status ≠ .rejected := by
      rw [paid.approved]
      decide
    have bounded := reserved_le_amount
      { world.registry.claims claimId with status := .paid, processedAt := processedAt }
    change _ ≤ (world.registry.claims claimId).amount.toNat at bounded
    rw [reserved_of_not_rejected live]
    omega
  · unfold reservedTotal at within ⊢
    rw [claims, books.policyClaims]
    exact within

theorem PolicyLedger.paid_le_reserved {policyId : Nat} {world : World} {past : List Commit}
    (ledger : PolicyLedger policyId world past) :
    total id (fun claimId => totalPaid claimId past) (world.registry.policyClaims policyId) ≤
      reservedTotal world.registry policyId := by
  apply total_le_total
  intro claimId member
  rcases (ledger.once claimId member).payments with nothing | ⟨movement, once, exact, paid, _⟩
  · simp only [totalPaid, nothing, List.map_nil, List.sum_nil, id, Nat.zero_le]
  · have live : (world.registry.claims claimId).status ≠ .rejected := by
      rw [paid]
      decide
    rw [reserved_of_not_rejected live]
    simp only [totalPaid, once, List.map_cons, List.map_nil, List.sum_singleton, id, exact,
      Nat.le_refl]

end Dics.ClaimRegistry

namespace Dics.Insurance

open ClaimRegistry (PolicyLedger totalPaid reservedTotal)

variable {addresses : Addresses}

def coverage (world : World) (policyId : Nat) : Nat :=
  (world.policy.policies policyId).coverageAmount.toNat

def totalPaidOn (policyId : Nat) (world : World) (commits : List (Commit addresses)) : Nat :=
  total id (fun claimId => totalPaid claimId (registryHistory commits))
    (world.registry.policyClaims policyId)

/-- A status write on a claim of the policy that takes it out of `paid`, or that
revives it from `rejected` although its amount does not fit into the coverage
any more. -/
def Overdraws (policyId : Nat) (before : World) (call : Call addresses) : Prop :=
  ∃ write ∈ call.writes, write.1 ∈ before.registry.policyClaims policyId ∧
    (((before.registry.claims write.1).status = .paid ∧ write.2 ≠ .paid) ∨
      ((before.registry.claims write.1).status = .rejected ∧ write.2 ≠ .rejected ∧
        coverage before policyId <
          reservedTotal before.registry policyId + (before.registry.claims write.1).amount.toNat))

instance (policyId : Nat) (before : World) (call : Call addresses) :
    Decidable (Overdraws policyId before call) :=
  inferInstanceAs (Decidable (∃ write ∈ call.writes, _))

structure KeepsBudget (policyId : Nat) (commit : Commit addresses) : Prop where
  pointer : commit.after.registry.policyRegistry = commit.before.registry.policyRegistry
  coverage : coverage commit.before policyId ≤ coverage commit.after policyId
  orderly : ¬Overdraws policyId commit.before commit.call

structure WithinBudget (policyId : Nat) (world : World) (past : List (Commit addresses)) :
    Prop where
  unapproved : world.tokens.Unapproved addresses.registry
  pointed : world.registry.policyRegistry = addresses.policy
  ledger : PolicyLedger policyId world.claims (registryHistory past)
  reserved : reservedTotal world.registry policyId ≤ coverage world policyId

theorem withinBudget_start (deployment : Deployment) (policyId : Nat) :
    @WithinBudget deployment.addresses policyId deployment.start [] where
  unapproved := deployment.unapproved
  pointed := deployment.pointed
  ledger :=
    { fresh := ClaimRegistry.fresh_initialized _ _
      handedOut := fun _ member => nomatch member
      distinct := List.nodup_nil
      unpaid := fun _ _ => rfl
      once := fun _ member => nomatch member }
  reserved := Nat.zero_le _

private theorem withinBudget_step {policyId : Nat} {world next : World}
    {past : List (Commit addresses)} {call : Call addresses} {receipt : Receipt Event}
    (before : WithinBudget policyId world past)
    (done : exec addresses world call = .ok (next, receipt))
    (allowed : KeepsBudget policyId ⟨world, call, receipt, next⟩) :
    WithinBudget policyId next (past ++ [⟨world, call, receipt, next⟩]) := by
  have unapproved := unapproved_step before.unapproved done
  have pointed := allowed.pointer.trans before.pointed
  rcases exec_cases before.unapproved done with
    ⟨fn, own, target, samePolicy, committed, _, _, recorded⟩ | ⟨bypassed, _, same, _⟩
  · have asked : (call.onRegistry world (.registry fn)).writes = call.writes := by
      rw [Call.writes, target]
      rfl
    have ledger : PolicyLedger policyId next.claims
        (registryHistory (past ++ [⟨world, call, receipt, next⟩])) := by
      rw [registryHistory_snoc, recorded]
      apply ClaimRegistry.policyLedger_step before.ledger committed
      rintro claimId member ⟨paid, write, writes, sameClaim, leaves⟩
      rw [asked] at writes
      subst sameClaim
      exact allowed.orderly ⟨write, writes, member, Or.inl ⟨paid, leaves⟩⟩
    have kept : coverage next policyId = coverage world policyId := by
      rw [coverage, samePolicy]
      rfl
    refine ⟨unapproved, pointed, ledger, ?_⟩
    rw [kept]
    refine ClaimRegistry.reservedTotal_step before.ledger committed before.reserved ?_ ?_
    · intro policy found
      change (call.registries world world.registry.policyRegistry).getPolicy policyId =
        some policy at found
      rw [before.pointed, registries_policy] at found
      have stored := (InsurancePolicy.getPolicy_eq_some.mp found).2
      rw [coverage, stored]
    · intro claimId status writes member rejected live
      rw [asked] at writes
      by_contra tooMuch
      exact allowed.orderly ⟨(claimId, status), writes, member,
        Or.inr ⟨rejected, live, Nat.lt_of_not_le tooMuch⟩⟩
  · have sameHistory : registryHistory (past ++ [⟨world, call, receipt, next⟩]) =
        registryHistory past := by
      rw [registryHistory_snoc, bypassed, List.append_nil]
    refine ⟨unapproved, pointed, ?_, ?_⟩
    · rw [sameHistory]
      exact before.ledger.of_same_registry same
    · rw [same]
      exact Nat.le_trans before.reserved allowed.coverage

/-- In every run that never lowers the coverage of a policy, keeps the registry
pointed and makes no overdrawing write, the claims of the policy that are not
rejected fit into its coverage, and so does everything ever paid on it. -/
theorem claims_fit_coverage (deployment : Deployment)
    (calls : List (Call deployment.addresses)) (policyId : Nat)
    (notRepointed : ∀ commit ∈ deployment.history calls,
      commit.after.registry.policyRegistry = commit.before.registry.policyRegistry)
    (notLowered : ∀ commit ∈ deployment.history calls,
      coverage commit.before policyId ≤ coverage commit.after policyId)
    (orderly : ∀ commit ∈ deployment.history calls,
      ¬Overdraws policyId commit.before commit.call) :
    reservedTotal (deployment.run calls).registry policyId ≤
        coverage (deployment.run calls) policyId ∧
      totalPaidOn policyId (deployment.run calls) (deployment.history calls) ≤
        coverage (deployment.run calls) policyId := by
  have invariant : WithinBudget policyId (deployment.run calls) (deployment.history calls) := by
    have allowed : ∀ commit ∈ deployment.history calls, KeepsBudget policyId commit :=
      fun commit member => ⟨notRepointed commit member, notLowered commit member,
        orderly commit member⟩
    refine run_induction (withinBudget_start deployment policyId) ?_ calls allowed
    intro world past call next receipt before done allowed
    exact withinBudget_step before done allowed
  have paid : totalPaidOn policyId (deployment.run calls) (deployment.history calls) ≤
      reservedTotal (deployment.run calls).registry policyId :=
    invariant.ledger.paid_le_reserved
  exact ⟨invariant.reserved, Nat.le_trans paid invariant.reserved⟩

/-- `0xA1` claims `500` of the `900` twice; the second claim is accepted after
the first was rejected, and is paid. -/
def sampleBudgetCalls : List (Call sampleAddresses) :=
  sampleSetupCalls ++
    [holderCall (.registry (.submitClaim 7 0 500)),
     underwriterCall (.registry (.setClaimStatus 1 .rejected)),
     holderCall (.registry (.submitClaim 7 0 500)),
     underwriterCall (.registry (.setClaimStatus 2 .approved)),
     underwriterCall (.registry (.payoutClaim 2))]

theorem claims_fit_coverage_sample :
    ((∀ commit ∈ sampleDeployment.history sampleBudgetCalls,
        commit.after.registry.policyRegistry = commit.before.registry.policyRegistry) ∧
      (∀ commit ∈ sampleDeployment.history sampleBudgetCalls,
        coverage commit.before 7 ≤ coverage commit.after 7) ∧
      ∀ commit ∈ sampleDeployment.history sampleBudgetCalls,
        ¬Overdraws 7 commit.before commit.call) ∧
    reservedTotal (sampleDeployment.run sampleBudgetCalls).registry 7 ≤
        coverage (sampleDeployment.run sampleBudgetCalls) 7 ∧
      totalPaidOn 7 (sampleDeployment.run sampleBudgetCalls)
          (sampleDeployment.history sampleBudgetCalls) ≤
        coverage (sampleDeployment.run sampleBudgetCalls) 7 :=
  ⟨⟨by decide, by decide, by decide⟩,
    claims_fit_coverage sampleDeployment sampleBudgetCalls 7 (by decide) (by decide) (by decide)⟩

/-- The underwriter changes its mind about the rejected claim and pays it too. -/
def sampleOverdrawnCalls : List (Call sampleAddresses) :=
  sampleBudgetCalls ++
    [underwriterCall (.registry (.setClaimStatus 1 .approved)),
     underwriterCall (.registry (.payoutClaim 1))]

theorem revived_claim_exceeds_coverage :
    (∀ commit ∈ sampleDeployment.history sampleOverdrawnCalls,
        commit.after.registry.policyRegistry = commit.before.registry.policyRegistry) ∧
      (∀ commit ∈ sampleDeployment.history sampleOverdrawnCalls,
        coverage commit.before 7 ≤ coverage commit.after 7) ∧
      ¬reservedTotal (sampleDeployment.run sampleOverdrawnCalls).registry 7 ≤
        coverage (sampleDeployment.run sampleOverdrawnCalls) 7 ∧
      ¬totalPaidOn 7 (sampleDeployment.run sampleOverdrawnCalls)
          (sampleDeployment.history sampleOverdrawnCalls) ≤
        coverage (sampleDeployment.run sampleOverdrawnCalls) 7 := by
  decide

end Dics.Insurance
