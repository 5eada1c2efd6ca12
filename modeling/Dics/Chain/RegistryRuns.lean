/-
Whole runs of the ClaimRegistry.

A run starts from a registry as `initialize` leaves it and makes any calls in
any order.  The status field is written on request by two roles without a look
at its present value, so what a run guarantees about payouts depends on the
status writes it contains.
-/

import Dics.Chain.RegistryCalls

open Transactions Tokens Words

namespace Dics.ClaimRegistry

abbrev Commit := Transactions.Commit World Call (Receipt Event)

structure Deployment where
  self : Address
  args : InitArgs
  timestamp : Nat
  tokens : Bank Address

def Deployment.start (deployment : Deployment) : World :=
  { registry := initialized deployment.args deployment.timestamp
    tokens := deployment.tokens }

def Deployment.run (deployment : Deployment) (calls : List Call) : World :=
  Transactions.run (exec deployment.self) deployment.start calls

def Deployment.history (deployment : Deployment) (calls : List Call) : List Commit :=
  Transactions.history (exec deployment.self) deployment.start calls

def Call.writes (call : Call) : Option (Nat × ClaimStatus) :=
  match call.target with
  | .registry fn => fn.writes
  | .token _ _ => none

def Call.pays (call : Call) : Option Nat :=
  match call.target with
  | .registry fn => fn.pays
  | .token _ _ => none

/-- Every committed transaction, token calls included, as seen from the
claims. -/
theorem exec_cases {self : Address} {world next : World} {call : Call}
    {receipt : Receipt Event} (done : exec self world call = .ok (next, receipt)) :
    (∃ policyId merkleRoot amount policy consumedSoFar,
      call.target = .registry (.submitClaim policyId merkleRoot amount) ∧
        Submitted world call.msg call.registries policyId merkleRoot amount policy
          consumedSoFar next receipt) ∨
    (∃ claimId status, call.writes = some (claimId, status) ∧
      StatusWritten world claimId status next receipt) ∨
    (∃ claimId, call.pays = some claimId ∧ PaidOut self world claimId next receipt) ∨
    (call.writes = none ∧ call.pays = none ∧ next.registry.claims = world.registry.claims ∧
      SameBooks world.registry next.registry) := by
  unfold exec at done
  cases target : call.target with
  | registry fn =>
      rw [target] at done
      rcases callFn_cases done with
        ⟨policyId, merkleRoot, amount, policy, consumedSoFar, rfl, submitted⟩ |
        ⟨claimId, status, writes, written⟩ | ⟨claimId, pays, paid⟩ |
        ⟨noWrite, noPay, administered⟩
      · exact Or.inl ⟨policyId, merkleRoot, amount, policy, consumedSoFar, rfl, submitted⟩
      · refine Or.inr (Or.inl ⟨claimId, status, ?_, written⟩)
        rw [Call.writes, target]
        exact writes
      · refine Or.inr (Or.inr (Or.inl ⟨claimId, ?_, paid⟩))
        rw [Call.pays, target]
        exact pays
      · refine Or.inr (Or.inr (Or.inr ⟨?_, ?_, administered.claims, administered.books⟩))
        · rw [Call.writes, target]
          exact noWrite
        · rw [Call.pays, target]
          exact noPay
  | token token act =>
      rw [target] at done
      obtain ⟨⟨_, _⟩, _, same⟩ := bind_eq_ok.mp done
      cases same
      refine Or.inr (Or.inr (Or.inr ⟨?_, ?_, rfl, SameBooks.refl _⟩))
      · rw [Call.writes, target]
      · rw [Call.pays, target]

/-! ### Claims keep their identity -/

def Fresh (state : State) : Prop :=
  ∀ id, state.nextClaimId ≤ id → (state.claims id).claimant = 0

theorem fresh_initialized (args : InitArgs) (timestamp : Nat) :
    Fresh (initialized args timestamp) := by
  intro id _unused
  rfl

theorem Fresh.lt_next {state : State} (fresh : Fresh state) {claimId : Nat}
    (found : (state.claims claimId).claimant ≠ 0) : claimId < state.nextClaimId := by
  by_contra beyond
  exact found (fresh claimId (Nat.le_of_not_lt beyond))

theorem Fresh.ne_next {state : State} (fresh : Fresh state) {claimId : Nat}
    (found : (state.claims claimId).claimant ≠ 0) : claimId ≠ state.nextClaimId :=
  Nat.ne_of_lt (fresh.lt_next found)

theorem Fresh.of_update {before after : State} (fresh : Fresh before) {claimId : Nat}
    {claim : Claim} (found : (before.claims claimId).claimant ≠ 0)
    (claims : after.claims = Function.update before.claims claimId claim)
    (next : after.nextClaimId = before.nextClaimId) : Fresh after := by
  intro id unused
  rw [next] at unused
  have distinct : id ≠ claimId := by
    have handedOut := fresh.lt_next found
    omega
  rw [claims, Function.update_of_ne distinct]
  exact fresh id unused

theorem fresh_step {self : Address} {world next : World} {call : Call}
    {receipt : Receipt Event} (fresh : Fresh world.registry)
    (done : exec self world call = .ok (next, receipt)) : Fresh next.registry := by
  rcases exec_cases done with
    ⟨policyId, merkleRoot, amount, policy, consumedSoFar, _, submitted⟩ |
    ⟨claimId, status, _, written⟩ | ⟨claimId, _, paid⟩ | ⟨_, _, claims, books⟩
  · intro id unused
    rw [submitted.nextClaimId] at unused
    have distinct : id ≠ world.registry.nextClaimId := by
      intro same
      subst same
      exact Nat.not_succ_le_self _ unused
    rw [submitted.claims, Function.update_of_ne distinct]
    exact fresh id (Nat.le_of_succ_le unused)
  · obtain ⟨processedAt, claims⟩ := written.claims
    exact fresh.of_update written.found claims written.books.nextClaimId
  · obtain ⟨processedAt, claims⟩ := paid.claims
    exact fresh.of_update paid.found claims paid.books.nextClaimId
  · intro id unused
    rw [claims]
    rw [books.nextClaimId] at unused
    exact fresh id unused

/-- No call changes anything of an existing claim but its status and its
processing time. -/
theorem existing_claim_step {self : Address} {world next : World} {call : Call}
    {receipt : Receipt Event} (fresh : Fresh world.registry)
    (done : exec self world call = .ok (next, receipt)) {claimId : Nat}
    (found : (world.registry.claims claimId).claimant ≠ 0) :
    ∃ status processedAt, next.registry.claims claimId =
      { world.registry.claims claimId with status := status, processedAt := processedAt } := by
  rcases exec_cases done with
    ⟨policyId, merkleRoot, amount, policy, consumedSoFar, _, submitted⟩ |
    ⟨written, status, _, write⟩ | ⟨paidId, _, paid⟩ | ⟨_, _, claims, _⟩
  · rw [submitted.claims, Function.update_of_ne (fresh.ne_next found)]
    exact ⟨_, _, rfl⟩
  · obtain ⟨processedAt, claims⟩ := write.claims
    rw [claims]
    by_cases same : claimId = written
    · subst same
      rw [Function.update_self]
      exact ⟨_, _, rfl⟩
    · rw [Function.update_of_ne same]
      exact ⟨_, _, rfl⟩
  · obtain ⟨processedAt, claims⟩ := paid.claims
    rw [claims]
    by_cases same : claimId = paidId
    · subst same
      rw [Function.update_self]
      exact ⟨_, _, rfl⟩
    · rw [Function.update_of_ne same]
      exact ⟨_, _, rfl⟩
  · rw [claims]
    exact ⟨_, _, rfl⟩

theorem payoutToken_step {self : Address} {world next : World} {call : Call}
    {receipt : Receipt Event} (done : exec self world call = .ok (next, receipt)) :
    next.registry.payoutToken = world.registry.payoutToken := by
  rcases exec_cases done with
    ⟨policyId, merkleRoot, amount, policy, consumedSoFar, _, submitted⟩ |
    ⟨claimId, status, _, written⟩ | ⟨claimId, _, paid⟩ | ⟨_, _, _, books⟩
  · exact submitted.payoutToken
  · exact written.books.payoutToken
  · exact paid.books.payoutToken
  · exact books.payoutToken

/-! ### A small deployment to evaluate runs on -/

/-- Every policy covers `900` and belongs to `0xA1`. -/
def samplePolicies : PolicyRegistry where
  getPolicy policyId := some
    { policyId := BitVec.ofNat 128 policyId
      coverageAmount := 900
      holder := 0xA1
      validFrom := 0
      validUntil := 1000
      revoked := false
      metadataHash := 0 }
  isPremiumCurrent _ := some true

/-- The registry `0xC1` holds `1000` of every token and is administered by
`0xAD`. -/
def sampleDeployment : Deployment where
  self := 0xC1
  args :=
    { timelockAdmin := 0xAD
      payoutTokenAddress := 0x70
      policyRegistryAddress := 0x90
      maxPayoutPerClaim := 2 ^ 200
      maxPayoutPerWindow := 1000
      rateLimitWindowSeconds := 100 }
  timestamp := 0
  tokens _ :=
    { balances := fun account => if account = 0xC1 then 1000 else 0
      allowances := fun _ _ => 0
      totalSupply := 1000 }

def sampleCall (sender : Address) (fn : Fn) : Call where
  msg := { sender := sender, timestamp := 10 }
  registries _ := samplePolicies
  target := .registry fn

/-- `0xD1` becomes underwriter, then `0xA1` submits claim `1` for `500` and the
underwriter approves and pays it. -/
def sampleOrderlyCalls : List Call :=
  [sampleCall 0xAD (.changeRole (.grantRole .underwriter 0xD1)),
   sampleCall 0xA1 (.submitClaim 7 0 500),
   sampleCall 0xD1 (.setClaimStatus 1 .approved),
   sampleCall 0xD1 (.payoutClaim 1)]

/-- Every policy covers the most a `uint128` can hold. -/
def widePolicies : PolicyRegistry where
  getPolicy policyId := (samplePolicies.getPolicy policyId).map
    (fun policy => { policy with coverageAmount := BitVec.ofNat 128 (2 ^ 128 - 1) })
  isPremiumCurrent _ := some true

/-- `0xA1` claims `2 ^ 96`, which does not fit the stored amount. -/
def wideCall : Call where
  msg := { sender := 0xA1, timestamp := 10 }
  registries _ := widePolicies
  target := .registry (.submitClaim 7 0 (2 ^ 96))

end Dics.ClaimRegistry
