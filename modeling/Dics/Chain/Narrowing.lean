/-
Narrowing casts.

The contracts check and announce 256-bit arguments and store them in narrower
fields.  A cast keeps its argument exactly when the argument fits, so a call
stores what it announced exactly when every argument fits its field.
-/

import Dics.Chain.Eligibility
import Dics.Chain.PolicyRuns

open Transactions Tokens Words Totals

namespace Dics

/-- A narrowing cast is exact exactly when the value fits. -/
theorem toNat_ofNat_eq_self_iff {width value : Nat} :
    (BitVec.ofNat width value).toNat = value ↔ value < 2 ^ width := by
  rw [BitVec.toNat_ofNat]
  constructor
  · intro kept
    rw [← kept]
    exact Nat.mod_lt _ (Nat.two_pow_pos width)
  · intro fits
    exact Nat.mod_eq_of_lt fits

end Dics

namespace Dics.InsurancePolicy

/-- The branch of `isPremiumCurrent` that asks for no payment. -/
def PremiumExempt (state : State) (policyId : Nat) : Prop :=
  (state.premiumTerms policyId).amountPerPeriod = 0

instance (state : State) (policyId : Nat) : Decidable (PremiumExempt state policyId) :=
  inferInstanceAs (Decidable (_ = _))

/-- What a caller of the four storing functions may expect of the storage and
of the event. -/
def Fn.StoresArguments (state : State) (events : List Event) : Fn → Prop
  | .registerPolicy policyId holder validFrom validUntil coverageAmount metadataHash =>
      events =
          [.policyRegistered policyId holder validFrom validUntil coverageAmount metadataHash] ∧
        (state.policies policyId).policyId.toNat = policyId ∧
        (state.policies policyId).holder = holder ∧
        (state.policies policyId).validFrom.toNat = validFrom ∧
        (state.policies policyId).validUntil.toNat = validUntil ∧
        (state.policies policyId).coverageAmount.toNat = coverageAmount ∧
        (state.policies policyId).metadataHash = metadataHash ∧
        (state.policies policyId).validFrom.toNat < (state.policies policyId).validUntil.toNat
  | .updateCoverage policyId newCoverageAmount =>
      events = [.policyCoverageUpdated policyId newCoverageAmount] ∧
        (state.policies policyId).coverageAmount.toNat = newCoverageAmount
  | .setPremiumTerms policyId amountPerPeriod periodSeconds =>
      events = [.premiumTermsSet policyId amountPerPeriod periodSeconds] ∧
        (state.premiumTerms policyId).amountPerPeriod.toNat = amountPerPeriod ∧
        (state.premiumTerms policyId).periodSeconds.toNat = periodSeconds ∧
        (amountPerPeriod ≠ 0 → ¬PremiumExempt state policyId)
  | .addPolicyTemplate templateId coverageAmount premiumAmountPerPeriod periodSeconds termSeconds
      metadataHash =>
      events = [.policyTemplateAdded templateId coverageAmount premiumAmountPerPeriod periodSeconds
          termSeconds] ∧
        (state.policyTemplates templateId).coverageAmount.toNat = coverageAmount ∧
        (state.policyTemplates templateId).premiumAmountPerPeriod.toNat =
          premiumAmountPerPeriod ∧
        (state.policyTemplates templateId).periodSeconds.toNat = periodSeconds ∧
        (state.policyTemplates templateId).termSeconds.toNat = termSeconds ∧
        (state.policyTemplates templateId).metadataHash = metadataHash
  | _ => True

def Fn.FitsStorage : Fn → Prop
  | .registerPolicy policyId _ validFrom validUntil coverageAmount _ =>
      policyId < 2 ^ 128 ∧ validFrom < 2 ^ 40 ∧ validUntil < 2 ^ 40 ∧ coverageAmount < 2 ^ 128
  | .updateCoverage _ newCoverageAmount => newCoverageAmount < 2 ^ 128
  | .setPremiumTerms _ amountPerPeriod periodSeconds =>
      amountPerPeriod < 2 ^ 128 ∧ periodSeconds < 2 ^ 40
  | .addPolicyTemplate _ coverageAmount premiumAmountPerPeriod periodSeconds termSeconds _ =>
      coverageAmount < 2 ^ 128 ∧ premiumAmountPerPeriod < 2 ^ 128 ∧ periodSeconds < 2 ^ 40 ∧
        termSeconds < 2 ^ 40
  | _ => True

section Stores

variable {self : Address} {msg : Msg} {world next : World} {receipt : Receipt Event}

theorem registerPolicy_stores_iff {policyId validFrom validUntil coverageAmount : Nat}
    {holder : Address} {metadataHash : Bytes32}
    (done : callFn self msg world (.registerPolicy policyId holder validFrom validUntil
      coverageAmount metadataHash) = .ok (next, receipt)) :
    (Fn.registerPolicy policyId holder validFrom validUntil coverageAmount
        metadataHash).StoresArguments next.policy receipt.events ↔
      (Fn.registerPolicy policyId holder validFrom validUntil coverageAmount
        metadataHash).FitsStorage := by
  simp only [callFn, World.withState, registerPolicy, whenNotPaused, onlyRole, bind_assoc,
    require_bind_eq_ok, pure_bind, pure_eq_ok] at done
  obtain ⟨_, _, _, _, ordered, same⟩ := done
  cases same
  simp only [Fn.StoresArguments, Fn.FitsStorage, Function.update_self, toNat_ofNat_eq_self_iff,
    true_and]
  constructor
  · rintro ⟨idFits, fromFits, untilFits, coverageFits, _⟩
    exact ⟨idFits, fromFits, untilFits, coverageFits⟩
  · rintro ⟨idFits, fromFits, untilFits, coverageFits⟩
    refine ⟨idFits, fromFits, untilFits, coverageFits, ?_⟩
    rw [toNat_ofNat_eq_self_iff.mpr fromFits, toNat_ofNat_eq_self_iff.mpr untilFits]
    exact ordered

theorem setPremiumTerms_stores_iff {policyId amountPerPeriod periodSeconds : Nat}
    (done : callFn self msg world (.setPremiumTerms policyId amountPerPeriod periodSeconds) =
      .ok (next, receipt)) :
    (Fn.setPremiumTerms policyId amountPerPeriod periodSeconds).StoresArguments next.policy
        receipt.events ↔
      (Fn.setPremiumTerms policyId amountPerPeriod periodSeconds).FitsStorage := by
  simp only [callFn, World.withState, setPremiumTerms, onlyRole, bind_assoc,
    require_bind_eq_ok, pure_bind, pure_eq_ok] at done
  obtain ⟨_, _, same⟩ := done
  cases same
  simp only [Fn.StoresArguments, Fn.FitsStorage, PremiumExempt, Function.update_self,
    toNat_ofNat_eq_self_iff, true_and]
  constructor
  · rintro ⟨amountFits, periodFits, _⟩
    exact ⟨amountFits, periodFits⟩
  · rintro ⟨amountFits, periodFits⟩
    refine ⟨amountFits, periodFits, ?_⟩
    intro priced exempt
    have zero := congrArg BitVec.toNat exempt
    rw [toNat_ofNat_eq_self_iff.mpr amountFits] at zero
    exact priced zero

end Stores

/-- A successful call stores exactly what it was given and announces exactly
when every argument fits its field.  For the functions that narrow nothing
both sides hold. -/
theorem stores_arguments_iff_fits (self : Address) (msg : Msg) (world : World) (fn : Fn)
    {next : World} {receipt : Receipt Event}
    (done : callFn self msg world fn = .ok (next, receipt)) :
    fn.StoresArguments next.policy receipt.events ↔ fn.FitsStorage := by
  cases fn with
  | registerPolicy policyId holder validFrom validUntil coverageAmount metadataHash =>
      exact registerPolicy_stores_iff done
  | setPremiumTerms policyId amountPerPeriod periodSeconds =>
      exact setPremiumTerms_stores_iff done
  | updateCoverage policyId newCoverageAmount =>
      simp only [callFn, World.withState, updateCoverage, whenNotPaused, onlyRole, bind_assoc,
        require_bind_eq_ok, pure_bind, pure_eq_ok] at done
      obtain ⟨_, _, _, same⟩ := done
      cases same
      simp only [Fn.StoresArguments, Fn.FitsStorage, Function.update_self,
        toNat_ofNat_eq_self_iff, true_and]
  | addPolicyTemplate templateId coverageAmount premiumAmountPerPeriod periodSeconds termSeconds
      metadataHash =>
      simp only [callFn, World.withState, addPolicyTemplate, whenNotPaused, onlyRole, bind_assoc,
        require_bind_eq_ok, pure_bind, pure_eq_ok] at done
      obtain ⟨_, _, same⟩ := done
      cases same
      simp only [Fn.StoresArguments, Fn.FitsStorage, Function.update_self,
        toNat_ofNat_eq_self_iff, true_and, and_true]
  | _ => exact Iff.rfl

/-- The manager registers policy `3` from second `0` to second `1000`. -/
theorem stores_arguments_sample :
    ∃ next receipt, callFn sampleDeployment.self ⟨0xE1, 10⟩ (sampleDeployment.run sampleCalls)
        (.registerPolicy 3 0xB1 0 1000 900 0) = .ok (next, receipt) ∧
      (Fn.registerPolicy 3 0xB1 0 1000 900 0).StoresArguments next.policy receipt.events :=
  ⟨_, _, rfl, (stores_arguments_iff_fits sampleDeployment.self ⟨0xE1, 10⟩
    (sampleDeployment.run sampleCalls) (.registerPolicy 3 0xB1 0 1000 900 0) rfl).mpr
    ⟨by decide, by decide, by decide, by decide⟩⟩

/-- A premium of `2 ^ 128` is announced and stored as none, which makes the
policy exempt; a policy up to second `2 ^ 40` is stored as ending before it
starts. -/
theorem narrowed_arguments_are_lost :
    (∃ next receipt, callFn sampleDeployment.self ⟨0xE1, 10⟩ (sampleDeployment.run sampleCalls)
        (.setPremiumTerms 1 (2 ^ 128) 30) = .ok (next, receipt) ∧
      receipt.events = [.premiumTermsSet 1 (2 ^ 128) 30] ∧
      PremiumExempt next.policy 1 ∧
      ¬(Fn.setPremiumTerms 1 (2 ^ 128) 30).StoresArguments next.policy receipt.events) ∧
    (∃ next receipt, callFn sampleDeployment.self ⟨0xE1, 10⟩ (sampleDeployment.run sampleCalls)
        (.registerPolicy 3 0xB1 10 (2 ^ 40) 900 0) = .ok (next, receipt) ∧
      (next.policy.policies 3).validFrom.toNat = 10 ∧
      (next.policy.policies 3).validUntil.toNat = 0 ∧
      ¬(Fn.registerPolicy 3 0xB1 10 (2 ^ 40) 900 0).StoresArguments next.policy
        receipt.events) := by
  refine ⟨⟨_, _, rfl, rfl, by decide, ?_⟩, ⟨_, _, rfl, by decide, by decide, ?_⟩⟩
  · rintro ⟨_, _, _, notExempt⟩
    exact notExempt (by decide) (by decide)
  · rintro ⟨_, _, _, _, _, _, _, ordered⟩
    exact absurd ordered (by decide)

end Dics.InsurancePolicy

namespace Dics.ClaimRegistry

/-! ### The amount of a claim -/

def HandedOut (state : State) : Prop :=
  ∀ policyId, ∀ claimId ∈ state.policyClaims policyId, claimId < state.nextClaimId

theorem handedOut_step {self : Address} {world next : World} {call : Call}
    {receipt : Receipt Event} (before : HandedOut world.registry)
    (done : exec self world call = .ok (next, receipt)) : HandedOut next.registry := by
  intro policyId claimId member
  have grows := nextClaimId_step done
  rcases policyClaims_step done policyId with ⟨extended, bumped⟩ | same
  · rw [extended, List.mem_append, List.mem_singleton] at member
    rcases member with old | new
    · have earlier := before policyId claimId old
      omega
    · omega
  · rw [same] at member
    exact Nat.lt_of_lt_of_le (before policyId claimId member) grows

theorem handedOut_run (deployment : Deployment) (calls : List Call) :
    HandedOut (deployment.run calls).registry := by
  refine @run_induction _ _ _ _ (exec deployment.self) (fun world _ => HandedOut world.registry)
    (fun _ => True) deployment.start nofun ?_ calls (fun _ _ => trivial)
  intro world past call next receipt before done _
  exact handedOut_step before done

/-- The claim a submission announced is stored with the announced policy and
amount, and uses up exactly that amount of the coverage. -/
structure StoredAsSubmitted (policyId : Nat) (merkleRoot : Bytes32) (amount : Nat) (msg : Msg)
    (before after : State) (events : List Event) : Prop where
  claim : ∃ claimId,
    events = [.claimSubmitted claimId policyId msg.sender merkleRoot amount msg.timestamp] ∧
      (after.claims claimId).amount.toNat = amount ∧
      (after.claims claimId).policyId.toNat = policyId
  consumed : ∃ consumed, consumedCoverage before policyId = some consumed ∧
    consumedCoverage after policyId = some (consumed + amount)

section Submissions

variable {world next : World} {msg : Msg} {registries : Address → PolicyRegistry}
variable {policyId amount consumedSoFar : Nat} {merkleRoot : Bytes32} {policy : Policy}
variable {receipt : Receipt Event}

theorem Submitted.reservedTotal_eq (handedOut : HandedOut world.registry)
    (submitted : Submitted world msg registries policyId merkleRoot amount policy consumedSoFar
      next receipt) :
    reservedTotal next.registry policyId =
      reservedTotal world.registry policyId + (BitVec.ofNat 96 amount).toNat := by
  have unlisted : world.registry.nextClaimId ∉ world.registry.policyClaims policyId := by
    intro member
    exact Nat.lt_irrefl _ (handedOut policyId _ member)
  unfold reservedTotal
  rw [submitted.policyClaims, submitted.claims, Function.update_self, total_snoc,
    total_update_of_notMem _ _ unlisted, Function.update_self]
  rfl

theorem Submitted.storedAsSubmitted_iff (handedOut : HandedOut world.registry)
    (submitted : Submitted world msg registries policyId merkleRoot amount policy consumedSoFar
      next receipt) :
    StoredAsSubmitted policyId merkleRoot amount msg world.registry next.registry
        receipt.events ↔
      amount < 2 ^ 96 ∧ policyId < 2 ^ 128 := by
  have stored : next.registry.claims world.registry.nextClaimId =
      newClaim world.registry.nextClaimId policyId merkleRoot amount msg := by
    rw [submitted.claims, Function.update_self]
  constructor
  · intro exact
    obtain ⟨claimId, announced, sameAmount, samePolicy⟩ := exact.claim
    rw [submitted.receipt] at announced
    cases announced
    rw [stored] at sameAmount samePolicy
    exact ⟨toNat_ofNat_eq_self_iff.mp sameAmount, toNat_ofNat_eq_self_iff.mp samePolicy⟩
  · rintro ⟨amountFits, policyFits⟩
    have grown := submitted.reservedTotal_eq handedOut
    rw [toNat_ofNat_eq_self_iff.mpr amountFits,
      ← consumedCoverage_eq submitted.consumed] at grown
    have covered := submitted.covered
    have small : policy.coverageAmount.toNat < wordBound :=
      Nat.lt_trans policy.coverageAmount.isLt (by decide)
    have fits : reservedTotal next.registry policyId < wordBound := by omega
    refine ⟨⟨world.registry.nextClaimId, ?_, ?_, ?_⟩, consumedSoFar, submitted.consumed, ?_⟩
    · rw [submitted.receipt]
    · rw [stored]
      exact toNat_ofNat_eq_self_iff.mpr amountFits
    · rw [stored]
      exact toNat_ofNat_eq_self_iff.mpr policyFits
    · rw [consumedCoverage_of_lt fits, grown]

end Submissions

/-- In every reachable state, whatever the cap and the coverage, a submission is
stored as it was made exactly when its amount fits `uint96` and its policy id
fits `uint128`. -/
theorem submission_stored_iff_fits (deployment : Deployment) (calls : List Call) (call : Call)
    (policyId : Nat) (merkleRoot : Bytes32) (amount : Nat) {next : World}
    {receipt : Receipt Event}
    (target : call.target = .registry (.submitClaim policyId merkleRoot amount))
    (done : exec deployment.self (deployment.run calls) call = .ok (next, receipt)) :
    StoredAsSubmitted policyId merkleRoot amount call.msg (deployment.run calls).registry
        next.registry receipt.events ↔
      amount < 2 ^ 96 ∧ policyId < 2 ^ 128 := by
  unfold exec at done
  rw [target] at done
  obtain ⟨policy, consumedSoFar, submitted⟩ := submitClaim_ok done
  exact submitted.storedAsSubmitted_iff (handedOut_run deployment calls)

def smallCall : Call := sampleCall 0xA1 (.submitClaim 7 0 100)

theorem submission_stored_sample :
    ∃ next receipt, exec sampleDeployment.self (sampleDeployment.run sampleOrderlyCalls)
        smallCall = .ok (next, receipt) ∧
      StoredAsSubmitted 7 0 100 smallCall.msg
        (sampleDeployment.run sampleOrderlyCalls).registry next.registry receipt.events :=
  ⟨_, _, rfl, (submission_stored_iff_fits sampleDeployment sampleOrderlyCalls smallCall 7 0 100
    rfl rfl).mpr ⟨by decide, by decide⟩⟩

/-- A claim for `2 ^ 96` is accepted and announced, and stored as a claim for
nothing that uses up no coverage. -/
theorem wide_claim_is_stored_as_nothing :
    ∃ next receipt, exec sampleDeployment.self (sampleDeployment.run []) wideCall =
        .ok (next, receipt) ∧
      receipt.events = [.claimSubmitted 1 7 0xA1 0 (2 ^ 96) 10] ∧
      (next.registry.claims 1).amount = 0 ∧
      consumedCoverage next.registry 7 = some 0 ∧
      ¬StoredAsSubmitted 7 0 (2 ^ 96) wideCall.msg (sampleDeployment.run []).registry
        next.registry receipt.events := by
  refine ⟨_, _, rfl, rfl, by decide, by decide, ?_⟩
  intro stored
  obtain ⟨claimId, announced, sameAmount, _⟩ := stored.claim
  cases announced
  exact absurd sameAmount (by decide)

end Dics.ClaimRegistry
