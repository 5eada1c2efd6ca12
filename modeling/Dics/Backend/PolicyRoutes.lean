/-
The backend's policy routes.

Both endpoints only read the chain, one contract call after another, and blocks
may be mined between the calls.  The status of a policy is therefore put
together from several moments; what the contract never takes back keeps the
answer true all the same.
-/

import Dics.Chain.Premiums
import Mathlib.Data.List.ReduceOption

open Transactions Words

namespace Dics.Backend.PolicyRoutes

open InsurancePolicy (State PolicyTemplate PremiumTerms Deployment)

inductive HttpError where
  | notFound (policyId : Int)
  | internal
  deriving DecidableEq

/-! ### The catalogue -/

/-- Amounts travel as decimal texts. -/
structure PolicyTemplateOut where
  templateId : Nat
  coverageAmountWei : String
  premiumAmountPerPeriodWei : String
  periodSeconds : Nat
  termSeconds : Nat
  deriving DecidableEq

def knownTemplateIds : List Nat := [1, 2, 3]

/-- One turn of the loop: never configured and discontinued templates are skipped. -/
def listing (templateId : Nat) (template : PolicyTemplate) : Option PolicyTemplateOut :=
  if template.premiumAmountPerPeriod = 0 then none
  else if template.active = false then none
  else some
    { templateId := templateId
      coverageAmountWei := toString template.coverageAmount.toNat
      premiumAmountPerPeriodWei := toString template.premiumAmountPerPeriod.toNat
      periodSeconds := template.periodSeconds.toNat
      termSeconds := template.termSeconds.toNat }

/-- `reads` is the storage that the node answers from when it is asked for a
template, if it answers. -/
def getPolicyCatalog (reads : Nat → Option State) :
    Except HttpError (List PolicyTemplateOut) := do
  let rows ← knownTemplateIds.mapM fun templateId => do
    let state ← orRevert .internal (reads templateId)
    return listing templateId (state.policyTemplates templateId)
  return rows.reduceOption

theorem mem_mapM_ok {Item Row Failure : Type} {read : Item → Except Failure Row}
    {items : List Item} {rows : List Row} (done : items.mapM read = .ok rows) {row : Row}
    (member : row ∈ rows) : ∃ item ∈ items, read item = .ok row := by
  induction items generalizing rows with
  | nil =>
      cases done
      cases member
  | cons item items ih =>
      rw [List.mapM_cons] at done
      obtain ⟨first, found, others⟩ := bind_eq_ok.mp done
      obtain ⟨rest, later, same⟩ := bind_eq_ok.mp others
      cases same
      rcases List.mem_cons.mp member with rfl | member
      · exact ⟨item, List.mem_cons_self, found⟩
      · obtain ⟨other, among, read⟩ := ih later member
        exact ⟨other, List.mem_cons_of_mem _ among, read⟩

theorem mem_catalog {reads : Nat → Option State} {items : List PolicyTemplateOut}
    (answered : getPolicyCatalog reads = .ok items) {item : PolicyTemplateOut}
    (member : item ∈ items) :
    ∃ state, reads item.templateId = some state ∧
      listing item.templateId (state.policyTemplates item.templateId) = some item := by
  obtain ⟨rows, read, same⟩ := bind_eq_ok.mp answered
  cases same
  obtain ⟨templateId, _, found⟩ := mem_mapM_ok read (List.reduceOption_mem_iff.mp member)
  obtain ⟨state, answer, listed⟩ := orRevert_bind_eq_ok.mp found
  have own : listing templateId (state.policyTemplates templateId) = some item :=
    Except.ok.inj listed
  have sameId : item.templateId = templateId := by
    unfold listing at own
    split at own
    · cases own
    · split at own
      · cases own
      · cases own
        rfl
  rw [sameId]
  exact ⟨state, answer, own⟩

/-! ### The status of a policy -/

structure PolicyStatusOut where
  policyId : Int
  holder : Address
  coverageAmountWei : String
  validFrom : Nat
  validUntil : Nat
  revoked : Bool
  premiumCurrent : Bool
  premiumPaidUntil : Nat
  premiumAmountPerPeriodWei : String
  deriving DecidableEq

/-- The storage behind each of the four calls, where the node answers;
`isPremiumCurrent` also looks at the time of its block. -/
structure StatusReads where
  policy : Option State
  premiumCurrent : Option (State × Nat)
  paidUntil : Option State
  terms : Option State

/-- An id that is no 256-bit word cannot be encoded. -/
def readPolicy (policyId : Int) (state : State) : Option Policy :=
  if 0 ≤ policyId ∧ policyId < wordBound then InsurancePolicy.getPolicy state policyId.toNat
  else none

/-- Whatever goes wrong with the first call counts as a policy that is not there. -/
def getPolicyStatus (policyId : Int) (reads : StatusReads) : Except HttpError PolicyStatusOut :=
  match reads.policy.bind (readPolicy policyId) with
  | none => .error (.notFound policyId)
  | some policy => do
      let premiumCurrent ← orRevert .internal (reads.premiumCurrent.bind fun (state, timestamp) =>
        InsurancePolicy.isPremiumCurrent state timestamp policyId.toNat)
      let paidUntil ← orRevert .internal
        (reads.paidUntil.map fun state => state.premiumPaidUntil policyId.toNat)
      let terms ← orRevert .internal
        (reads.terms.map fun state => state.premiumTerms policyId.toNat)
      return {
        policyId := policyId
        holder := policy.holder
        coverageAmountWei := toString policy.coverageAmount.toNat
        validFrom := policy.validFrom.toNat
        validUntil := policy.validUntil.toNat
        revoked := policy.revoked
        premiumCurrent := premiumCurrent
        premiumPaidUntil := paidUntil
        premiumAmountPerPeriodWei := toString terms.amountPerPeriod.toNat }

theorem getPolicyStatus_ok {policyId : Int} {reads : StatusReads} {status : PolicyStatusOut}
    (answered : getPolicyStatus policyId reads = .ok status) :
    ∃ policy premiumCurrent paidUntil terms,
      reads.policy.bind (readPolicy policyId) = some policy ∧
      (reads.premiumCurrent.bind fun (state, timestamp) =>
        InsurancePolicy.isPremiumCurrent state timestamp policyId.toNat) = some premiumCurrent ∧
      (reads.paidUntil.map fun state => state.premiumPaidUntil policyId.toNat) =
        some paidUntil ∧
      (reads.terms.map fun state => state.premiumTerms policyId.toNat) = some terms ∧
      status = ⟨policyId, policy.holder, toString policy.coverageAmount.toNat,
        policy.validFrom.toNat, policy.validUntil.toNat, policy.revoked, premiumCurrent,
        paidUntil, toString terms.amountPerPeriod.toNat⟩ := by
  unfold getPolicyStatus at answered
  split at answered
  · cases answered
  · rename_i policy found
    simp only [orRevert_bind_eq_ok, pure_eq_ok] at answered
    obtain ⟨premiumCurrent, current, paidUntil, paid, terms, billed, same⟩ := answered
    exact ⟨policy, premiumCurrent, paidUntil, terms, found, current, paid, billed, same.symm⟩

theorem getPolicyStatus_notFound {policyId : Int} {reads : StatusReads} :
    getPolicyStatus policyId reads = .error (.notFound policyId) ↔
      reads.policy.bind (readPolicy policyId) = none := by
  unfold getPolicyStatus
  cases found : reads.policy.bind (readPolicy policyId) with
  | none => exact ⟨fun _ => rfl, fun _ => rfl⟩
  | some policy =>
      have internal : HttpError.internal ≠ .notFound policyId := nofun
      simp only [orRevert_bind_eq_error internal]
      constructor
      · rintro ⟨_, _, _, _, _, _, impossible⟩
        cases impossible
      · intro impossible
        cases impossible

/-- What the answer says of the policy `id` once the chain has come to `now`.
`second` is the storage that the premium check read at `timestamp`. -/
structure StillTrue (id : Nat) (first second : State) (timestamp : Nat) (now : State)
    (status : PolicyStatusOut) : Prop where
  policyExists : now.policyExists id = true
  holder : status.holder = (now.policies id).holder
  validFrom : status.validFrom = (now.policies id).validFrom.toNat
  validUntil : status.validUntil = (now.policies id).validUntil.toNat
  revoked : status.revoked = true → (now.policies id).revoked = true
  paidUntil : status.premiumPaidUntil ≤ now.premiumPaidUntil id
  current : status.premiumCurrent = true →
    (second.premiumTerms id).amountPerPeriod = 0 ∨
      timestamp ≤ status.premiumPaidUntil + second.premiumGracePeriodSeconds
  lapsed : status.premiumCurrent = false →
    (second.premiumTerms id).amountPerPeriod ≠ 0 ∧
      first.premiumPaidUntil id + second.premiumGracePeriodSeconds < timestamp

theorem isPremiumCurrent_eq_some {state : State} {timestamp policyId : Nat} {current : Bool}
    (answered : InsurancePolicy.isPremiumCurrent state timestamp policyId = some current) :
    (current = true → (state.premiumTerms policyId).amountPerPeriod = 0 ∨
      timestamp ≤ state.premiumPaidUntil policyId + state.premiumGracePeriodSeconds) ∧
    (current = false → (state.premiumTerms policyId).amountPerPeriod ≠ 0 ∧
      state.premiumPaidUntil policyId + state.premiumGracePeriodSeconds < timestamp) := by
  unfold InsurancePolicy.isPremiumCurrent at answered
  split at answered
  · rename_i unbilled
    cases answered
    exact ⟨fun _ => Or.inl unbilled, nofun⟩
  · rename_i billed
    obtain ⟨deadline, sum, same⟩ := Option.bind_eq_some_iff.mp answered
    obtain ⟨_, rfl⟩ := checkedAdd_eq_some.mp sum
    cases same
    constructor
    · intro current
      exact Or.inr (of_decide_eq_true current)
    · intro lapsed
      exact ⟨billed, Nat.lt_of_not_le (of_decide_eq_false lapsed)⟩

section TornReads

variable (deployment : Deployment) (before between meanwhile further : List InsurancePolicy.Call)

def tornReads (timestamp : Nat) : StatusReads where
  policy := some (deployment.run before).policy
  premiumCurrent := some ((deployment.run (before ++ between)).policy, timestamp)
  paidUntil := some (deployment.run (before ++ between ++ meanwhile)).policy
  terms := some (deployment.run (before ++ between ++ meanwhile ++ further)).policy

theorem readPolicy_eq_some {policyId : Int} {state : State} {policy : Policy} :
    readPolicy policyId state = some policy ↔
      0 ≤ policyId ∧ policyId < wordBound ∧ state.policyExists policyId.toNat = true ∧
        state.policies policyId.toNat = policy := by
  unfold readPolicy
  rw [Option.ite_none_right_eq_some, InsurancePolicy.getPolicy_eq_some, and_assoc]

/-- However the chain moves on between the calls and afterwards, the answer is
"not found" exactly for policies that were not there at the first call.  A
status names the holder and validity of the policy for good, calls nothing
revoked that is not, never overstates the paid time, and tells rightly whether
the premium was current. -/
theorem status_survives_torn_reads (timestamp : Nat) (policyId : Int)
    (later : List InsurancePolicy.Call) :
    (getPolicyStatus policyId (tornReads deployment before between meanwhile further timestamp) =
        .error (.notFound policyId) ↔
      ¬(0 ≤ policyId ∧ policyId < wordBound ∧
        (deployment.run before).policy.policyExists policyId.toNat = true)) ∧
    ∀ status,
      getPolicyStatus policyId (tornReads deployment before between meanwhile further timestamp) =
        .ok status →
      StillTrue policyId.toNat (deployment.run before).policy
        (deployment.run (before ++ between)).policy timestamp
        (deployment.run (before ++ between ++ meanwhile ++ further ++ later)).policy status := by
  constructor
  · rw [getPolicyStatus_notFound]
    change readPolicy policyId (deployment.run before).policy = none ↔ _
    rw [Option.eq_none_iff_forall_ne_some]
    constructor
    · rintro missing ⟨natural, fits, found⟩
      exact missing _ (readPolicy_eq_some.mpr ⟨natural, fits, found, rfl⟩)
    · intro absent policy read
      obtain ⟨natural, fits, found, _⟩ := readPolicy_eq_some.mp read
      exact absent ⟨natural, fits, found⟩
  · intro status answered
    obtain ⟨policy, premiumCurrent, paidUntil, terms, read, current, paid, _, rfl⟩ :=
      getPolicyStatus_ok answered
    obtain ⟨_, _, found, rfl⟩ := readPolicy_eq_some.mp read
    obtain ⟨whenCurrent, whenLapsed⟩ := isPremiumCurrent_eq_some current
    have paidThen : (deployment.run (before ++ between ++ meanwhile)).policy.premiumPaidUntil
        policyId.toNat = paidUntil := Option.some.inj paid
    have kept := InsurancePolicy.kept_run deployment before
      (between ++ meanwhile ++ further ++ later) found
    have first := InsurancePolicy.paidUntil_run_le deployment before between policyId.toNat
    have second := InsurancePolicy.paidUntil_run_le deployment (before ++ between) meanwhile
      policyId.toNat
    have third := InsurancePolicy.paidUntil_run_le deployment (before ++ between ++ meanwhile)
      (further ++ later) policyId.toNat
    simp only [← List.append_assoc] at kept third
    exact
      { policyExists := kept.policyExists
        holder := kept.holder.symm
        validFrom := congrArg BitVec.toNat kept.validFrom.symm
        validUntil := congrArg BitVec.toNat kept.validUntil.symm
        revoked := kept.revoked
        paidUntil := paidThen ▸ third
        current := by
          intro isCurrent
          rcases whenCurrent isCurrent with unbilled | inTime
          · exact Or.inl unbilled
          · refine Or.inr ?_
            show timestamp ≤ paidUntil + _
            omega
        lapsed := by
          intro isLapsed
          obtain ⟨billed, late⟩ := whenLapsed isLapsed
          exact ⟨billed, by omega⟩ }

end TornReads

/-- The holder renews between the first two calls, and the policy is revoked after the
last one. -/
theorem status_survives_torn_reads_sample :
    getPolicyStatus 2 (tornReads InsurancePolicy.sampleDeployment InsurancePolicy.sampleCalls
        [InsurancePolicy.sampleCall 0xA1 (.payPremium 2)] [] [] 60) =
      .ok ⟨2, 0xA1, "600", 10, 375, false, true, 70, "10"⟩ ∧
    StillTrue 2 (InsurancePolicy.sampleDeployment.run InsurancePolicy.sampleCalls).policy
      (InsurancePolicy.sampleDeployment.run (InsurancePolicy.sampleCalls ++
        [InsurancePolicy.sampleCall 0xA1 (.payPremium 2)])).policy 60
      (InsurancePolicy.sampleDeployment.run (InsurancePolicy.sampleCalls ++
        [InsurancePolicy.sampleCall 0xA1 (.payPremium 2)] ++ [] ++ [] ++
        [InsurancePolicy.sampleCall 0xE1 (.revokePolicy 2)])).policy
      ⟨2, 0xA1, "600", 10, 375, false, true, 70, "10"⟩ := by
  have answered : getPolicyStatus 2 (tornReads InsurancePolicy.sampleDeployment
      InsurancePolicy.sampleCalls [InsurancePolicy.sampleCall 0xA1 (.payPremium 2)] [] [] 60) =
      .ok ⟨2, 0xA1, "600", 10, 375, false, true, 70, "10"⟩ := by
    rfl
  exact ⟨answered, (status_survives_torn_reads InsurancePolicy.sampleDeployment
    InsurancePolicy.sampleCalls [InsurancePolicy.sampleCall 0xA1 (.payPremium 2)] [] [] 60 2
    [InsurancePolicy.sampleCall 0xE1 (.revokePolicy 2)]).2 _ answered⟩

end Dics.Backend.PolicyRoutes
