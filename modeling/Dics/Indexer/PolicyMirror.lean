/-
The policies table as a mirror of the InsurancePolicy contract.

Two events reach the table: a registration, with the values as they were passed
or computed, and a revocation.  The contract keeps the low bits of a
registration, the database refuses far ids and rounds far dates, and a change of
coverage is announced by an event the indexer does not declare.
-/

import Dics.Indexer.Mirror
import Dics.Chain.PolicyRuns

open Transactions Scripts

namespace Dics.Indexer

open InsurancePolicy (Deployment World Call Commit Effect IssuedBy Issue Quiet getPolicy)

/-- The contract counts seconds, the row microseconds. -/
structure PolicyRowMatches (row : PolicyRow) (policy : Policy) : Prop where
  holderAddress : row.holderAddress = policy.holder
  coverageAmount : row.coverageAmount = policy.coverageAmount.toNat
  validFrom : row.validFrom = policy.validFrom.toNat * 1000000
  validUntil : row.validUntil = policy.validUntil.toNat * 1000000
  revoked : row.revoked = policy.revoked

/-- Every existing policy has a row with the fields `getPolicy` returns. -/
def MirrorsPolicies (state : InsurancePolicy.State) (rows : Nat → Option PolicyRow) : Prop :=
  ∀ id policy, getPolicy state id = some policy →
    ∃ row, rows id = some row ∧ PolicyRowMatches row policy

def policyEmittedBy (commits : List Commit) : List Emitted :=
  commits.flatMap fun commit => commit.output.events.map .policy

/-- A call whose effect on the policies its declared events report completely:
the id of an issued policy fits its column, its dates are stored as they are, its
coverage fits the width it is stored in, and an update of the coverage does not
change it. -/
def Announced (before : InsurancePolicy.State) (call : Call) : Prop :=
  match call.target with
  | .policy (.registerPolicy policyId _ validFrom validUntil coverageAmount _) =>
      policyId < 2 ^ 63 ∧ StoredExactly validFrom ∧ StoredExactly validUntil ∧
        coverageAmount < 2 ^ 128
  | .policy (.subscribeToPolicy templateId) =>
      (InsurancePolicy.skipForward before.policyExists 1000 before.nextPolicyId).all
          (fun policyId => policyId < 2 ^ 63) = true ∧
        StoredExactly call.msg.timestamp ∧
        StoredExactly
          (call.msg.timestamp + (before.policyTemplates templateId).termSeconds.toNat)
  | .policy (.updateCoverage policyId newCoverageAmount) =>
      BitVec.ofNat 128 newCoverageAmount = (before.policies policyId).coverageAmount
  | _ => True

instance (before : InsurancePolicy.State) (call : Call) : Decidable (Announced before call) := by
  unfold Announced
  split <;> infer_instance

/-- The contract and the folded rows agree, no row is of a policy that does not
exist, and every id fits its column. -/
structure PoliciesInStep (state : InsurancePolicy.State) (rows : Nat → Option PolicyRow) :
    Prop where
  fits : ∀ id, state.policyExists id = true → id < 2 ^ 63
  present : ∀ id, state.policyExists id = true →
    ∃ row, rows id = some row ∧ PolicyRowMatches row (state.policies id)
  absent : ∀ id, state.policyExists id = false → rows id = none

theorem PoliciesInStep.mirrors {state : InsurancePolicy.State} {rows : Nat → Option PolicyRow}
    (inStep : PoliciesInStep state rows) : MirrorsPolicies state rows := by
  intro id policy found
  obtain ⟨known, same⟩ := InsurancePolicy.getPolicy_eq_some.mp found
  rw [← same]
  exact inStep.present id known

section Steps

variable {before after : InsurancePolicy.State} {rows : Nat → Option PolicyRow}

theorem PoliciesInStep.of_same (inStep : PoliciesInStep before rows)
    (policies : after.policies = before.policies)
    (policyExists : after.policyExists = before.policyExists) : PoliciesInStep after rows := by
  refine ⟨?_, ?_, ?_⟩
  · rw [policyExists]
    exact inStep.fits
  · rw [policies, policyExists]
    exact inStep.present
  · rw [policyExists]
    exact inStep.absent

theorem PoliciesInStep.inserted (inStep : PoliciesInStep before rows) {policyId : Nat}
    (idFits : policyId < 2 ^ 63) (new : before.policyExists policyId = false) {policy : Policy}
    (policies : after.policies = Function.update before.policies policyId policy)
    (policyExists : after.policyExists = Function.update before.policyExists policyId true)
    {row : PolicyRow} (agrees : PolicyRowMatches row policy) :
    PoliciesInStep after (insertOnce rows policyId row) := by
  refine ⟨?_, ?_, ?_⟩
  · intro id known
    by_cases same : id = policyId
    · rw [same]
      exact idFits
    · rw [policyExists, Function.update_of_ne same] at known
      exact inStep.fits id known
  · intro id known
    rw [policies]
    apply agree_insertOnce (inStep.absent policyId new) agrees
    intro different
    rw [policyExists, Function.update_of_ne different] at known
    exact inStep.present id known
  · intro id unknown
    have different : id ≠ policyId := by
      intro same
      rw [policyExists, same, Function.update_self] at unknown
      cases unknown
    rw [policyExists, Function.update_of_ne different] at unknown
    rw [insertOnce_of_ne different]
    exact inStep.absent id unknown

theorem PoliciesInStep.updated (inStep : PoliciesInStep before rows) {policyId : Nat}
    {policy : Policy}
    (policies : after.policies = Function.update before.policies policyId policy)
    (policyExists : after.policyExists = before.policyExists) {change : PolicyRow → PolicyRow}
    (agrees : ∀ row, PolicyRowMatches row (before.policies policyId) →
      PolicyRowMatches (change row) policy) :
    PoliciesInStep after (updateRow rows policyId change) := by
  refine ⟨?_, ?_, ?_⟩
  · rw [policyExists]
    exact inStep.fits
  · intro id known
    rw [policyExists] at known
    rw [policies]
    exact agree_updateRow agrees (inStep.present id known)
  · intro id unknown
    rw [policyExists] at unknown
    exact updateRow_of_absent (inStep.absent id unknown)

end Steps

/-! ### Issued policies -/

def Issue.row (issue : Issue) (log : Log) : PolicyRow :=
  { holderAddress := issue.holder
    coverageAmount := issue.coverageAmount
    validFrom := toTimestamp issue.validFrom
    validUntil := toTimestamp issue.validUntil
    revoked := false
    registeredTxHash := log.transactionHash }

theorem mirror_issue {log : Log} {issue : Issue} (shown : log.emitted = .policy issue.event)
    (tables : Tables) :
    (mirror .insurancePolicy tables log).policies =
      insertOnce tables.policies issue.policyId (Issue.row issue log) := by
  rw [mirror, shown]
  rfl

theorem StoredExactly.column {seconds : Nat} (stored : StoredExactly seconds) :
    seconds < 2 ^ 40 ∧
      toTimestamp seconds = (BitVec.ofNat 40 seconds).toNat * 1000000 := by
  have fits : seconds < 2 ^ 40 := by
    unfold StoredExactly at stored
    omega
  refine ⟨fits, ?_⟩
  rw [toTimestamp_exact stored, BitVec.toNat_ofNat, Nat.mod_eq_of_lt fits]

/-- An issue that reaches its row unchanged. -/
structure IssueFits (issue : Issue) : Prop where
  policyId : issue.policyId < 2 ^ 63
  validFrom : StoredExactly issue.validFrom
  validUntil : StoredExactly issue.validUntil
  coverage : issue.coverageAmount < 2 ^ 128

theorem IssueFits.row_matches {issue : Issue} (fits : IssueFits issue) (log : Log) :
    PolicyRowMatches (Issue.row issue log) issue.policy where
  holderAddress := rfl
  coverageAmount := ((BitVec.toNat_ofNat _ _).trans (Nat.mod_eq_of_lt fits.coverage)).symm
  validFrom := fits.validFrom.column.2
  validUntil := fits.validUntil.column.2
  revoked := rfl

theorem IssueFits.acceptable {issue : Issue} (fits : IssueFits issue) {log : Log}
    (placed : Placed .insurancePolicy log) (shown : log.emitted = .policy issue.event) :
    Acceptable .insurancePolicy log := by
  have declared : parseLog .insurancePolicy log.emitted = some (.policyRegistered issue.policyId
      issue.holder issue.validFrom issue.validUntil issue.coverageAmount) := by
    rw [shown]
    rfl
  apply acceptable_of_declared placed declared rfl
  have started := fits.validFrom.column.1
  have ended := fits.validUntil.column.1
  refine ⟨fits.policyId, ?_, ?_⟩
  · unfold timestampEnd
    omega
  · unfold timestampEnd
    omega

/-- An announced issue fits, whichever function made it. -/
theorem issue_fits {before : InsurancePolicy.State} {call : Call} {fn : InsurancePolicy.Fn}
    {issue : Issue} (target : call.target = .policy fn) (announced : Announced before call)
    (source : IssuedBy call.msg before issue fn) : IssueFits issue := by
  unfold Announced at announced
  rw [target] at announced
  cases source with
  | registerPolicy =>
      obtain ⟨policyId, validFrom, validUntil, coverage⟩ := announced
      exact ⟨policyId, validFrom, validUntil, coverage⟩
  | subscribeToPolicy templateId free holder validFrom validUntil coverage =>
      obtain ⟨policyId, started, ended⟩ := announced
      rw [free] at policyId
      refine ⟨of_decide_eq_true policyId, ?_, ?_, coverage⟩
      · rw [validFrom]
        exact started
      · rw [validUntil]
        exact ended

/-- Events that neither issue nor revoke are not declared. -/
theorem undeclared_of_quiet {logs : List Log} {events : List InsurancePolicy.Event}
    (emitted : logs.map Log.emitted = events.map .policy) (quiet : Quiet events) :
    ∀ log ∈ logs, parseLog .insurancePolicy log.emitted = none := by
  apply undeclared_of_emitted emitted
  intro event member
  obtain ⟨issues, revokes⟩ := quiet event member
  cases event with
  | policyRegistered => cases issues
  | policyRevoked => cases revokes
  | _ => rfl

/-! ### Runs -/

theorem PoliciesInStep.quiet {state : InsurancePolicy.State} {tables : Tables}
    (inStep : PoliciesInStep state tables.policies) {logs : List Log}
    {events : List InsurancePolicy.Event} (emitted : logs.map Log.emitted = events.map .policy)
    (quiet : Quiet events) :
    PoliciesInStep state (logs.foldl (mirror .insurancePolicy) tables).policies ∧
      ∀ log ∈ logs, Acceptable .insurancePolicy log := by
  have undeclared := undeclared_of_quiet emitted quiet
  rw [foldl_mirror_undeclared undeclared]
  exact ⟨inStep, fun log member => acceptable_of_undeclared (undeclared log member)⟩

/-- The logs of one commit are acceptable and bring the rows to where the commit
brought the contract. -/
theorem policiesInStep_step {self : Address} {world next : World} {call : Call}
    {receipt : Receipt InsurancePolicy.Event}
    (done : InsurancePolicy.exec self world call = .ok (next, receipt))
    (announced : Announced world.policy call) {tables : Tables}
    (inStep : PoliciesInStep world.policy tables.policies) {logs : List Log}
    (emitted : logs.map Log.emitted = receipt.events.map .policy)
    (placed : ∀ log ∈ logs, Placed .insurancePolicy log) :
    PoliciesInStep next.policy (logs.foldl (mirror .insurancePolicy) tables).policies ∧
      ∀ log ∈ logs, Acceptable .insurancePolicy log := by
  rcases InsurancePolicy.exec_effect done with ⟨fn, target, effect⟩ | ⟨_, same, nothing⟩
  · cases effect with
    | issued _ issue source new policies policyExists _ _ rest shown quiet =>
        have fits := issue_fits target announced source
        rw [shown, List.map_cons] at emitted
        obtain ⟨log, others, rfl, first, later⟩ := List.map_eq_cons_iff.mp emitted
        have inserted : PoliciesInStep next.policy
            (mirror .insurancePolicy tables log).policies := by
          rw [mirror_issue first]
          exact inStep.inserted fits.policyId new policies policyExists (fits.row_matches log)
        obtain ⟨after, acceptable⟩ := inserted.quiet later quiet
        refine ⟨after, List.forall_mem_cons.mpr ⟨?_, acceptable⟩⟩
        exact fits.acceptable (placed log List.mem_cons_self) first
    | revoked policyId found policies policyExists premiums shown =>
        rw [shown] at emitted
        obtain ⟨log, rfl, only⟩ := List.map_eq_singleton_iff.mp emitted
        have declared : parseLog .insurancePolicy log.emitted =
            some (.policyRevoked policyId) := by
          rw [only]
          rfl
        rw [List.foldl_cons, List.foldl_nil, mirror, declared]
        constructor
        · apply inStep.updated policies policyExists
          intro row agrees
          exact ⟨agrees.holderAddress, agrees.coverageAmount, agrees.validFrom,
            agrees.validUntil, rfl⟩
        · intro other member
          rw [List.mem_singleton.mp member]
          exact acceptable_of_declared (placed log List.mem_cons_self) declared rfl
            (inStep.fits policyId found)
    | coverageUpdated policyId newCoverageAmount found policies policyExists premiums quiet =>
        unfold Announced at announced
        rw [target] at announced
        rw [announced, Function.update_eq_self] at policies
        exact (inStep.of_same policies policyExists).quiet emitted quiet
    | termsSet policyId amountPerPeriod periodSeconds found same premiumTerms premiumPaidUntil
        quiet =>
        exact (inStep.of_same same.policies same.policyExists).quiet emitted quiet
    | premiumPaid policyId found same premiumTerms premiumPaidUntil quiet =>
        exact (inStep.of_same same.policies same.policyExists).quiet emitted quiet
    | administered _ _ same premiums quiet =>
        exact (inStep.of_same same.policies same.policyExists).quiet emitted quiet
  · rw [nothing] at emitted
    rw [List.map_eq_nil_iff.mp emitted, same]
    exact ⟨inStep, List.forall_mem_nil _⟩

theorem policiesInStep_run (deployment : Deployment) (calls : List Call)
    (announced : ∀ commit ∈ deployment.history calls,
      Announced commit.before.policy commit.call)
    (logs : List Log)
    (emitted : logs.map Log.emitted = policyEmittedBy (deployment.history calls))
    (placed : ∀ log ∈ logs, Placed .insurancePolicy log) :
    PoliciesInStep (deployment.run calls).policy
        (logs.foldl (mirror .insurancePolicy) Tables.empty).policies ∧
      ∀ log ∈ logs, Acceptable .insurancePolicy log := by
  refine @mirror_run .insurancePolicy _ _ _ _ (InsurancePolicy.exec deployment.self)
    deployment.start (fun commit => commit.output.events.map .policy)
    (fun world tables => PoliciesInStep world.policy tables.policies)
    (fun commit => Announced commit.before.policy commit.call) ?_ ?_ calls announced logs emitted
    placed
  · refine ⟨?_, ?_, fun _ _ => rfl⟩
    · intro id known
      cases known
    · intro id known
      cases known
  · intro world call next receipt done allowed tables logs before emitted placed
    exact policiesInStep_step done allowed before emitted placed

/-- The logs of a run are processed to the end and every existing policy then has
its row, equal in all five fields to what `getPolicy` returns, provided each
committed call is one its declared events report completely. -/
theorem rows_mirror_policies (config : Config) (deployment : Deployment) (calls : List Call)
    (logs : List Log)
    (emitted : logs.map Log.emitted = policyEmittedBy (deployment.history calls))
    (identified : (logs.map Log.key).Nodup)
    (placed : ∀ log ∈ logs, Placed .insurancePolicy log)
    (announced : ∀ commit ∈ deployment.history calls,
      Announced commit.before.policy commit.call) :
    (processLogs config .insurancePolicy logs State.empty).Completed ∧
      MirrorsPolicies (deployment.run calls).policy
        (processLogs config .insurancePolicy logs State.empty).state.tables.policies := by
  obtain ⟨inStep, acceptable⟩ :=
    policiesInStep_run deployment calls announced logs emitted placed
  obtain ⟨completed, tables⟩ :=
    processLogs_tables config .insurancePolicy acceptable identified
  refine ⟨completed, ?_⟩
  rw [tables]
  exact inStep.mirrors

section Sample

open InsurancePolicy (sampleDeployment sampleCall sampleCalls)

def policyLogAt (index : Nat) (event : InsurancePolicy.Event) : Log :=
  { transactionHash := BitVec.ofNat 256 index
    index
    blockNumber := index
    emitted := .policy event }

def samplePolicyLogs : List Log :=
  [policyLogAt 1 (.roleChanged (.grantRole .policyManager 0xE1)),
   policyLogAt 2 (.premiumConfigUpdated 0x77 0x7E 50),
   policyLogAt 3 (.policyRegistered 1 0xB1 0 1000 900 0),
   policyLogAt 4 (.policyTemplateAdded 5 600 10 30 365),
   policyLogAt 5 (.policyRegistered 2 0xA1 10 375 600 0),
   policyLogAt 6 (.policySubscribed 2 5 0xA1 375),
   policyLogAt 7 (.premiumPaid 2 0xA1 10 40),
   policyLogAt 8 (.policyRevoked 1)]

theorem rows_mirror_policies_sample :
    (∀ commit ∈ sampleDeployment.history sampleCalls,
      Announced commit.before.policy commit.call) ∧
      MirrorsPolicies (sampleDeployment.run sampleCalls).policy
        (processLogs sampleConfig .insurancePolicy samplePolicyLogs
          State.empty).state.tables.policies :=
  ⟨by decide, (rows_mirror_policies sampleConfig sampleDeployment sampleCalls samplePolicyLogs
    (by decide) (by decide) (by decide) (by decide)).2⟩

/-- The manager registers policy `1` and then halves its coverage. -/
def halvedCalls : List Call :=
  [sampleCall 0xAD (.changeRole (.grantRole .policyManager 0xE1)),
   sampleCall 0xE1 (.registerPolicy 1 0xB1 0 1000 900 0),
   sampleCall 0xE1 (.updateCoverage 1 450)]

def halvedLogs : List Log :=
  [policyLogAt 1 (.roleChanged (.grantRole .policyManager 0xE1)),
   policyLogAt 2 (.policyRegistered 1 0xB1 0 1000 900 0),
   policyLogAt 3 (.policyCoverageUpdated 1 450)]

def registeredCalls (policyId validUntil : Nat) : List Call :=
  [sampleCall 0xAD (.changeRole (.grantRole .policyManager 0xE1)),
   sampleCall 0xE1 (.registerPolicy policyId 0xB1 0 validUntil 900 0)]

def registeredLogs (policyId validUntil : Nat) : List Log :=
  [policyLogAt 1 (.roleChanged (.grantRole .policyManager 0xE1)),
   policyLogAt 2 (.policyRegistered policyId 0xB1 0 validUntil 900 0)]

/-- The row of a halved policy keeps the old coverage, the row of a policy until
`2 ^ 40` does not have the stored end `0`, that of a policy until `2 ^ 40 - 1` is
off by microseconds, and policy `2 ^ 63` gets no row. -/
theorem halved_late_and_far_policies_not_mirrored :
    (halvedLogs.map Log.emitted = policyEmittedBy (sampleDeployment.history halvedCalls) ∧
      ¬MirrorsPolicies (sampleDeployment.run halvedCalls).policy
        (processLogs sampleConfig .insurancePolicy halvedLogs
          State.empty).state.tables.policies) ∧
    (∀ validUntil ∈ [2 ^ 40, 2 ^ 40 - 1],
      (registeredLogs 1 validUntil).map Log.emitted =
        policyEmittedBy (sampleDeployment.history (registeredCalls 1 validUntil)) ∧
      ¬MirrorsPolicies (sampleDeployment.run (registeredCalls 1 validUntil)).policy
        (processLogs sampleConfig .insurancePolicy (registeredLogs 1 validUntil)
          State.empty).state.tables.policies) ∧
    ((registeredLogs (2 ^ 63) 1000).map Log.emitted =
        policyEmittedBy (sampleDeployment.history (registeredCalls (2 ^ 63) 1000)) ∧
      ¬(processLogs sampleConfig .insurancePolicy (registeredLogs (2 ^ 63) 1000)
        State.empty).Completed ∧
      ¬MirrorsPolicies (sampleDeployment.run (registeredCalls (2 ^ 63) 1000)).policy
        (processLogs sampleConfig .insurancePolicy (registeredLogs (2 ^ 63) 1000)
          State.empty).state.tables.policies) := by
  refine ⟨⟨by decide, ?_⟩, ?_, ⟨by decide, by decide, ?_⟩⟩
  · intro mirrors
    obtain ⟨row, stored, agrees⟩ := mirrors 1 _
      (InsurancePolicy.getPolicy_eq_some.mpr ⟨by decide, rfl⟩)
    have kept : ((processLogs sampleConfig .insurancePolicy halvedLogs
        State.empty).state.tables.policies 1).map PolicyRow.coverageAmount = some 900 := by decide
    have halved : ((sampleDeployment.run halvedCalls).policy.policies 1).coverageAmount.toNat =
        450 := by decide
    rw [stored, Option.map_some, agrees.coverageAmount, halved] at kept
    revert kept
    decide
  · intro validUntil among
    have registered : (sampleDeployment.run (registeredCalls 1 validUntil)).policy.policyExists 1 =
        true ∧ (registeredLogs 1 validUntil).map Log.emitted =
          policyEmittedBy (sampleDeployment.history (registeredCalls 1 validUntil)) ∧
        ((processLogs sampleConfig .insurancePolicy (registeredLogs 1 validUntil)
          State.empty).state.tables.policies 1).map PolicyRow.validUntil ≠
            some (((sampleDeployment.run (registeredCalls 1 validUntil)).policy.policies
              1).validUntil.toNat * 1000000) := by
      revert validUntil
      decide
    refine ⟨registered.2.1, ?_⟩
    intro mirrors
    obtain ⟨row, stored, agrees⟩ := mirrors 1 _
      (InsurancePolicy.getPolicy_eq_some.mpr ⟨registered.1, rfl⟩)
    apply registered.2.2
    rw [stored, Option.map_some, agrees.validUntil]
  · intro mirrors
    obtain ⟨row, stored, _⟩ := mirrors (2 ^ 63) _
      (InsurancePolicy.getPolicy_eq_some.mpr ⟨by decide, rfl⟩)
    have missing : ((processLogs sampleConfig .insurancePolicy (registeredLogs (2 ^ 63) 1000)
        State.empty).state.tables.policies (2 ^ 63)) = none := by decide
    rw [missing] at stored
    cases stored

end Sample

end Dics.Indexer
