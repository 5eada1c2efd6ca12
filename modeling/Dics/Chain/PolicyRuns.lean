/-
Whole runs of the InsurancePolicy contract.

Ids chosen by the manager and ids taken from the counter share one space.  The
frame of an existing policy, the freshness of issued ids and the blankness of
unused ones hold in every run, whatever is called in whatever order.
-/

import Dics.Chain.PolicyCalls

open Transactions Tokens Words

namespace Dics.InsurancePolicy

inductive Target where
  | policy (fn : Fn)
  | token (token : Address) (act : Act Address)
  deriving DecidableEq

structure Call where
  msg : Msg
  target : Target

def exec (self : Address) (world : World) (call : Call) :
    Except Error (World × Receipt Event) :=
  match call.target with
  | .policy fn => callFn self call.msg world fn
  | .token token act => do
      let (tokens, movements) ← (world.tokens.act token call.msg.sender act).mapError .token
      return ({ world with tokens := tokens }, { events := [], movements := movements })

abbrev Commit := Transactions.Commit World Call (Receipt Event)

structure Deployment where
  self : Address
  timelockAdmin : Address
  tokens : Bank Address

def Deployment.start (deployment : Deployment) : World :=
  { policy := initialized deployment.timelockAdmin
    tokens := deployment.tokens }

def Deployment.run (deployment : Deployment) (calls : List Call) : World :=
  Transactions.run (exec deployment.self) deployment.start calls

def Deployment.history (deployment : Deployment) (calls : List Call) : List Commit :=
  Transactions.history (exec deployment.self) deployment.start calls

section Frame

variable {self : Address} {world next : World} {call : Call} {receipt : Receipt Event}

/-- A committed transaction called the contract, or left its storage alone and
emitted nothing. -/
theorem exec_effect (done : exec self world call = .ok (next, receipt)) :
    (∃ fn, call.target = .policy fn ∧
      Effect call.msg world.policy next.policy receipt.events fn) ∨
    ((∀ fn, call.target ≠ .policy fn) ∧ next.policy = world.policy ∧ receipt.events = []) := by
  unfold exec at done
  cases target : call.target with
  | policy fn =>
      rw [target] at done
      exact Or.inl ⟨fn, rfl, callFn_effect done⟩
  | token token act =>
      rw [target] at done
      obtain ⟨⟨_, _⟩, _, same⟩ := bind_eq_ok.mp done
      cases same
      exact Or.inr ⟨fun _ => nofun, rfl, rfl⟩

/-- What never changes again about an existing policy. -/
structure Kept (id : Nat) (before after : State) : Prop where
  policyExists : after.policyExists id = true
  holder : (after.policies id).holder = (before.policies id).holder
  validFrom : (after.policies id).validFrom = (before.policies id).validFrom
  validUntil : (after.policies id).validUntil = (before.policies id).validUntil
  metadataHash : (after.policies id).metadataHash = (before.policies id).metadataHash
  revoked : (before.policies id).revoked = true → (after.policies id).revoked = true

theorem Kept.of_same {id : Nat} {before after : State} (found : before.policyExists id = true)
    (policies : after.policies id = before.policies id)
    (policyExists : after.policyExists id = before.policyExists id) : Kept id before after := by
  constructor
  · rw [policyExists]
    exact found
  · rw [policies]
  · rw [policies]
  · rw [policies]
  · rw [policies]
  · rw [policies]
    exact fun revoked => revoked

theorem Kept.trans {id : Nat} {first second third : State} (left : Kept id first second)
    (right : Kept id second third) : Kept id first third where
  policyExists := right.policyExists
  holder := right.holder.trans left.holder
  validFrom := right.validFrom.trans left.validFrom
  validUntil := right.validUntil.trans left.validUntil
  metadataHash := right.metadataHash.trans left.metadataHash
  revoked := fun revoked => right.revoked (left.revoked revoked)

/-- Rewriting one record in place: the other ids are untouched, and the written
one must keep what the frame promises. -/
private theorem Kept.of_rewrite {id written : Nat} {before after : State} {policy : Policy}
    (found : before.policyExists id = true)
    (policies : after.policies = Function.update before.policies written policy)
    (policyExists : after.policyExists = before.policyExists)
    (own : id = written → policy.holder = (before.policies id).holder ∧
      policy.validFrom = (before.policies id).validFrom ∧
      policy.validUntil = (before.policies id).validUntil ∧
      policy.metadataHash = (before.policies id).metadataHash ∧
      ((before.policies id).revoked = true → policy.revoked = true)) :
    Kept id before after := by
  by_cases same : id = written
  · obtain ⟨holder, validFrom, validUntil, metadataHash, revoked⟩ := own same
    have here : after.policies id = policy := by
      rw [policies, same, Function.update_self]
    constructor
    · rw [policyExists]
      exact found
    · rw [here, holder]
    · rw [here, validFrom]
    · rw [here, validUntil]
    · rw [here, metadataHash]
    · rw [here]
      exact revoked
  · apply Kept.of_same found
    · rw [policies, Function.update_of_ne same]
    · rw [policyExists]

theorem Effect.kept {msg : Msg} {before after : State} {events : List Event} {fn : Fn}
    (effect : Effect msg before after events fn) {id : Nat}
    (found : before.policyExists id = true) : Kept id before after := by
  cases effect with
  | issued _ issue source new policies policyExists _ _ rest announced quiet =>
      have other : id ≠ issue.policyId := by
        intro same
        rw [← same, found] at new
        cases new
      apply Kept.of_same found
      · rw [policies, Function.update_of_ne other]
      · rw [policyExists, Function.update_of_ne other]
  | revoked policyId _ policies policyExists _ _ =>
      apply Kept.of_rewrite found policies policyExists
      rintro rfl
      exact ⟨rfl, rfl, rfl, rfl, fun _ => rfl⟩
  | coverageUpdated policyId newCoverageAmount _ policies policyExists _ _ =>
      apply Kept.of_rewrite found policies policyExists
      rintro rfl
      exact ⟨rfl, rfl, rfl, rfl, fun revoked => revoked⟩
  | termsSet policyId amountPerPeriod periodSeconds _ same _ _ _ =>
      exact Kept.of_same found (congrFun same.policies id) (congrFun same.policyExists id)
  | premiumPaid policyId _ same _ _ _ =>
      exact Kept.of_same found (congrFun same.policies id) (congrFun same.policyExists id)
  | administered _ _ same _ _ =>
      exact Kept.of_same found (congrFun same.policies id) (congrFun same.policyExists id)

theorem kept_step (done : exec self world call = .ok (next, receipt)) {id : Nat}
    (found : world.policy.policyExists id = true) : Kept id world.policy next.policy := by
  rcases exec_effect done with ⟨fn, _, effect⟩ | ⟨_, same, _⟩
  · exact effect.kept found
  · rw [same]
    exact Kept.of_same found rfl rfl

/-- The coverage and the premium terms of an existing policy are changed only by
the function made for it. -/
theorem Effect.changes {msg : Msg} {before after : State} {events : List Event} {fn : Fn}
    (effect : Effect msg before after events fn) {id : Nat}
    (found : before.policyExists id = true) :
    ((after.policies id).coverageAmount = (before.policies id).coverageAmount ∨
      ∃ newCoverageAmount, fn = .updateCoverage id newCoverageAmount) ∧
    (after.premiumTerms id = before.premiumTerms id ∨
      ∃ amountPerPeriod periodSeconds,
        fn = .setPremiumTerms id amountPerPeriod periodSeconds) := by
  cases effect with
  | issued _ issue source new policies _ premiumTerms _ rest announced quiet =>
      have other : id ≠ issue.policyId := by
        intro same
        rw [← same, found] at new
        cases new
      rw [policies, Function.update_of_ne other]
      exact ⟨Or.inl rfl, Or.inl (premiumTerms id other)⟩
  | revoked policyId _ policies _ premiums _ =>
      refine ⟨Or.inl ?_, Or.inl (congrFun premiums.premiumTerms id)⟩
      by_cases same : id = policyId
      · rw [policies, same, Function.update_self]
      · rw [policies, Function.update_of_ne same]
  | coverageUpdated policyId newCoverageAmount _ policies _ premiums _ =>
      refine ⟨?_, Or.inl (congrFun premiums.premiumTerms id)⟩
      by_cases same : id = policyId
      · rw [same]
        exact Or.inr ⟨newCoverageAmount, rfl⟩
      · rw [policies, Function.update_of_ne same]
        exact Or.inl rfl
  | termsSet policyId amountPerPeriod periodSeconds _ policies premiumTerms _ _ =>
      refine ⟨Or.inl (by rw [policies.policies]), ?_⟩
      by_cases same : id = policyId
      · rw [same]
        exact Or.inr ⟨amountPerPeriod, periodSeconds, rfl⟩
      · exact Or.inl (premiumTerms id same)
  | premiumPaid policyId _ same premiumTerms _ _ =>
      exact ⟨Or.inl (by rw [same.policies]), Or.inl (congrFun premiumTerms id)⟩
  | administered _ _ same premiums _ =>
      exact ⟨Or.inl (by rw [same.policies]), Or.inl (congrFun premiums.premiumTerms id)⟩

end Frame

/-! ### Issued ids and unused ids -/

/-- The ids announced by the issuances, in order. -/
def issuedIds (commits : List Commit) : List Nat :=
  (commits.flatMap (fun commit => commit.output.events)).filterMap Event.issues

theorem issuedIds_snoc (past : List Commit) (commit : Commit) :
    issuedIds (past ++ [commit]) =
      issuedIds past ++ commit.output.events.filterMap Event.issues := by
  simp only [issuedIds, List.flatMap_append, List.flatMap_cons, List.flatMap_nil,
    List.append_nil, List.filterMap_append]

theorem issues_of_quiet {events : List Event} (quiet : Quiet events) :
    events.filterMap Event.issues = [] :=
  List.filterMap_eq_nil_iff.mpr (fun event member => (quiet event member).1)

/-- Exactly the issued ids exist, no id was issued twice, and an id that does not
exist still reads as it did at the start. -/
structure Issuance (world : World) (past : List Commit) : Prop where
  distinct : (issuedIds past).Nodup
  issued : ∀ id, world.policy.policyExists id = true ↔ id ∈ issuedIds past
  blank : ∀ id, world.policy.policyExists id = false →
    world.policy.policies id = emptyPolicy ∧
      world.policy.premiumTerms id = { amountPerPeriod := 0, periodSeconds := 0 } ∧
      world.policy.premiumPaidUntil id = 0

theorem issuance_start (deployment : Deployment) : Issuance deployment.start [] where
  distinct := List.nodup_nil
  issued := fun _ => ⟨nofun, nofun⟩
  blank := fun _ _ => ⟨rfl, rfl, rfl⟩

section Issuances

variable {world next : World} {past : List Commit} {commit : Commit}

/-- A call that announced no issuance and wrote to existing ids only. -/
private theorem Issuance.of_unissued (before : Issuance world past)
    (unissued : commit.output.events.filterMap Event.issues = [])
    (policyExists : next.policy.policyExists = world.policy.policyExists)
    (unused : ∀ id, world.policy.policyExists id = false →
      next.policy.policies id = world.policy.policies id ∧
        next.policy.premiumTerms id = world.policy.premiumTerms id ∧
        next.policy.premiumPaidUntil id = world.policy.premiumPaidUntil id) :
    Issuance next (past ++ [commit]) := by
  have same : issuedIds (past ++ [commit]) = issuedIds past := by
    rw [issuedIds_snoc, unissued, List.append_nil]
  constructor
  · rw [same]
    exact before.distinct
  · rw [same, policyExists]
    exact before.issued
  · intro id absent
    rw [policyExists] at absent
    obtain ⟨policies, premiumTerms, premiumPaidUntil⟩ := unused id absent
    rw [policies, premiumTerms, premiumPaidUntil]
    exact before.blank id absent

private theorem Issuance.of_issued (before : Issuance world past) {issue : Issue}
    (announced : commit.output.events.filterMap Event.issues = [issue.policyId])
    (new : world.policy.policyExists issue.policyId = false)
    (policies : next.policy.policies =
      Function.update world.policy.policies issue.policyId issue.policy)
    (policyExists : next.policy.policyExists =
      Function.update world.policy.policyExists issue.policyId true)
    (premiumTerms : ∀ id, id ≠ issue.policyId →
      next.policy.premiumTerms id = world.policy.premiumTerms id)
    (premiumPaidUntil : ∀ id, id ≠ issue.policyId →
      next.policy.premiumPaidUntil id = world.policy.premiumPaidUntil id) :
    Issuance next (past ++ [commit]) := by
  have unissued : issue.policyId ∉ issuedIds past := by
    intro already
    rw [(before.issued issue.policyId).mpr already] at new
    cases new
  constructor
  · rw [issuedIds_snoc, announced]
    apply List.nodup_append.mpr
    refine ⟨before.distinct, List.nodup_singleton _, ?_⟩
    intro id earlier other last same
    rw [List.mem_singleton.mp last] at same
    exact unissued (same ▸ earlier)
  · intro id
    rw [issuedIds_snoc, announced, List.mem_append, List.mem_singleton, policyExists]
    by_cases same : id = issue.policyId
    · rw [same, Function.update_self]
      exact ⟨fun _ => Or.inr rfl, fun _ => rfl⟩
    · rw [Function.update_of_ne same, before.issued]
      exact ⟨Or.inl, fun either => either.resolve_right same⟩
  · intro id absent
    have other : id ≠ issue.policyId := by
      intro same
      rw [policyExists, same, Function.update_self] at absent
      cases absent
    rw [policyExists, Function.update_of_ne other] at absent
    rw [policies, Function.update_of_ne other, premiumTerms id other, premiumPaidUntil id other]
    exact before.blank id absent

theorem issuance_step {self : Address} {call : Call} {receipt : Receipt Event}
    (before : Issuance world past) (done : exec self world call = .ok (next, receipt)) :
    Issuance next (past ++ [⟨world, call, receipt, next⟩]) := by
  have elsewhere {policyId id : Nat} (found : world.policy.policyExists policyId = true)
      (absent : world.policy.policyExists id = false) : id ≠ policyId := by
    intro same
    rw [same, found] at absent
    cases absent
  rcases exec_effect done with ⟨fn, _, effect⟩ | ⟨_, same, nothing⟩
  · cases effect with
    | issued _ issue source new policies policyExists premiumTerms premiumPaidUntil rest announced
        quiet =>
        apply before.of_issued _ new policies policyExists premiumTerms premiumPaidUntil
        rw [announced, List.filterMap_cons, issues_of_quiet quiet]
        rfl
    | revoked policyId found policies policyExists premiums announced =>
        apply before.of_unissued _ policyExists
        · intro id absent
          rw [policies, Function.update_of_ne (elsewhere found absent), premiums.premiumTerms,
            premiums.premiumPaidUntil]
          exact ⟨rfl, rfl, rfl⟩
        · rw [announced]
          rfl
    | coverageUpdated policyId newCoverageAmount found policies policyExists premiums quiet =>
        apply before.of_unissued (issues_of_quiet quiet) policyExists
        intro id absent
        rw [policies, Function.update_of_ne (elsewhere found absent), premiums.premiumTerms,
          premiums.premiumPaidUntil]
        exact ⟨rfl, rfl, rfl⟩
    | termsSet policyId amountPerPeriod periodSeconds found same premiumTerms premiumPaidUntil
        quiet =>
        apply before.of_unissued (issues_of_quiet quiet) same.policyExists
        intro id absent
        rw [same.policies, premiumTerms id (elsewhere found absent), premiumPaidUntil]
        exact ⟨rfl, rfl, rfl⟩
    | premiumPaid policyId found same premiumTerms premiumPaidUntil quiet =>
        apply before.of_unissued (issues_of_quiet quiet) same.policyExists
        intro id absent
        rw [same.policies, premiumTerms, premiumPaidUntil id (elsewhere found absent)]
        exact ⟨rfl, rfl, rfl⟩
    | administered _ _ same premiums quiet =>
        apply before.of_unissued (issues_of_quiet quiet) same.policyExists
        intro id absent
        rw [same.policies, premiums.premiumTerms, premiums.premiumPaidUntil]
        exact ⟨rfl, rfl, rfl⟩
  · apply before.of_unissued
    · rw [nothing]
      rfl
    · rw [same]
    · intro id _
      rw [same]
      exact ⟨rfl, rfl, rfl⟩

end Issuances

theorem issuance_run (deployment : Deployment) (calls : List Call) :
    Issuance (deployment.run calls) (deployment.history calls) := by
  refine @run_induction _ _ _ _ (exec deployment.self) Issuance (fun _ => True)
    deployment.start (issuance_start deployment) ?_ calls (fun _ _ => trivial)
  intro world past call next receipt before done _
  exact issuance_step before done

theorem kept_run (deployment : Deployment) (calls later : List Call) {id : Nat}
    (found : (deployment.run calls).policy.policyExists id = true) :
    Kept id (deployment.run calls).policy (deployment.run (calls ++ later)).policy := by
  have continued : deployment.run (calls ++ later) =
      Transactions.run (exec deployment.self) (deployment.run calls) later :=
    List.foldl_append
  rw [continued]
  refine @run_induction _ _ _ _ (exec deployment.self)
    (fun world _ => Kept id (deployment.run calls).policy world.policy) (fun _ => True)
    (deployment.run calls) (Kept.of_same found rfl rfl) ?_ later (fun _ _ => trivial)
  intro world past call next receipt before done _
  exact before.trans (kept_step done before.policyExists)

/-- The id a successful issuance used: it was free, and now it exists. -/
structure IssuesId (commit : Commit) (id : Nat) : Prop where
  announced : commit.output.events.filterMap Event.issues = [id]
  new : commit.before.policy.policyExists id = false
  registered : commit.after.policy.policyExists id = true

theorem Effect.issuesId {msg : Msg} {commit : Commit} {fn : Fn}
    (effect : Effect msg commit.before.policy commit.after.policy commit.output.events fn)
    (issuing : fn.issuing = true) :
    ∃ issue, IssuedBy msg commit.before.policy issue fn ∧ IssuesId commit issue.policyId := by
  cases effect with
  | issued _ issue source new policies policyExists _ _ rest announced quiet =>
      refine ⟨issue, source, ?_, new, ?_⟩
      · rw [announced, List.filterMap_cons, issues_of_quiet quiet]
        rfl
      · rw [policyExists, Function.update_self]
  | administered _ noIssue _ _ _ =>
      rw [noIssue] at issuing
      cases issuing
  | _ => cases issuing

theorem history_effect (deployment : Deployment) (calls : List Call) {commit : Commit}
    (member : commit ∈ deployment.history calls) :
    (∃ fn, commit.call.target = .policy fn ∧
      Effect commit.call.msg commit.before.policy commit.after.policy commit.output.events fn) ∨
    ((∀ fn, commit.call.target ≠ .policy fn) ∧ commit.after.policy = commit.before.policy) := by
  obtain ⟨past, future, cut⟩ := List.append_of_mem member
  obtain ⟨_, _, _, done⟩ := history_split cut
  rcases exec_effect done with effect | ⟨elsewhere, same, _⟩
  · exact Or.inl effect
  · exact Or.inr ⟨elsewhere, same⟩

def Fn.onTemplates : Fn → Bool
  | .addPolicyTemplate _ _ _ _ _ _ => true
  | .setPolicyTemplateActive _ _ => true
  | _ => false

/-- What one commit of a run may do to the policies. -/
structure FramedCommit (commit : Commit) : Prop where
  coverage : ∀ id, commit.before.policy.policyExists id = true →
    (commit.after.policy.policies id).coverageAmount ≠
      (commit.before.policy.policies id).coverageAmount →
    ∃ newCoverageAmount, commit.call.target = .policy (.updateCoverage id newCoverageAmount)
  premiumTerms : ∀ id, commit.before.policy.policyExists id = true →
    commit.after.policy.premiumTerms id ≠ commit.before.policy.premiumTerms id →
    ∃ amountPerPeriod periodSeconds,
      commit.call.target = .policy (.setPremiumTerms id amountPerPeriod periodSeconds)
  templates : ∀ fn, commit.call.target = .policy fn → fn.onTemplates = true →
    SamePolicies commit.before.policy commit.after.policy ∧
      SamePremiums commit.before.policy commit.after.policy
  registers : ∀ id holder validFrom validUntil coverageAmount metadataHash,
    commit.call.target =
      .policy (.registerPolicy id holder validFrom validUntil coverageAmount metadataHash) →
    IssuesId commit id
  subscribes : ∀ templateId, commit.call.target = .policy (.subscribeToPolicy templateId) →
    ∃ id, IssuesId commit id

theorem framedCommit_of_history (deployment : Deployment) (calls : List Call) :
    ∀ commit ∈ deployment.history calls, FramedCommit commit := by
  intro commit member
  rcases history_effect deployment calls member with ⟨fn, target, effect⟩ | ⟨elsewhere, same⟩
  · refine ⟨?_, ?_, ?_, ?_, ?_⟩
    · intro id found changed
      obtain ⟨newCoverageAmount, rfl⟩ := (effect.changes found).1.resolve_left changed
      exact ⟨newCoverageAmount, target⟩
    · intro id found changed
      obtain ⟨amountPerPeriod, periodSeconds, rfl⟩ := (effect.changes found).2.resolve_left changed
      exact ⟨amountPerPeriod, periodSeconds, target⟩
    · intro other otherTarget onTemplates
      rw [target] at otherTarget
      cases otherTarget
      cases effect with
      | issued _ issue source =>
          cases source with
          | registerPolicy => cases onTemplates
          | subscribeToPolicy => cases onTemplates
      | administered _ _ same premiums _ => exact ⟨same, premiums⟩
      | _ => cases onTemplates
    · intro id holder validFrom validUntil coverageAmount metadataHash registers
      rw [target] at registers
      cases registers
      obtain ⟨issue, source, issuesId⟩ := effect.issuesId rfl
      cases source
      exact issuesId
    · intro templateId subscribes
      rw [target] at subscribes
      cases subscribes
      obtain ⟨issue, _, issuesId⟩ := effect.issuesId rfl
      exact ⟨issue.policyId, issuesId⟩
  · refine ⟨?_, ?_, ?_, ?_, ?_⟩
    · intro id _ changed
      rw [same] at changed
      exact absurd rfl changed
    · intro id _ changed
      rw [same] at changed
      exact absurd rfl changed
    · intro fn target _
      exact absurd target (elsewhere fn)
    · intro id holder validFrom validUntil coverageAmount metadataHash target
      exact absurd target (elsewhere _)
    · intro templateId target
      exact absurd target (elsewhere _)

/-- The frame of every policy in every run: it exists for ever with its holder,
dates and metadata, a revocation stays, each commit respects `FramedCommit`, no
id is issued twice, and an id that does not exist has no premium. -/
theorem policies_keep_their_frame (deployment : Deployment) (calls later : List Call) :
    (∀ id, (deployment.run calls).policy.policyExists id = true →
      Kept id (deployment.run calls).policy (deployment.run (calls ++ later)).policy) ∧
    (∀ id, ((deployment.run calls).policy.policies id).revoked = true →
      ((deployment.run (calls ++ later)).policy.policies id).revoked = true) ∧
    (∀ commit ∈ deployment.history calls, FramedCommit commit) ∧
    (issuedIds (deployment.history calls)).Nodup ∧
    ∀ id, (deployment.run calls).policy.policyExists id = false →
      (deployment.run calls).policy.premiumTerms id =
          { amountPerPeriod := 0, periodSeconds := 0 } ∧
        (deployment.run calls).policy.premiumPaidUntil id = 0 := by
  have issuance := issuance_run deployment calls
  refine ⟨fun id found => kept_run deployment calls later found, ?_,
    framedCommit_of_history deployment calls, issuance.distinct, ?_⟩
  · intro id revoked
    cases found : (deployment.run calls).policy.policyExists id with
    | true => exact (kept_run deployment calls later found).revoked revoked
    | false =>
        rw [(issuance.blank id found).1] at revoked
        cases revoked
  · intro id absent
    exact (issuance.blank id absent).2

/-- `0xAD` administers the contract `0x90`; `0xA1` owns `100` of every token and
lets the contract spend them. -/
def sampleDeployment : Deployment where
  self := 0x90
  timelockAdmin := 0xAD
  tokens _ :=
    { balances := fun account => if account = 0xA1 then 100 else 0
      allowances := fun owner spender => if owner = 0xA1 ∧ spender = 0x90 then 100 else 0
      totalSupply := 100 }

def sampleCall (sender : Address) (fn : Fn) : Call where
  msg := { sender := sender, timestamp := 10 }
  target := .policy fn

/-- The manager `0xE1` takes id `1` by hand, so the subscription of `0xA1` skips
it. -/
def sampleCalls : List Call :=
  [sampleCall 0xAD (.changeRole (.grantRole .policyManager 0xE1)),
   sampleCall 0xAD (.setPremiumConfig 0x77 0x7E 50),
   sampleCall 0xE1 (.registerPolicy 1 0xB1 0 1000 900 0),
   sampleCall 0xE1 (.addPolicyTemplate 5 600 10 30 365 0),
   sampleCall 0xA1 (.subscribeToPolicy 5),
   sampleCall 0xE1 (.revokePolicy 1)]

example : issuedIds (sampleDeployment.history sampleCalls) = [1, 2] := by decide

end Dics.InsurancePolicy
