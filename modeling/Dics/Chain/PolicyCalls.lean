/-
Calls on the InsurancePolicy contract, and what a committed call can have done.

Twelve functions write to four mappings indexed by policy id.  `Effect` says
once what a committed call can do to them and which events it emits; later
modules argue from it and never unfold a contract function.
-/

import Dics.Chain.InsurancePolicy

open Transactions Tokens Words

namespace Dics.InsurancePolicy

/-! ### What a committed call did -/

/-- What `PolicyRegistered` announces.  The stored record keeps the low bits. -/
structure Issue where
  policyId : Nat
  holder : Address
  validFrom : Nat
  validUntil : Nat
  coverageAmount : Nat
  metadataHash : Bytes32

def Issue.policy (issue : Issue) : Policy :=
  { policyId := BitVec.ofNat 128 issue.policyId
    coverageAmount := BitVec.ofNat 128 issue.coverageAmount
    holder := issue.holder
    validFrom := BitVec.ofNat 40 issue.validFrom
    validUntil := BitVec.ofNat 40 issue.validUntil
    revoked := false
    metadataHash := issue.metadataHash }

def Issue.event (issue : Issue) : Event :=
  .policyRegistered issue.policyId issue.holder issue.validFrom issue.validUntil
    issue.coverageAmount issue.metadataHash

def Event.issues : Event → Option Nat
  | .policyRegistered policyId _ _ _ _ _ => some policyId
  | _ => none

def Event.revokes : Event → Option Nat
  | .policyRevoked policyId => some policyId
  | _ => none

/-- Events that neither begin nor end a policy. -/
def Quiet (events : List Event) : Prop :=
  ∀ event ∈ events, event.issues = none ∧ event.revokes = none

structure SamePolicies (before after : State) : Prop where
  policies : after.policies = before.policies
  policyExists : after.policyExists = before.policyExists

structure SamePremiums (before after : State) : Prop where
  premiumTerms : after.premiumTerms = before.premiumTerms
  premiumPaidUntil : after.premiumPaidUntil = before.premiumPaidUntil

/-- `registerPolicy` announces its arguments, `subscribeToPolicy` the next free id,
the block time and the end of the template's term. -/
inductive IssuedBy (msg : Msg) (before : State) (issue : Issue) : Fn → Prop where
  | registerPolicy : IssuedBy msg before issue (.registerPolicy issue.policyId issue.holder
      issue.validFrom issue.validUntil issue.coverageAmount issue.metadataHash)
  | subscribeToPolicy (templateId : Nat)
      (free : skipForward before.policyExists 1000 before.nextPolicyId = some issue.policyId)
      (holder : issue.holder = msg.sender)
      (validFrom : issue.validFrom = msg.timestamp)
      (validUntil : issue.validUntil =
        msg.timestamp + (before.policyTemplates templateId).termSeconds.toNat)
      (coverage : issue.coverageAmount < 2 ^ 128) :
      IssuedBy msg before issue (.subscribeToPolicy templateId)

def Fn.issuing : Fn → Bool
  | .registerPolicy _ _ _ _ _ _ => true
  | .subscribeToPolicy _ => true
  | _ => false

inductive Effect (msg : Msg) (before after : State) (events : List Event) : Fn → Prop where
  | issued (fn : Fn) (issue : Issue) (source : IssuedBy msg before issue fn)
      (new : before.policyExists issue.policyId = false)
      (policies : after.policies =
        Function.update before.policies issue.policyId issue.policy)
      (policyExists : after.policyExists =
        Function.update before.policyExists issue.policyId true)
      (premiumTerms : ∀ id, id ≠ issue.policyId →
        after.premiumTerms id = before.premiumTerms id)
      (premiumPaidUntil : ∀ id, id ≠ issue.policyId →
        after.premiumPaidUntil id = before.premiumPaidUntil id)
      (rest : List Event) (announced : events = issue.event :: rest) (quiet : Quiet rest) :
      Effect msg before after events fn
  | revoked (policyId : Nat) (found : before.policyExists policyId = true)
      (policies : after.policies = Function.update before.policies policyId
        { before.policies policyId with revoked := true })
      (policyExists : after.policyExists = before.policyExists)
      (premiums : SamePremiums before after)
      (announced : events = [.policyRevoked policyId]) :
      Effect msg before after events (.revokePolicy policyId)
  | coverageUpdated (policyId newCoverageAmount : Nat)
      (found : before.policyExists policyId = true)
      (policies : after.policies = Function.update before.policies policyId
        { before.policies policyId with coverageAmount := BitVec.ofNat 128 newCoverageAmount })
      (policyExists : after.policyExists = before.policyExists)
      (premiums : SamePremiums before after) (quiet : Quiet events) :
      Effect msg before after events (.updateCoverage policyId newCoverageAmount)
  | termsSet (policyId amountPerPeriod periodSeconds : Nat)
      (found : before.policyExists policyId = true) (same : SamePolicies before after)
      (premiumTerms : ∀ id, id ≠ policyId → after.premiumTerms id = before.premiumTerms id)
      (premiumPaidUntil : after.premiumPaidUntil = before.premiumPaidUntil)
      (quiet : Quiet events) :
      Effect msg before after events (.setPremiumTerms policyId amountPerPeriod periodSeconds)
  | premiumPaid (policyId : Nat) (found : before.policyExists policyId = true)
      (same : SamePolicies before after)
      (premiumTerms : after.premiumTerms = before.premiumTerms)
      (premiumPaidUntil : ∀ id, id ≠ policyId →
        after.premiumPaidUntil id = before.premiumPaidUntil id)
      (quiet : Quiet events) :
      Effect msg before after events (.payPremium policyId)
  | administered (fn : Fn) (noIssue : fn.issuing = false) (same : SamePolicies before after)
      (premiums : SamePremiums before after) (quiet : Quiet events) :
      Effect msg before after events fn

/-- The skip-forward loop stops at an id that is not taken. -/
theorem skipForward_free {policyExists : Nat → Bool} {attemptsLeft start policyId : Nat}
    (found : skipForward policyExists attemptsLeft start = some policyId) :
    policyExists policyId = false := by
  induction attemptsLeft generalizing start with
  | zero => cases found
  | succ attemptsLeft ih =>
      unfold skipForward at found
      split at found
      · obtain ⟨next, _, later⟩ := Option.bind_eq_some_iff.mp found
        exact ih later
      · rename_i free
        cases found
        exact Bool.eq_false_of_not_eq_true free

theorem quiet_singleton {event : Event} (issues : event.issues = none)
    (revokes : event.revokes = none) : Quiet [event] := by
  intro other member
  rw [List.mem_singleton.mp member]
  exact ⟨issues, revokes⟩

theorem collectPremium_effect {self payer : Address} {policyId : Nat} {msg : Msg}
    {state after : State} {tokens paid : Bank Address} {receipt : Receipt Event}
    (done : collectPremium self policyId payer msg state tokens = .ok ((after, paid), receipt)) :
    ∃ newPaidUntil,
      after = { state with
        premiumPaidUntil := Function.update state.premiumPaidUntil policyId newPaidUntil } ∧
      Quiet receipt.events := by
  simp only [collectPremium, require_bind_eq_ok, orRevert_bind_eq_ok] at done
  obtain ⟨_, _, newPaidUntil, _, collecting⟩ := done
  obtain ⟨⟨_, _⟩, _, same⟩ := bind_eq_ok.mp collecting
  cases same
  exact ⟨newPaidUntil, rfl, quiet_singleton rfl rfl⟩

section Effects

variable {self : Address} {msg : Msg} {world next : World} {receipt : Receipt Event}

theorem subscribeToPolicy_effect {templateId : Nat}
    (done : callFn self msg world (.subscribeToPolicy templateId) = .ok (next, receipt)) :
    Effect msg world.policy next.policy receipt.events (.subscribeToPolicy templateId) := by
  obtain ⟨⟨⟨state, tokens⟩, paid⟩, subscribing, same⟩ := bind_eq_ok.mp done
  cases same
  simp only [subscribeToPolicy, whenNotPaused, require_bind_eq_ok, orRevert_bind_eq_ok,
    checkedAdd_eq_some] at subscribing
  obtain ⟨_, _, _, policyId, free, _, _, validUntil, ⟨_, ends⟩, collecting⟩ := subscribing
  obtain ⟨⟨⟨_, _⟩, collected⟩, collect, same⟩ := bind_eq_ok.mp collecting
  cases same
  obtain ⟨newPaidUntil, rfl, quiet⟩ := collectPremium_effect collect
  let template := world.policy.policyTemplates templateId
  refine .issued _
    { policyId := policyId
      holder := msg.sender
      validFrom := msg.timestamp
      validUntil := validUntil
      coverageAmount := template.coverageAmount.toNat
      metadataHash := template.metadataHash }
    (.subscribeToPolicy templateId free rfl rfl ends.symm template.coverageAmount.isLt)
    (skipForward_free free) ?_ rfl ?_ ?_ _ rfl ?_
  · simp only [Issue.policy, BitVec.ofNat_toNat, BitVec.setWidth_eq, template]
  · intro id other
    exact Function.update_of_ne other _ _
  · intro id other
    exact Function.update_of_ne other _ _
  · intro event member
    rcases List.mem_cons.mp member with rfl | later
    · exact ⟨rfl, rfl⟩
    · exact quiet event later

/-- Every committed call has one of these effects. -/
theorem callFn_effect {fn : Fn} (done : callFn self msg world fn = .ok (next, receipt)) :
    Effect msg world.policy next.policy receipt.events fn := by
  cases fn with
  | subscribeToPolicy templateId => exact subscribeToPolicy_effect done
  | registerPolicy policyId holder validFrom validUntil coverageAmount metadataHash =>
      simp only [callFn, World.withState, registerPolicy, whenNotPaused, onlyRole, bind_assoc,
        require_bind_eq_ok, pure_bind, pure_eq_ok] at done
      obtain ⟨_, _, new, _, _, same⟩ := done
      cases same
      exact .issued _ ⟨policyId, holder, validFrom, validUntil, coverageAmount, metadataHash⟩
        .registerPolicy new rfl rfl (fun _ _ => rfl) (fun _ _ => rfl) [] rfl nofun
  | revokePolicy policyId =>
      simp only [callFn, World.withState, revokePolicy, whenNotPaused, onlyRole, bind_assoc,
        require_bind_eq_ok, pure_bind, pure_eq_ok] at done
      obtain ⟨_, _, found, same⟩ := done
      cases same
      exact .revoked policyId found rfl rfl ⟨rfl, rfl⟩ rfl
  | updateCoverage policyId newCoverageAmount =>
      simp only [callFn, World.withState, updateCoverage, whenNotPaused, onlyRole, bind_assoc,
        require_bind_eq_ok, pure_bind, pure_eq_ok] at done
      obtain ⟨_, _, found, same⟩ := done
      cases same
      exact .coverageUpdated policyId newCoverageAmount found rfl rfl ⟨rfl, rfl⟩
        (quiet_singleton rfl rfl)
  | setPremiumTerms policyId amountPerPeriod periodSeconds =>
      simp only [callFn, World.withState, setPremiumTerms, onlyRole, bind_assoc,
        require_bind_eq_ok, pure_bind, pure_eq_ok] at done
      obtain ⟨_, found, same⟩ := done
      cases same
      refine .termsSet policyId amountPerPeriod periodSeconds found ⟨rfl, rfl⟩ ?_ rfl
        (quiet_singleton rfl rfl)
      intro id other
      exact Function.update_of_ne other _ _
  | payPremium policyId =>
      obtain ⟨⟨⟨state, tokens⟩, paid⟩, paying, same⟩ := bind_eq_ok.mp done
      cases same
      simp only [payPremium, whenNotPaused, require_bind_eq_ok] at paying
      obtain ⟨_, found, _, collect⟩ := paying
      obtain ⟨newPaidUntil, rfl, quiet⟩ := collectPremium_effect collect
      refine .premiumPaid policyId found ⟨rfl, rfl⟩ rfl ?_ quiet
      intro id other
      exact Function.update_of_ne other _ _
  | setPremiumConfig token treasury gracePeriodSeconds =>
      simp only [callFn, World.withState, setPremiumConfig, onlyRole, bind_assoc,
        require_bind_eq_ok, pure_bind, pure_eq_ok] at done
      obtain ⟨_, same⟩ := done
      cases same
      exact .administered _ rfl ⟨rfl, rfl⟩ ⟨rfl, rfl⟩ (quiet_singleton rfl rfl)
  | addPolicyTemplate templateId coverageAmount premiumAmountPerPeriod periodSeconds termSeconds
      metadataHash =>
      simp only [callFn, World.withState, addPolicyTemplate, whenNotPaused, onlyRole, bind_assoc,
        require_bind_eq_ok, pure_bind, pure_eq_ok] at done
      obtain ⟨_, _, same⟩ := done
      cases same
      exact .administered _ rfl ⟨rfl, rfl⟩ ⟨rfl, rfl⟩ (quiet_singleton rfl rfl)
  | setPolicyTemplateActive templateId active =>
      simp only [callFn, World.withState, setPolicyTemplateActive, onlyRole, bind_assoc,
        require_bind_eq_ok, pure_bind, pure_eq_ok] at done
      obtain ⟨_, _, same⟩ := done
      cases same
      exact .administered _ rfl ⟨rfl, rfl⟩ ⟨rfl, rfl⟩ (quiet_singleton rfl rfl)
  | pause =>
      simp only [callFn, World.withState, pause, onlyRole, whenNotPaused, bind_assoc,
        require_bind_eq_ok, pure_bind, pure_eq_ok] at done
      obtain ⟨_, _, same⟩ := done
      cases same
      exact .administered _ rfl ⟨rfl, rfl⟩ ⟨rfl, rfl⟩ (quiet_singleton rfl rfl)
  | unpause =>
      simp only [callFn, World.withState, unpause, onlyRole, bind_assoc,
        require_bind_eq_ok, pure_bind, pure_eq_ok] at done
      obtain ⟨_, _, same⟩ := done
      cases same
      exact .administered _ rfl ⟨rfl, rfl⟩ ⟨rfl, rfl⟩ (quiet_singleton rfl rfl)
  | changeRole change =>
      simp only [callFn, World.withState, changeRole, bind_assoc] at done
      obtain ⟨roles, _, same⟩ := bind_eq_ok.mp done
      cases same
      exact .administered _ rfl ⟨rfl, rfl⟩ ⟨rfl, rfl⟩ (quiet_singleton rfl rfl)

end Effects

end Dics.InsurancePolicy
