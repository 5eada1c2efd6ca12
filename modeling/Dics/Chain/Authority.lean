/-
Where authority over the insurance contracts comes from.

Take any circle of accounts that holds every role to begin with and whose
members grant roles only among themselves.  No run lets a role leave the
circle, so all that anyone else ever does is to buy a policy, pay its premium,
submit a claim on it, move tokens, or renounce a role they do not have.
-/

import Dics.Chain.Insurance
import Dics.Chain.PolicyCalls

open Transactions Tokens Words

namespace Dics.ClaimRegistry

/-- The functions without a role check. -/
def Fn.isOpen : Fn → Bool
  | .submitClaim _ _ _ => true
  | .changeRole _ => true
  | _ => false

theorem role_of_callFn {self : Address} {registries : Address → PolicyRegistry} {msg : Msg}
    {world next : World} {receipt : Receipt Event} {fn : Fn}
    (done : callFn self registries msg world fn = .ok (next, receipt)) :
    fn.isOpen = true ∨ ∃ role, world.registry.roles role msg.sender = true := by
  cases fn with
  | submitClaim policyId merkleRoot amount => exact Or.inl rfl
  | changeRole change => exact Or.inl rfl
  | setClaimStatus claimId status => exact Or.inr ⟨.underwriter, (setClaimStatus_ok done).2.1⟩
  | recordOracleVerification claimId requestId approved =>
      exact Or.inr ⟨.oracle, (recordOracleVerification_ok done).2.1⟩
  | payoutClaim claimId =>
      simp only [callFn, World.withTokens, payoutClaim, whenNotPaused, onlyRole, bind_assoc,
        require_bind_eq_ok] at done
      exact Or.inr ⟨.underwriter, done.2.1⟩
  | releaseStuckPayout claimId =>
      simp only [callFn, World.withTokens, releaseStuckPayout, onlyRole, bind_assoc,
        require_bind_eq_ok] at done
      exact Or.inr ⟨.admin, done.1⟩
  | pause =>
      simp only [callFn, World.withState, pause, onlyRole, bind_assoc,
        require_bind_eq_ok] at done
      exact Or.inr ⟨.pauser, done.1⟩
  | unpause =>
      simp only [callFn, World.withState, unpause, onlyRole, bind_assoc,
        require_bind_eq_ok] at done
      exact Or.inr ⟨.admin, done.1⟩
  | updateRateLimits maxPerClaim maxPerWindow windowSeconds =>
      simp only [callFn, World.withState, updateRateLimits, onlyRole, bind_assoc,
        require_bind_eq_ok] at done
      exact Or.inr ⟨.admin, done.1⟩
  | setPolicyRegistry newPolicyRegistry =>
      simp only [callFn, World.withState, setPolicyRegistry, onlyRole, bind_assoc,
        require_bind_eq_ok] at done
      exact Or.inr ⟨.admin, done.1⟩
  | rescueForeignToken token recipient amount =>
      simp only [callFn, World.withTokens, rescueForeignToken, onlyRole, bind_assoc,
        require_bind_eq_ok] at done
      exact Or.inr ⟨.admin, done.1⟩

theorem changeRole_ok {self : Address} {registries : Address → PolicyRegistry} {msg : Msg}
    {world next : World} {receipt : Receipt Event} {change : Roles.Change Role Address}
    (done : callFn self registries msg world (.changeRole change) = .ok (next, receipt)) :
    ∃ roles, change.apply .defaultAdmin Error.accessControlUnauthorizedAccount msg.sender
        world.registry.roles = .ok roles ∧
      next = { world with registry := { world.registry with roles := roles } } := by
  simp only [callFn, World.withState, changeRole, bind_assoc] at done
  obtain ⟨roles, changed, same⟩ := bind_eq_ok.mp done
  cases same
  exact ⟨roles, changed, rfl⟩

theorem initialized_within (args : InitArgs) (timestamp : Nat) {circle : Address → Prop}
    (founder : circle args.timelockAdmin) :
    (initialized args timestamp).roles.Within circle :=
  (((Roles.Table.within_empty circle).assign founder).assign founder).assign founder

/-- Nothing but claims with new ids. -/
def OnlyFiled (before after : State) : Prop :=
  ∃ nextClaimId claims policyClaims, after = { before with nextClaimId, claims, policyClaims } ∧
    ∀ id, id < before.nextClaimId → claims id = before.claims id

theorem OnlyFiled.refl (state : State) : OnlyFiled state state :=
  ⟨_, _, _, rfl, fun _ _ => rfl⟩

theorem submitClaim_onlyFiled {self : Address} {registries : Address → PolicyRegistry}
    {msg : Msg} {world next : World} {receipt : Receipt Event} {policyId amount : Nat}
    {merkleRoot : Bytes32}
    (done : callFn self registries msg world (.submitClaim policyId merkleRoot amount) =
      .ok (next, receipt)) :
    OnlyFiled world.registry next.registry := by
  obtain ⟨⟨state, events⟩, submitted, same⟩ := bind_eq_ok.mp done
  cases same
  simp only [submitClaim, whenNotPaused, require_bind_eq_ok, orRevert_bind_eq_ok,
    pure_eq_ok] at submitted
  obtain ⟨_, _, _, _, _, _, _, _, _, _, _, _, _, _, _, _, _, same⟩ := submitted
  cases same
  refine ⟨_, _, _, rfl, ?_⟩
  intro id handedOut
  exact Function.update_of_ne (Nat.ne_of_lt handedOut) _ _

end Dics.ClaimRegistry

namespace Dics.InsurancePolicy

def Fn.isOpen : Fn → Bool
  | .subscribeToPolicy _ => true
  | .payPremium _ => true
  | _ => false

section Calls

variable {self : Address} {msg : Msg} {world next : World} {receipt : Receipt Event} {fn : Fn}

/-- A call that is not about roles leaves them alone, and its caller has one
unless the function is open to all. -/
theorem role_of_callFn (done : callFn self msg world fn = .ok (next, receipt))
    (other : ∀ change, fn ≠ .changeRole change) :
    next.policy.roles = world.policy.roles ∧
      (fn.isOpen = true ∨ ∃ role, world.policy.roles role msg.sender = true) := by
  cases fn with
  | changeRole change => exact absurd rfl (other change)
  | subscribeToPolicy templateId =>
      obtain ⟨⟨⟨state, tokens⟩, paid⟩, subscribing, same⟩ := bind_eq_ok.mp done
      cases same
      simp only [subscribeToPolicy, whenNotPaused, require_bind_eq_ok,
        orRevert_bind_eq_ok] at subscribing
      obtain ⟨_, _, _, _, _, _, _, _, _, collecting⟩ := subscribing
      obtain ⟨⟨⟨_, _⟩, collected⟩, collect, same⟩ := bind_eq_ok.mp collecting
      cases same
      obtain ⟨newPaidUntil, rfl, _⟩ := collectPremium_effect collect
      exact ⟨rfl, Or.inl rfl⟩
  | payPremium policyId =>
      obtain ⟨⟨⟨state, tokens⟩, paid⟩, paying, same⟩ := bind_eq_ok.mp done
      cases same
      simp only [payPremium, whenNotPaused, require_bind_eq_ok] at paying
      obtain ⟨newPaidUntil, rfl, _⟩ := collectPremium_effect paying.2.2.2
      exact ⟨rfl, Or.inl rfl⟩
  | setPremiumConfig token treasury gracePeriodSeconds =>
      simp only [callFn, World.withState, setPremiumConfig, onlyRole, bind_assoc,
        require_bind_eq_ok, pure_bind, pure_eq_ok] at done
      obtain ⟨held, same⟩ := done
      cases same
      exact ⟨rfl, Or.inr ⟨.admin, held⟩⟩
  | setPremiumTerms policyId amountPerPeriod periodSeconds =>
      simp only [callFn, World.withState, setPremiumTerms, onlyRole, bind_assoc,
        require_bind_eq_ok, pure_bind, pure_eq_ok] at done
      obtain ⟨held, _, same⟩ := done
      cases same
      exact ⟨rfl, Or.inr ⟨.policyManager, held⟩⟩
  | addPolicyTemplate templateId coverageAmount premiumAmountPerPeriod periodSeconds termSeconds
      metadataHash =>
      simp only [callFn, World.withState, addPolicyTemplate, whenNotPaused, onlyRole, bind_assoc,
        require_bind_eq_ok, pure_bind, pure_eq_ok] at done
      obtain ⟨_, held, same⟩ := done
      cases same
      exact ⟨rfl, Or.inr ⟨.policyManager, held⟩⟩
  | setPolicyTemplateActive templateId active =>
      simp only [callFn, World.withState, setPolicyTemplateActive, onlyRole, bind_assoc,
        require_bind_eq_ok, pure_bind, pure_eq_ok] at done
      obtain ⟨held, _, same⟩ := done
      cases same
      exact ⟨rfl, Or.inr ⟨.policyManager, held⟩⟩
  | registerPolicy policyId holder validFrom validUntil coverageAmount metadataHash =>
      simp only [callFn, World.withState, registerPolicy, whenNotPaused, onlyRole, bind_assoc,
        require_bind_eq_ok, pure_bind, pure_eq_ok] at done
      obtain ⟨_, held, _, _, _, same⟩ := done
      cases same
      exact ⟨rfl, Or.inr ⟨.policyManager, held⟩⟩
  | revokePolicy policyId =>
      simp only [callFn, World.withState, revokePolicy, whenNotPaused, onlyRole, bind_assoc,
        require_bind_eq_ok, pure_bind, pure_eq_ok] at done
      obtain ⟨_, held, _, same⟩ := done
      cases same
      exact ⟨rfl, Or.inr ⟨.policyManager, held⟩⟩
  | updateCoverage policyId newCoverageAmount =>
      simp only [callFn, World.withState, updateCoverage, whenNotPaused, onlyRole, bind_assoc,
        require_bind_eq_ok, pure_bind, pure_eq_ok] at done
      obtain ⟨_, held, _, same⟩ := done
      cases same
      exact ⟨rfl, Or.inr ⟨.policyManager, held⟩⟩
  | pause =>
      simp only [callFn, World.withState, pause, onlyRole, whenNotPaused, bind_assoc,
        require_bind_eq_ok, pure_bind, pure_eq_ok] at done
      obtain ⟨held, _, same⟩ := done
      cases same
      exact ⟨rfl, Or.inr ⟨.pauser, held⟩⟩
  | unpause =>
      simp only [callFn, World.withState, unpause, onlyRole, bind_assoc,
        require_bind_eq_ok, pure_bind, pure_eq_ok] at done
      obtain ⟨held, _, same⟩ := done
      cases same
      exact ⟨rfl, Or.inr ⟨.admin, held⟩⟩

theorem changeRole_ok {change : Roles.Change Role Address}
    (done : callFn self msg world (.changeRole change) = .ok (next, receipt)) :
    ∃ roles, change.apply .defaultAdmin Error.accessControlUnauthorizedAccount msg.sender
        world.policy.roles = .ok roles ∧
      next = { world with policy := { world.policy with roles := roles } } := by
  simp only [callFn, World.withState, changeRole, bind_assoc] at done
  obtain ⟨roles, changed, same⟩ := bind_eq_ok.mp done
  cases same
  exact ⟨roles, changed, rfl⟩

/-- Nothing but a new policy or a premium paid by the policy's own holder. -/
def OnlyBought (sender : Address) (before after : State) : Prop :=
  ∃ policies policyExists premiumTerms premiumPaidUntil nextPolicyId,
    after =
      { before with
        policies := policies
        policyExists := policyExists
        premiumTerms := premiumTerms
        premiumPaidUntil := premiumPaidUntil
        nextPolicyId := nextPolicyId } ∧
    ∀ id, before.policyExists id = true → policies id = before.policies id ∧
      policyExists id = true ∧ premiumTerms id = before.premiumTerms id ∧
      (premiumPaidUntil id = before.premiumPaidUntil id ∨ (before.policies id).holder = sender)

theorem OnlyBought.refl (sender : Address) (state : State) : OnlyBought sender state state :=
  ⟨_, _, _, _, _, rfl, fun _ found => ⟨rfl, found, rfl, Or.inl rfl⟩⟩

theorem payPremium_onlyBought {policyId : Nat}
    (done : callFn self msg world (.payPremium policyId) = .ok (next, receipt)) :
    OnlyBought msg.sender world.policy next.policy := by
  obtain ⟨⟨⟨state, tokens⟩, paid⟩, paying, same⟩ := bind_eq_ok.mp done
  cases same
  simp only [payPremium, whenNotPaused, require_bind_eq_ok] at paying
  obtain ⟨_, _, holder, collect⟩ := paying
  obtain ⟨newPaidUntil, rfl, _⟩ := collectPremium_effect collect
  refine ⟨_, _, _, _, _, rfl, ?_⟩
  intro id found
  refine ⟨rfl, found, rfl, ?_⟩
  by_cases same : id = policyId
  · subst same
    exact Or.inr holder
  · exact Or.inl (Function.update_of_ne same _ _)

theorem subscribeToPolicy_onlyBought {templateId : Nat}
    (done : callFn self msg world (.subscribeToPolicy templateId) = .ok (next, receipt)) :
    OnlyBought msg.sender world.policy next.policy := by
  obtain ⟨⟨⟨state, tokens⟩, paid⟩, subscribing, same⟩ := bind_eq_ok.mp done
  cases same
  simp only [subscribeToPolicy, whenNotPaused, require_bind_eq_ok,
    orRevert_bind_eq_ok] at subscribing
  obtain ⟨_, _, _, policyId, free, _, _, _, _, collecting⟩ := subscribing
  obtain ⟨⟨⟨_, _⟩, collected⟩, collect, same⟩ := bind_eq_ok.mp collecting
  cases same
  obtain ⟨newPaidUntil, rfl, _⟩ := collectPremium_effect collect
  refine ⟨_, _, _, _, _, rfl, ?_⟩
  intro id found
  have other : id ≠ policyId := by
    rintro rfl
    rw [skipForward_free free] at found
    cases found
  refine ⟨Function.update_of_ne other _ _, ?_, Function.update_of_ne other _ _,
    Or.inl (Function.update_of_ne other _ _)⟩
  exact (Function.update_of_ne other _ _).trans found

end Calls

theorem initialized_within (timelockAdmin : Address) {circle : Address → Prop}
    (founder : circle timelockAdmin) : (initialized timelockAdmin).roles.Within circle :=
  (((Roles.Table.within_empty circle).assign founder).assign founder).assign founder

end Dics.InsurancePolicy

namespace Dics.Insurance

variable {addresses : Addresses} {circle : Address → Prop}

def Target.grants : Target → Option Address
  | .policy (.changeRole (.grantRole _ account)) => some account
  | .registry (.changeRole (.grantRole _ account)) => some account
  | _ => none

/-- A member of the circle grants roles to members only. -/
def GrantsInside (circle : Address → Prop) (commit : Commit addresses) : Prop :=
  circle commit.call.msg.sender → ∀ account ∈ commit.call.target.grants, circle account

instance [DecidablePred circle] (commit : Commit addresses) :
    Decidable (GrantsInside circle commit) :=
  have : Decidable (∀ account ∈ commit.call.target.grants, circle account) :=
    Option.decidableForallMem _
  inferInstanceAs (Decidable (_ → _))

/-- What an account without any role can have done. -/
structure Harmless (commit : Commit addresses) : Prop where
  policy : InsurancePolicy.OnlyBought commit.call.msg.sender commit.before.policy
    commit.after.policy
  registry : ClaimRegistry.OnlyFiled commit.before.registry commit.after.registry

/-- Roles are held inside the circle, and everybody else has done no harm. -/
structure Governed (circle : Address → Prop) (world : World) (past : List (Commit addresses)) :
    Prop where
  policy : world.policy.roles.Within circle
  registry : world.registry.roles.Within circle
  outsiders : ∀ commit ∈ past, ¬circle commit.call.msg.sender → Harmless commit

section Steps

variable {world next : World} {call : Call addresses} {receipt : Receipt Event}

theorem not_held {Role : Type} {table : Roles.Table Role Address} {sender : Address}
    (within : table.Within circle) (outsider : ¬circle sender) (role : Role) :
    table role sender = false := by
  cases held : table role sender with
  | false => rfl
  | true => exact absurd (within role sender held) outsider

theorem policy_step {fn : InsurancePolicy.Fn} {own : Receipt InsurancePolicy.Event}
    {before after : InsurancePolicy.World} {self : Address} {msg : Msg}
    (within : before.policy.roles.Within circle)
    (done : InsurancePolicy.callFn self msg before fn = .ok (after, own))
    (inward : circle msg.sender → ∀ account ∈ (Target.policy fn).grants, circle account) :
    after.policy.roles.Within circle ∧
      (¬circle msg.sender → InsurancePolicy.OnlyBought msg.sender before.policy after.policy) := by
  by_cases changes : ∃ change, fn = .changeRole change
  · obtain ⟨change, rfl⟩ := changes
    obtain ⟨roles, changed, rfl⟩ := InsurancePolicy.changeRole_ok done
    constructor
    · refine Roles.Change.apply_within within changed ?_
      rintro member role account rfl
      exact inward member account rfl
    · intro outsider
      obtain ⟨rfl, _⟩ := Roles.Change.apply_of_stranger (not_held within outsider) changed
      exact InsurancePolicy.OnlyBought.refl _ _
  · obtain ⟨roles, role⟩ := InsurancePolicy.role_of_callFn done
      (fun change same => changes ⟨change, same⟩)
    rw [roles]
    refine ⟨within, ?_⟩
    intro outsider
    rcases role with free | ⟨role, held⟩
    · cases fn with
      | subscribeToPolicy templateId => exact InsurancePolicy.subscribeToPolicy_onlyBought done
      | payPremium policyId => exact InsurancePolicy.payPremium_onlyBought done
      | _ => cases free
    · exact absurd (within role msg.sender held) outsider

theorem registry_step {fn : ClaimRegistry.Fn} {own : Receipt ClaimRegistry.Event}
    {before after : ClaimRegistry.World} {self : Address}
    {registries : Address → PolicyRegistry} {msg : Msg}
    (within : before.registry.roles.Within circle)
    (done : ClaimRegistry.callFn self registries msg before fn = .ok (after, own))
    (inward : circle msg.sender → ∀ account ∈ (Target.registry fn).grants, circle account) :
    after.registry.roles.Within circle ∧
      (¬circle msg.sender → ClaimRegistry.OnlyFiled before.registry after.registry) := by
  by_cases changes : ∃ change, fn = .changeRole change
  · obtain ⟨change, rfl⟩ := changes
    obtain ⟨roles, changed, rfl⟩ := ClaimRegistry.changeRole_ok done
    constructor
    · refine Roles.Change.apply_within within changed ?_
      rintro member role account rfl
      exact inward member account rfl
    · intro outsider
      obtain ⟨rfl, _⟩ := Roles.Change.apply_of_stranger (not_held within outsider) changed
      exact ClaimRegistry.OnlyFiled.refl _
  · constructor
    · intro role account held
      rcases ClaimRegistry.callFn_holds done role account held with earlier | granted
      · exact within role account earlier
      · exact absurd ⟨_, granted⟩ changes
    · intro outsider
      rcases ClaimRegistry.role_of_callFn done with free | ⟨role, held⟩
      · cases fn with
        | submitClaim policyId merkleRoot amount =>
            exact ClaimRegistry.submitClaim_onlyFiled done
        | changeRole change => exact absurd ⟨change, rfl⟩ changes
        | _ => cases free
      · exact absurd (within role msg.sender held) outsider

theorem governed_step {past : List (Commit addresses)} (before : Governed circle world past)
    (done : exec addresses world call = .ok (next, receipt))
    (inward : GrantsInside circle ⟨world, call, receipt, next⟩) :
    Governed circle next (past ++ [⟨world, call, receipt, next⟩]) := by
  have extend : (¬circle call.msg.sender → Harmless ⟨world, call, receipt, next⟩) →
      ∀ commit ∈ past ++ [⟨world, call, receipt, next⟩],
        ¬circle commit.call.msg.sender → Harmless commit := by
    intro last commit member outsider
    rcases List.mem_append.mp member with earlier | same
    · exact before.outsiders commit earlier outsider
    · rw [List.mem_singleton.mp same] at outsider ⊢
      exact last outsider
  unfold GrantsInside at inward
  unfold exec at done
  cases target : call.target with
  | policy fn =>
      rw [target] at done inward
      obtain ⟨⟨after, own⟩, committed, same⟩ := bind_eq_ok.mp done
      cases same
      obtain ⟨roles, bought⟩ := policy_step before.policy (mapError_eq_ok.mp committed) inward
      refine ⟨roles, before.registry, extend ?_⟩
      intro outsider
      exact ⟨bought outsider, ClaimRegistry.OnlyFiled.refl _⟩
  | registry fn =>
      rw [target] at done inward
      obtain ⟨⟨after, own⟩, committed, same⟩ := bind_eq_ok.mp done
      cases same
      obtain ⟨roles, filed⟩ := registry_step before.registry (mapError_eq_ok.mp committed) inward
      refine ⟨before.policy, roles, extend ?_⟩
      intro outsider
      exact ⟨InsurancePolicy.OnlyBought.refl _ _, filed outsider⟩
  | token token act =>
      rw [target] at done
      obtain ⟨⟨_, _⟩, _, same⟩ := bind_eq_ok.mp done
      cases same
      exact ⟨before.policy, before.registry,
        extend fun _ => ⟨InsurancePolicy.OnlyBought.refl _ _, ClaimRegistry.OnlyFiled.refl _⟩⟩

end Steps

/-- Authority never leaves a circle that grants only inwards, whoever calls
what, and nobody outside it ever changes an existing claim, anybody else's
policy, the catalogue or a setting. -/
theorem authority_stays_inside (deployment : Deployment)
    (calls : List (Call deployment.addresses)) (circle : Address → Prop)
    (managers : deployment.policy.roles.Within circle)
    (founder : circle deployment.args.timelockAdmin)
    (inward : ∀ commit ∈ deployment.history calls, GrantsInside circle commit) :
    Governed circle (deployment.run calls) (deployment.history calls) := by
  refine @run_induction _ _ _ _ (exec deployment.addresses) (Governed circle)
    (GrantsInside circle) deployment.start ?_ ?_ calls inward
  · exact ⟨managers, ClaimRegistry.initialized_within _ _ founder,
      fun _ member => absurd member List.not_mem_nil⟩
  · intro world past call next receipt before done allowed
    exact governed_step before done allowed

def sampleCircle (account : Address) : Prop :=
  account = 0xAD ∨ account = 0xE1 ∨ account = 0xD1

instance : DecidablePred sampleCircle := fun _ => inferInstanceAs (Decidable (_ ∨ _))

/-- After the setup the holder `0xA1` submits a claim and tries to approve it. -/
def sampleOutsiderCalls : List (Call sampleAddresses) :=
  sampleSetupCalls ++
    [holderCall (.registry (.submitClaim 7 0 500)),
     holderCall (.registry (.setClaimStatus 1 .approved)),
     holderCall (.registry (.changeRole (.grantRole .underwriter 0xA1)))]

theorem sample_managers_within : sampleDeployment.policy.roles.Within sampleCircle :=
  InsurancePolicy.initialized_within 0xAD (Or.inl rfl)

theorem authority_stays_inside_sample :
    (∀ commit ∈ sampleDeployment.history sampleOutsiderCalls, GrantsInside sampleCircle commit) ∧
      (sampleDeployment.history sampleOutsiderCalls).length = 4 ∧ ¬sampleCircle 0xA1 ∧
      Governed sampleCircle (sampleDeployment.run sampleOutsiderCalls)
        (sampleDeployment.history sampleOutsiderCalls) := by
  have inward : ∀ commit ∈ sampleDeployment.history sampleOutsiderCalls,
      GrantsInside sampleCircle commit := by decide
  exact ⟨inward, by decide, by decide,
    authority_stays_inside sampleDeployment sampleOutsiderCalls sampleCircle
      sample_managers_within (Or.inl rfl) inward⟩

end Dics.Insurance
