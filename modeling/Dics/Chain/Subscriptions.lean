/-
Subscriptions: which id is issued, and what was sold.

The loop of `subscribeToPolicy` tries a thousand ids from the counter on.  The
end of the term is added in 256 bits and stored in 40, so a long enough term
wraps around after the premium has been taken.
-/

import Dics.Chain.Premiums

open Transactions Tokens Words

namespace Dics.InsurancePolicy

/-! ### What was sold -/

/-- What a subscriber is promised: the policy is active for the whole term, its
stored end is the one announced, and the first period is paid. -/
structure SoldInFull (templateId : Nat) (msg : Msg) (before after : State)
    (policyId validUntil : Nat) : Prop where
  active : ∀ atTime, msg.timestamp ≤ atTime →
    atTime ≤ msg.timestamp + (before.policyTemplates templateId).termSeconds.toNat →
    isPolicyActive after policyId atTime = true
  stored : (after.policies policyId).validUntil.toNat = validUntil
  premiumCurrent : isPremiumCurrent after msg.timestamp policyId = some true
  paidUntil : after.premiumPaidUntil policyId =
    msg.timestamp + (before.policyTemplates templateId).periodSeconds.toNat

section Sold

variable {self : Address} {msg : Msg} {world next : World} {receipt payment : Receipt Event}
variable {templateId policyId : Nat}

theorem Subscribed.policies
    (subscribed : Subscribed self templateId policyId msg world next receipt payment) :
    next.policy.policies policyId =
      { policyId := BitVec.ofNat 128 policyId
        coverageAmount := (world.policy.policyTemplates templateId).coverageAmount
        holder := msg.sender
        validFrom := BitVec.ofNat 40 msg.timestamp
        validUntil := BitVec.ofNat 40
          (msg.timestamp + (world.policy.policyTemplates templateId).termSeconds.toNat)
        revoked := false
        metadataHash := (world.policy.policyTemplates templateId).metadataHash } := by
  rw [subscribed.collected.written]
  exact Function.update_self _ _ _

theorem Subscribed.policyExists
    (subscribed : Subscribed self templateId policyId msg world next receipt payment) :
    next.policy.policyExists = Function.update world.policy.policyExists policyId true := by
  rw [subscribed.collected.written]
  rfl

theorem Subscribed.premiumTerms
    (subscribed : Subscribed self templateId policyId msg world next receipt payment) :
    next.policy.premiumTerms = Function.update world.policy.premiumTerms policyId
      { amountPerPeriod := (world.policy.policyTemplates templateId).premiumAmountPerPeriod
        periodSeconds := (world.policy.policyTemplates templateId).periodSeconds } := by
  rw [subscribed.collected.written]
  rfl

/-- A fresh id has nothing paid yet, so its first period starts now. -/
theorem Subscribed.paidUntil
    (subscribed : Subscribed self templateId policyId msg world next receipt payment)
    (fresh : world.policy.premiumPaidUntil policyId = 0) :
    next.policy.premiumPaidUntil policyId =
      msg.timestamp + (world.policy.policyTemplates templateId).periodSeconds.toNat := by
  rw [subscribed.collected.written]
  simp only [State.withSubscription, Function.update_self, fresh, Nat.zero_max]

theorem Subscribed.subscribed_mem
    (subscribed : Subscribed self templateId policyId msg world next receipt payment)
    {id validUntil : Nat} {holder : Address} :
    .policySubscribed id templateId holder validUntil ∈ receipt.events ↔
      id = policyId ∧ holder = msg.sender ∧ validUntil =
        msg.timestamp + (world.policy.policyTemplates templateId).termSeconds.toNat := by
  rw [subscribed.announced, subscribed.collected.announced]
  simp only [List.mem_cons, List.not_mem_nil, or_false, reduceCtorEq, false_or,
    Event.policySubscribed.injEq, true_and]

/-- A grace period that overflows makes the view revert. -/
theorem isPremiumCurrent_of_priced {state : State} {timestamp policyId : Nat}
    (priced : (state.premiumTerms policyId).amountPerPeriod ≠ 0)
    (paid : timestamp ≤ state.premiumPaidUntil policyId) :
    isPremiumCurrent state timestamp policyId = some true ↔
      state.premiumPaidUntil policyId + state.premiumGracePeriodSeconds < wordBound := by
  unfold isPremiumCurrent
  rw [if_neg priced]
  constructor
  · intro current
    obtain ⟨deadline, added, _⟩ := Option.bind_eq_some_iff.mp current
    exact (checkedAdd_eq_some.mp added).1
  · intro fits
    apply Option.bind_eq_some_iff.mpr
    refine ⟨_, checkedAdd_eq_some.mpr ⟨fits, rfl⟩, ?_⟩
    simp only [Option.pure_def, Option.some.injEq, decide_eq_true_eq]
    omega

theorem Subscribed.soldInFull_iff
    (subscribed : Subscribed self templateId policyId msg world next receipt payment)
    (fresh : world.policy.premiumPaidUntil policyId = 0) (inTime : msg.timestamp < 2 ^ 40) :
    SoldInFull templateId msg world.policy next.policy policyId
        (msg.timestamp + (world.policy.policyTemplates templateId).termSeconds.toNat) ↔
      msg.timestamp + (world.policy.policyTemplates templateId).termSeconds.toNat < 2 ^ 40 ∧
        msg.timestamp + (world.policy.policyTemplates templateId).periodSeconds.toNat +
          world.policy.premiumGracePeriodSeconds < wordBound := by
  have paidUntil := subscribed.paidUntil fresh
  have policies := subscribed.policies
  have priced : (next.policy.premiumTerms policyId).amountPerPeriod ≠ 0 := by
    rw [subscribed.premiumTerms, Function.update_self]
    exact subscribed.priced
  have grace : next.policy.premiumGracePeriodSeconds =
      world.policy.premiumGracePeriodSeconds := by
    rw [subscribed.collected.written]
    rfl
  have current := isPremiumCurrent_of_priced priced
    (Nat.le_trans (Nat.le_add_right msg.timestamp _) (Nat.le_of_eq paidUntil.symm))
  rw [paidUntil, grace] at current
  constructor
  · intro sold
    refine ⟨?_, current.mp sold.premiumCurrent⟩
    rw [← sold.stored]
    exact BitVec.isLt _
  · rintro ⟨termFits, graceFits⟩
    have stored : (next.policy.policies policyId).validUntil.toNat =
        msg.timestamp + (world.policy.policyTemplates templateId).termSeconds.toNat := by
      rw [policies]
      exact Nat.mod_eq_of_lt termFits
    have started : (next.policy.policies policyId).validFrom.toNat = msg.timestamp := by
      rw [policies]
      exact Nat.mod_eq_of_lt inTime
    refine ⟨?_, stored, current.mpr graceFits, paidUntil⟩
    intro atTime after running
    have registered : next.policy.policyExists policyId = true := by
      rw [subscribed.policyExists, Function.update_self]
    have notRevoked : (next.policy.policies policyId).revoked = false := by
      rw [policies]
    simp only [isPolicyActive, registered, notRevoked, started, stored, after, running,
      decide_true, Bool.not_false, Bool.and_self]

end Sold

/-- In every reachable state a subscription sells its whole term exactly when
the end of the term fits the forty bits it is stored in, and the end of the
first period with its grace fits a word. -/
theorem subscription_sold_in_full_iff (deployment : Deployment) (calls : List Call) (msg : Msg)
    (templateId : Nat) {next : World} {receipt : Receipt Event}
    (inTime : msg.timestamp < 2 ^ 40)
    (done : exec deployment.self (deployment.run calls)
      ⟨msg, .policy (.subscribeToPolicy templateId)⟩ = .ok (next, receipt)) :
    (∃ policyId validUntil,
      .policySubscribed policyId templateId msg.sender validUntil ∈ receipt.events ∧
        SoldInFull templateId msg (deployment.run calls).policy next.policy policyId
          validUntil) ↔
      msg.timestamp +
          ((deployment.run calls).policy.policyTemplates templateId).termSeconds.toNat < 2 ^ 40 ∧
        msg.timestamp +
            ((deployment.run calls).policy.policyTemplates templateId).periodSeconds.toNat +
          (deployment.run calls).policy.premiumGracePeriodSeconds < wordBound := by
  obtain ⟨issued, payment, subscribed⟩ := subscribeToPolicy_iff.mp done
  have unused := skipForward_free subscribed.found
  have fresh := ((issuance_run deployment calls).blank issued unused).2.2
  rw [← subscribed.soldInFull_iff fresh inTime]
  constructor
  · rintro ⟨policyId, validUntil, announced, sold⟩
    obtain ⟨rfl, _, rfl⟩ := subscribed.subscribed_mem.mp announced
    exact sold
  · intro sold
    exact ⟨_, _, subscribed.subscribed_mem.mpr ⟨rfl, rfl, rfl⟩, sold⟩

def subscribeCall : Call := sampleCall 0xA1 (.subscribeToPolicy 5)

def catalogueCalls : List Call := sampleCalls.take 4

theorem subscription_sold_in_full_sample :
    ∃ next receipt, exec sampleDeployment.self (sampleDeployment.run catalogueCalls)
        subscribeCall = .ok (next, receipt) ∧
      ∃ policyId validUntil,
        .policySubscribed policyId 5 0xA1 validUntil ∈ receipt.events ∧
          SoldInFull 5 subscribeCall.msg (sampleDeployment.run catalogueCalls).policy next.policy
            policyId validUntil :=
  ⟨_, _, rfl, (subscription_sold_in_full_iff sampleDeployment catalogueCalls subscribeCall.msg 5
    (by decide) rfl).mpr ⟨by decide, by decide⟩⟩

/-- The manager offers the longest term a template can hold. -/
def perpetualCalls : List Call :=
  catalogueCalls ++ [sampleCall 0xE1 (.addPolicyTemplate 6 600 10 30 (2 ^ 40 - 1) 0)]

/-- A perpetual policy, sold and paid for at time `10`, ended at time `9`. -/
theorem perpetual_subscription_is_inactive :
    ∃ next receipt, exec sampleDeployment.self (sampleDeployment.run perpetualCalls)
        (sampleCall 0xA1 (.subscribeToPolicy 6)) = .ok (next, receipt) ∧
      isPolicyActive next.policy 2 10 = false ∧
      (next.policy.policies 2).validUntil.toNat = 9 ∧
      .policySubscribed 2 6 0xA1 (10 + (2 ^ 40 - 1)) ∈ receipt.events ∧
      ¬∃ policyId validUntil,
        .policySubscribed policyId 6 0xA1 validUntil ∈ receipt.events ∧
          SoldInFull 6 (sampleCall 0xA1 (.subscribeToPolicy 6)).msg
            (sampleDeployment.run perpetualCalls).policy next.policy policyId validUntil := by
  refine ⟨_, _, rfl, by decide, by decide, by decide, ?_⟩
  rintro ⟨policyId, validUntil, announced, sold⟩
  have issued : policyId = 2 := by
    rcases List.mem_cons.mp announced with registered | later
    · cases registered
    · rcases List.mem_cons.mp later with subscribed | paid
      · exact (Event.policySubscribed.inj subscribed).1
      · cases List.mem_singleton.mp paid
  subst issued
  exact absurd (sold.active 10 (by decide) (by decide)) (by decide)

/-! ### Which id is issued -/

/-- The loop tries `attemptsLeft` ids and stops at the first one that is free. -/
theorem skipForward_eq_some {policyExists : Nat → Bool} {attemptsLeft start policyId : Nat} :
    skipForward policyExists attemptsLeft start = some policyId ↔
      start ≤ policyId ∧ policyId < start + attemptsLeft ∧
        (∀ id, start ≤ id → id < policyId → policyExists id = true) ∧
        policyExists policyId = false ∧ (policyId = start ∨ policyId < wordBound) := by
  induction attemptsLeft generalizing start with
  | zero =>
      constructor
      · intro impossible
        cases impossible
      · rintro ⟨after, before, _⟩
        omega
  | succ attemptsLeft ih =>
      unfold skipForward
      cases taken : policyExists start with
      | false =>
          rw [if_neg Bool.false_ne_true, Option.some.injEq]
          constructor
          · rintro rfl
            refine ⟨Nat.le_refl _, by omega, ?_, taken, Or.inl rfl⟩
            intro id after before
            omega
          · rintro ⟨after, _, skipped, _⟩
            rcases Nat.eq_or_lt_of_le after with same | later
            · exact same
            · rw [skipped start (Nat.le_refl _) later] at taken
              cases taken
      | true =>
          rw [if_pos rfl, Option.bind_eq_some_iff]
          simp only [checkedAdd_eq_some]
          constructor
          · rintro ⟨_, ⟨fits, rfl⟩, found⟩
            obtain ⟨after, before, skipped, free, bounded⟩ := ih.mp found
            refine ⟨by omega, by omega, ?_, free, by omega⟩
            intro id later earlier
            rcases Nat.eq_or_lt_of_le later with same | next
            · rw [← same]
              exact taken
            · exact skipped id next earlier
          · rintro ⟨after, before, skipped, free, bounded⟩
            have notStart : policyId ≠ start := by
              intro same
              rw [same, taken] at free
              cases free
            refine ⟨start + 1, ⟨by omega, rfl⟩, ih.mpr ⟨by omega, by omega, ?_, free, by omega⟩⟩
            intro id later earlier
            exact skipped id (by omega) earlier

/-- Some free id in the window leads the loop to the first one. -/
theorem skipForward_of_free {policyExists : Nat → Bool} {attempts start id : Nat}
    (after : start ≤ id) (inWindow : id < start + attempts) (free : policyExists id = false)
    (bounded : id < wordBound) :
    ∃ policyId, policyId ≤ id ∧ skipForward policyExists attempts start = some policyId := by
  induction attempts generalizing start with
  | zero => omega
  | succ attempts ih =>
      unfold skipForward
      cases taken : policyExists start with
      | false =>
          rw [if_neg Bool.false_ne_true]
          exact ⟨start, after, rfl⟩
      | true =>
          have later : start ≠ id := by
            intro same
            rw [same, free] at taken
            cases taken
          obtain ⟨policyId, before, found⟩ := @ih (start + 1) (by omega) (by omega)
          refine ⟨policyId, before, ?_⟩
          rw [if_pos rfl, Option.bind_eq_some_iff]
          exact ⟨start + 1, checkedAdd_eq_some.mpr ⟨by omega, rfl⟩, found⟩

/-- A caller able to pay for an active template.  Neither the caller nor the
contract has the zero address. -/
structure ReadyToSubscribe (here : Address) (world : World) (msg : Msg) (templateId : Nat) :
    Prop where
  unpaused : world.policy.paused = false
  active : (world.policy.policyTemplates templateId).active = true
  tokenSet : world.policy.premiumToken ≠ 0
  treasurySet : world.policy.premiumTreasury ≠ 0
  caller : msg.sender ≠ 0
  contract : here ≠ 0
  covered : (world.policy.policyTemplates templateId).premiumAmountPerPeriod.toNat ≤
    (world.tokens world.policy.premiumToken).balances msg.sender
  allowed : (world.policy.policyTemplates templateId).premiumAmountPerPeriod.toNat ≤
    (world.tokens world.policy.premiumToken).allowances msg.sender here

def FreeInWindow (state : State) (id : Nat) : Prop :=
  state.nextPolicyId ≤ id ∧ id < state.nextPolicyId + 1000 ∧ state.policyExists id = false

structure SubscriptionFits (state : State) (msg : Msg) (templateId : Nat) : Prop where
  term : msg.timestamp + (state.policyTemplates templateId).termSeconds.toNat < wordBound
  period : msg.timestamp + (state.policyTemplates templateId).periodSeconds.toNat < wordBound

/-- The first free id was issued, the counter stands behind it, and no other
policy changed. -/
structure IssuesFirstFree (before after : State) (id : Nat) : Prop where
  free : before.policyExists id = false
  fromCounter : before.nextPolicyId ≤ id
  first : ∀ earlier, before.nextPolicyId ≤ earlier → earlier < id →
    before.policyExists earlier = true
  issued : after.policyExists id = true
  counter : after.nextPolicyId = id + 1
  others : ∀ other, other ≠ id →
    after.policies other = before.policies other ∧
      after.policyExists other = before.policyExists other ∧
      after.premiumTerms other = before.premiumTerms other ∧
      after.premiumPaidUntil other = before.premiumPaidUntil other

section Issued

variable {self : Address} {msg : Msg} {world next : World} {receipt payment : Receipt Event}
variable {templateId policyId : Nat}

theorem Subscribed.issuesFirstFree
    (subscribed : Subscribed self templateId policyId msg world next receipt payment) :
    IssuesFirstFree world.policy next.policy policyId := by
  obtain ⟨after, _, skipped, free, _⟩ := skipForward_eq_some.mp subscribed.found
  refine ⟨free, after, skipped, ?_, ?_, ?_⟩
  · rw [subscribed.policyExists, Function.update_self]
  · rw [subscribed.collected.written]
    rfl
  · intro other different
    rw [subscribed.collected.written]
    exact ⟨Function.update_of_ne different _ _, Function.update_of_ne different _ _,
      Function.update_of_ne different _ _, Function.update_of_ne different _ _⟩

/-- A caller who is ready subscribes whenever the loop finds an id and the sums
fit. -/
theorem ReadyToSubscribe.subscribes (ready : ReadyToSubscribe self world msg templateId)
    (priced : (world.policy.policyTemplates templateId).premiumAmountPerPeriod ≠ 0)
    (fits : SubscriptionFits world.policy msg templateId)
    (found : skipForward world.policy.policyExists 1000 world.policy.nextPolicyId =
      some policyId)
    (fresh : world.policy.premiumPaidUntil policyId = 0) (idLeft : policyId + 1 < wordBound) :
    ∃ next receipt payment,
      Subscribed self templateId policyId msg world next receipt payment := by
  obtain ⟨paid, moved⟩ := act_transferFrom_of_allowed world.tokens ready.contract ready.caller
    ready.treasurySet ready.allowed ready.covered
  have terms : (world.policy.withSubscription templateId policyId msg).premiumTerms policyId =
      { amountPerPeriod := (world.policy.policyTemplates templateId).premiumAmountPerPeriod
        periodSeconds := (world.policy.policyTemplates templateId).periodSeconds } :=
    Function.update_self _ _ _
  have unpaid : (world.policy.withSubscription templateId policyId msg).premiumPaidUntil
      policyId = 0 := fresh
  have collected : ∃ after payment, Collected self policyId msg.sender msg
      (world.policy.withSubscription templateId policyId msg) after world.tokens paid payment := by
    refine ⟨_, ⟨_, [⟨world.policy.premiumToken, msg.sender, world.policy.premiumTreasury,
      (world.policy.policyTemplates templateId).premiumAmountPerPeriod.toNat⟩]⟩,
      ready.tokenSet, ?_, ?_, ?_, rfl, rfl⟩
    · rw [terms]
      exact priced
    · rw [terms, unpaid, Nat.zero_max]
      exact fits.period
    · rw [terms]
      exact moved
  obtain ⟨after, payment, collected⟩ := collected
  exact ⟨⟨after, paid⟩, _, payment, ready.unpaused, priced, ready.active, found, idLeft,
    fits.term, collected, rfl⟩

end Issued

/-- In every reachable state a caller who can pay for an active, priced template
subscribes exactly when one of the next thousand ids is free and not the last
one, and the end of the term and of the first period fit a word.  The first
free id is issued; a refused subscription changes nothing. -/
theorem subscribes_iff_free_id (deployment : Deployment) (calls : List Call) (msg : Msg)
    (templateId : Nat)
    (ready : ReadyToSubscribe deployment.self (deployment.run calls) msg templateId)
    (priced : ((deployment.run calls).policy.policyTemplates templateId).premiumAmountPerPeriod ≠
      0) :
    ((∃ next receipt, exec deployment.self (deployment.run calls)
        ⟨msg, .policy (.subscribeToPolicy templateId)⟩ = .ok (next, receipt)) ↔
      SubscriptionFits (deployment.run calls).policy msg templateId ∧
        ∃ id, FreeInWindow (deployment.run calls).policy id ∧ id + 1 < wordBound) ∧
    (∀ next receipt, exec deployment.self (deployment.run calls)
        ⟨msg, .policy (.subscribeToPolicy templateId)⟩ = .ok (next, receipt) →
      ∃ id, IssuesFirstFree (deployment.run calls).policy next.policy id) ∧
    ((¬∃ next receipt, exec deployment.self (deployment.run calls)
        ⟨msg, .policy (.subscribeToPolicy templateId)⟩ = .ok (next, receipt)) →
      deployment.run (calls ++ [⟨msg, .policy (.subscribeToPolicy templateId)⟩]) =
        deployment.run calls) := by
  refine ⟨⟨?_, ?_⟩, ?_, ?_⟩
  · rintro ⟨next, receipt, done⟩
    obtain ⟨policyId, payment, subscribed⟩ := subscribeToPolicy_iff.mp done
    have fits := subscribed.collected.fits
    have terms : ((deployment.run calls).policy.withSubscription templateId policyId
        msg).premiumTerms policyId = _ := Function.update_self _ _ _
    rw [terms] at fits
    obtain ⟨after, inWindow, _, free, _⟩ := skipForward_eq_some.mp subscribed.found
    refine ⟨⟨subscribed.termFits, ?_⟩, policyId, ⟨after, inWindow, free⟩, subscribed.idLeft⟩
    exact Nat.lt_of_le_of_lt (Nat.add_le_add_right (Nat.le_max_right _ _) _) fits
  · rintro ⟨fits, id, ⟨after, inWindow, free⟩, idLeft⟩
    obtain ⟨policyId, before, found⟩ := skipForward_of_free after inWindow free (by omega)
    have fresh := ((issuance_run deployment calls).blank policyId (skipForward_free found)).2.2
    obtain ⟨next, receipt, payment, subscribed⟩ :=
      ready.subscribes priced fits found fresh (by omega)
    exact ⟨next, receipt, subscribeToPolicy_iff.mpr ⟨policyId, payment, subscribed⟩⟩
  · intro next receipt done
    obtain ⟨policyId, payment, subscribed⟩ := subscribeToPolicy_iff.mp done
    exact ⟨policyId, subscribed.issuesFirstFree⟩
  · intro refused
    unfold Deployment.run
    rw [run_snoc]
    cases outcome : exec deployment.self (Transactions.run (exec deployment.self)
        deployment.start calls) ⟨msg, .policy (.subscribeToPolicy templateId)⟩ with
    | error error => exact settle_of_error outcome
    | ok result => exact absurd ⟨result.1, result.2, outcome⟩ refused

theorem sample_ready : ReadyToSubscribe sampleDeployment.self
    (sampleDeployment.run catalogueCalls) subscribeCall.msg 5 :=
  ⟨by decide, by decide, by decide, by decide, by decide, by decide, by decide, by decide⟩

theorem subscribes_iff_free_id_sample :
    ∃ next receipt, exec sampleDeployment.self (sampleDeployment.run catalogueCalls)
      subscribeCall = .ok (next, receipt) :=
  (subscribes_iff_free_id sampleDeployment catalogueCalls subscribeCall.msg 5 sample_ready
    (by decide)).1.mpr
    ⟨⟨by decide, by decide⟩, 2, ⟨by decide, by decide, by decide⟩, by decide⟩

/-! ### Where a free id is not enough -/

/-- `0xA1` is the treasury of its own premiums and allows the contract
everything, so it can subscribe as often as it likes. -/
def endlessDeployment : Deployment where
  self := 0x90
  timelockAdmin := 0xAD
  tokens _ :=
    { balances := fun account => if account = 0xA1 then 100 else 0
      allowances := fun _ _ => wordBound - 1
      totalSupply := 100 }

/-- Template `5` is priced; template `6` costs nothing. -/
def endlessSetupCalls : List Call :=
  [sampleCall 0xAD (.changeRole (.grantRole .policyManager 0xE1)),
   sampleCall 0xAD (.setPremiumConfig 0x77 0xA1 50),
   sampleCall 0xE1 (.addPolicyTemplate 5 600 10 30 365 0),
   sampleCall 0xE1 (.addPolicyTemplate 6 600 0 30 365 0)]

def endlessCalls (count : Nat) : List Call :=
  endlessSetupCalls ++ List.replicate count subscribeCall

structure Endless (count : Nat) (world : World) : Prop where
  ready : ReadyToSubscribe endlessDeployment.self world subscribeCall.msg 5
  template : world.policy.policyTemplates 5 =
    { coverageAmount := 600, premiumAmountPerPeriod := 10, periodSeconds := 30
      termSeconds := 365, active := true, metadataHash := 0 }
  treasury : world.policy.premiumTreasury = subscribeCall.msg.sender
  allowance : (world.tokens world.policy.premiumToken).allowances subscribeCall.msg.sender
    endlessDeployment.self = wordBound - 1
  unpaid : ∀ id, count < id → world.policy.premiumPaidUntil id = 0
  free : ∀ id, count < id → world.policy.policyExists id = false
  counter : world.policy.nextPolicyId = count + 1

private theorem Endless.found {count : Nat} {world : World} (endless : Endless count world) :
    skipForward world.policy.policyExists 1000 world.policy.nextPolicyId = some (count + 1) := by
  rw [endless.counter]
  apply skipForward_eq_some.mpr
  refine ⟨Nat.le_refl _, by omega, ?_, endless.free _ (Nat.lt_succ_self _), Or.inl rfl⟩
  intro id after before
  omega

private theorem Endless.priced {count : Nat} {world : World} (endless : Endless count world) :
    (world.policy.policyTemplates 5).premiumAmountPerPeriod ≠ 0 := by
  rw [endless.template]
  decide

private theorem Endless.subscribed {count : Nat} {world : World} (endless : Endless count world)
    (idLeft : count + 2 < wordBound) :
    ∃ next receipt payment, Subscribed endlessDeployment.self 5 (count + 1) subscribeCall.msg world
      next receipt payment := by
  apply endless.ready.subscribes endless.priced _ endless.found
    (endless.unpaid _ (Nat.lt_succ_self _)) idLeft
  constructor
  · rw [endless.template]
    decide
  · rw [endless.template]
    decide

/-- The subscriber pays itself, so its balance and its allowance stay. -/
private theorem Endless.tokens {count : Nat} {world next : World} {receipt payment : Receipt Event}
    (endless : Endless count world)
    (subscribed : Subscribed endlessDeployment.self 5 (count + 1) subscribeCall.msg world next
      receipt payment) :
    (next.tokens world.policy.premiumToken).balances subscribeCall.msg.sender =
        (world.tokens world.policy.premiumToken).balances subscribeCall.msg.sender ∧
      (next.tokens world.policy.premiumToken).allowances =
        (world.tokens world.policy.premiumToken).allowances := by
  have terms : (world.policy.withSubscription 5 (count + 1) subscribeCall.msg).premiumTerms
      (count + 1) = _ := Function.update_self _ _ _
  have moved := subscribed.collected.moved
  rw [terms] at moved
  have covered := endless.ready.covered
  obtain ⟨token, moving, same⟩ := bind_eq_ok.mp moved
  have changed : next.tokens = Function.update world.tokens world.policy.premiumToken token :=
    (congrArg Prod.fst (Except.ok.inj same)).symm
  have written := transferFrom_of_largest endless.allowance moving
  have treasury : (world.policy.withSubscription 5 (count + 1) subscribeCall.msg).premiumTreasury =
      subscribeCall.msg.sender := endless.treasury
  rw [treasury] at written
  rw [changed, Function.update_self, written]
  exact ⟨move_balances_self _ covered, rfl⟩

private theorem Endless.step {count : Nat} {world : World} (endless : Endless count world)
    (idLeft : count + 2 < wordBound) :
    Endless (count + 1) (settle (exec endlessDeployment.self) world subscribeCall) := by
  obtain ⟨next, receipt, payment, subscribed⟩ := endless.subscribed idLeft
  have done : exec endlessDeployment.self world subscribeCall = .ok (next, receipt) :=
    subscribeToPolicy_iff.mpr ⟨count + 1, payment, subscribed⟩
  have written := subscribed.collected.written
  have first := subscribed.issuesFirstFree
  have templates : next.policy.policyTemplates = world.policy.policyTemplates := by
    rw [written]
    rfl
  have token : next.policy.premiumToken = world.policy.premiumToken := by
    rw [written]
    rfl
  have treasury : next.policy.premiumTreasury = world.policy.premiumTreasury := by
    rw [written]
    rfl
  have paused : next.policy.paused = world.policy.paused := by
    rw [written]
    rfl
  obtain ⟨balances, allowances⟩ := endless.tokens subscribed
  rw [settle_of_ok done]
  constructor
  · constructor
    · rw [paused]
      exact endless.ready.unpaused
    · rw [templates]
      exact endless.ready.active
    · rw [token]
      exact endless.ready.tokenSet
    · rw [treasury]
      exact endless.ready.treasurySet
    · exact endless.ready.caller
    · exact endless.ready.contract
    · rw [templates, token, balances]
      exact endless.ready.covered
    · rw [templates, token, allowances]
      exact endless.ready.allowed
  · rw [templates]
    exact endless.template
  · rw [treasury]
    exact endless.treasury
  · rw [token, allowances]
    exact endless.allowance
  · intro id later
    rw [(first.others id (by omega)).2.2.2]
    exact endless.unpaid id (by omega)
  · intro id later
    rw [(first.others id (by omega)).2.1]
    exact endless.free id (by omega)
  · exact first.counter

private theorem endless_run (count : Nat) (idLeft : count + 1 < wordBound) :
    Endless count (endlessDeployment.run (endlessCalls count)) := by
  induction count with
  | zero =>
      exact ⟨⟨by decide, by decide, by decide, by decide, by decide, by decide, by decide,
        by decide⟩, by decide, by decide, by decide, fun _ _ => rfl, fun _ _ => rfl, by decide⟩
  | succ count ih =>
      have before := ih (Nat.lt_of_succ_lt idLeft)
      have calls : endlessCalls (count + 1) = endlessCalls count ++ [subscribeCall] := by
        rw [endlessCalls, List.replicate_succ', ← List.append_assoc]
        rfl
      have continued : endlessDeployment.run (endlessCalls count ++ [subscribeCall]) =
          settle (exec endlessDeployment.self) (endlessDeployment.run (endlessCalls count))
            subscribeCall := run_snoc _ _ _
      rw [calls, continued]
      exact before.step idLeft

/-- The last moment a word can hold. -/
def lastMoment : Msg where
  sender := 0xA1
  timestamp := wordBound - 1

/-- A free id is in the window and the caller can pay, yet the subscription
reverts: when only the last id is left, when the term does not fit behind the
block time, and when the template has no price. -/
theorem free_id_without_subscription :
    (ReadyToSubscribe endlessDeployment.self
        (endlessDeployment.run (endlessCalls (wordBound - 2))) subscribeCall.msg 5 ∧
      FreeInWindow (endlessDeployment.run (endlessCalls (wordBound - 2))).policy
        (wordBound - 1) ∧
      ¬∃ next receipt, exec endlessDeployment.self
        (endlessDeployment.run (endlessCalls (wordBound - 2))) subscribeCall =
          .ok (next, receipt)) ∧
    (ReadyToSubscribe endlessDeployment.self (endlessDeployment.run endlessSetupCalls)
        lastMoment 5 ∧
      FreeInWindow (endlessDeployment.run endlessSetupCalls).policy 1 ∧
      ¬∃ next receipt, exec endlessDeployment.self (endlessDeployment.run endlessSetupCalls)
        ⟨lastMoment, .policy (.subscribeToPolicy 5)⟩ = .ok (next, receipt)) ∧
    (ReadyToSubscribe endlessDeployment.self (endlessDeployment.run endlessSetupCalls)
        subscribeCall.msg 6 ∧
      FreeInWindow (endlessDeployment.run endlessSetupCalls).policy 1 ∧
      ¬∃ next receipt, exec endlessDeployment.self (endlessDeployment.run endlessSetupCalls)
        (sampleCall 0xA1 (.subscribeToPolicy 6)) = .ok (next, receipt)) := by
  have bound : 2 ≤ wordBound := by decide
  have endless := endless_run (wordBound - 2) (by omega)
  have counter := endless.counter
  refine ⟨⟨endless.ready, ⟨by omega, by omega, endless.free _ (by omega)⟩, ?_⟩, ?_, ?_⟩
  · rintro ⟨next, receipt, done⟩
    obtain ⟨policyId, payment, subscribed⟩ := subscribeToPolicy_iff.mp done
    have fromCounter := subscribed.issuesFirstFree.fromCounter
    have idLeft := subscribed.idLeft
    omega
  · refine ⟨⟨by decide, by decide, by decide, by decide, by decide, by decide, by decide,
      by decide⟩, ⟨by decide, by decide, by decide⟩, ?_⟩
    rintro ⟨next, receipt, done⟩
    obtain ⟨policyId, payment, subscribed⟩ := subscribeToPolicy_iff.mp done
    exact absurd subscribed.termFits (by decide)
  · refine ⟨⟨by decide, by decide, by decide, by decide, by decide, by decide, by decide,
      by decide⟩, ⟨by decide, by decide, by decide⟩, ?_⟩
    rintro ⟨next, receipt, done⟩
    obtain ⟨policyId, payment, subscribed⟩ := subscribeToPolicy_iff.mp done
    exact absurd subscribed.priced (by decide)

end Dics.InsurancePolicy
