/-
Premiums over whole runs.

`payPremium` and `subscribeToPolicy` share one collection, which extends the
paid-until date from whichever is later, that date or now.  Over a run of any
length the payments for a policy buy spans of time that follow one another,
and each takes its price from the holder and nothing else.
-/

import Dics.Chain.PolicyRuns
import Dics.Lib.Spans

open Transactions Tokens Words Spans

namespace Dics.InsurancePolicy

/-! ### One collection -/

structure Collected (here : Address) (policyId : Nat) (payer : Address) (msg : Msg)
    (before after : State) (tokens paid : Bank Address) (receipt : Receipt Event) : Prop where
  tokenSet : before.premiumToken ≠ 0
  priced : (before.premiumTerms policyId).amountPerPeriod ≠ 0
  fits : max (before.premiumPaidUntil policyId) msg.timestamp +
    (before.premiumTerms policyId).periodSeconds.toNat < wordBound
  moved : tokens.act before.premiumToken here (.transferFrom payer before.premiumTreasury
    (before.premiumTerms policyId).amountPerPeriod.toNat) = .ok (paid, receipt.movements)
  written : after = { before with
    premiumPaidUntil := Function.update before.premiumPaidUntil policyId
      (max (before.premiumPaidUntil policyId) msg.timestamp +
        (before.premiumTerms policyId).periodSeconds.toNat) }
  announced : receipt.events = [.premiumPaid policyId payer
    (before.premiumTerms policyId).amountPerPeriod.toNat
    (max (before.premiumPaidUntil policyId) msg.timestamp +
      (before.premiumTerms policyId).periodSeconds.toNat)]

/-- The source picks the later of the two dates with a conditional. -/
theorem later_eq_max (paidUntil timestamp : Nat) :
    (if paidUntil > timestamp then paidUntil else timestamp) = max paidUntil timestamp := by
  by_cases later : paidUntil > timestamp
  · rw [if_pos later]
    omega
  · rw [if_neg later]
    omega

theorem collectPremium_iff {self payer : Address} {policyId : Nat} {msg : Msg}
    {state after : State} {tokens paid : Bank Address} {receipt : Receipt Event} :
    collectPremium self policyId payer msg state tokens = .ok ((after, paid), receipt) ↔
      Collected self policyId payer msg state after tokens paid receipt := by
  simp only [collectPremium, require_bind_eq_ok, orRevert_bind_eq_ok, later_eq_max,
    checkedAdd_eq_some]
  constructor
  · rintro ⟨tokenSet, priced, newPaidUntil, ⟨fits, rfl⟩, collecting⟩
    obtain ⟨⟨_, _⟩, collected, same⟩ := bind_eq_ok.mp collecting
    cases same
    exact ⟨tokenSet, priced, fits, mapError_eq_ok.mp collected, rfl, rfl⟩
  · rintro ⟨tokenSet, priced, fits, moved, rfl, events⟩
    refine ⟨tokenSet, priced, _, ⟨fits, rfl⟩, ?_⟩
    apply bind_eq_ok.mpr
    refine ⟨(paid, receipt.movements), mapError_eq_ok.mpr moved, ?_⟩
    rw [← events]
    rfl

/-- The storage a subscription has written when its first payment is taken. -/
def State.withSubscription (state : State) (templateId policyId : Nat) (msg : Msg) : State :=
  { state with
    nextPolicyId := policyId + 1
    policies := Function.update state.policies policyId
      { policyId := BitVec.ofNat 128 policyId
        coverageAmount := (state.policyTemplates templateId).coverageAmount
        holder := msg.sender
        validFrom := BitVec.ofNat 40 msg.timestamp
        validUntil := BitVec.ofNat 40
          (msg.timestamp + (state.policyTemplates templateId).termSeconds.toNat)
        revoked := false
        metadataHash := (state.policyTemplates templateId).metadataHash }
    policyExists := Function.update state.policyExists policyId true
    premiumTerms := Function.update state.premiumTerms policyId
      { amountPerPeriod := (state.policyTemplates templateId).premiumAmountPerPeriod
        periodSeconds := (state.policyTemplates templateId).periodSeconds } }

structure Subscribed (here : Address) (templateId policyId : Nat) (msg : Msg)
    (world next : World) (receipt payment : Receipt Event) : Prop where
  unpaused : world.policy.paused = false
  priced : (world.policy.policyTemplates templateId).premiumAmountPerPeriod ≠ 0
  active : (world.policy.policyTemplates templateId).active = true
  found : skipForward world.policy.policyExists 1000 world.policy.nextPolicyId = some policyId
  idLeft : policyId + 1 < wordBound
  termFits : msg.timestamp + (world.policy.policyTemplates templateId).termSeconds.toNat <
    wordBound
  collected : Collected here policyId msg.sender msg
    (world.policy.withSubscription templateId policyId msg) next.policy world.tokens next.tokens
    payment
  announced : receipt = { payment with
    events := .policyRegistered policyId msg.sender msg.timestamp
        (msg.timestamp + (world.policy.policyTemplates templateId).termSeconds.toNat)
        (world.policy.policyTemplates templateId).coverageAmount.toNat
        (world.policy.policyTemplates templateId).metadataHash ::
      .policySubscribed policyId templateId msg.sender
        (msg.timestamp + (world.policy.policyTemplates templateId).termSeconds.toNat) ::
      payment.events }

section Calls

variable {self : Address} {msg : Msg} {world next : World} {receipt : Receipt Event}

theorem subscribeToPolicy_iff {templateId : Nat} :
    callFn self msg world (.subscribeToPolicy templateId) = .ok (next, receipt) ↔
      ∃ policyId payment, Subscribed self templateId policyId msg world next receipt payment := by
  constructor
  · intro done
    obtain ⟨⟨⟨state, tokens⟩, paid⟩, subscribing, same⟩ := bind_eq_ok.mp done
    cases same
    simp only [subscribeToPolicy, whenNotPaused, require_bind_eq_ok, orRevert_bind_eq_ok,
      checkedAdd_eq_some] at subscribing
    obtain ⟨unpaused, priced, active, policyId, found, _, ⟨idLeft, rfl⟩, _, ⟨termFits, rfl⟩,
      collecting⟩ := subscribing
    obtain ⟨⟨⟨_, _⟩, payment⟩, collected, same⟩ := bind_eq_ok.mp collecting
    cases same
    exact ⟨policyId, payment, unpaused, priced, active, found, idLeft, termFits,
      collectPremium_iff.mp collected, rfl⟩
  · rintro ⟨policyId, payment, unpaused, priced, active, found, idLeft, termFits, collected,
      rfl⟩
    apply bind_eq_ok.mpr
    refine ⟨((next.policy, next.tokens), _), ?_, rfl⟩
    simp only [subscribeToPolicy, whenNotPaused, require_bind_eq_ok, orRevert_bind_eq_ok,
      checkedAdd_eq_some]
    refine ⟨unpaused, priced, active, policyId, found, _, ⟨idLeft, rfl⟩, _, ⟨termFits, rfl⟩, ?_⟩
    exact bind_eq_ok.mpr ⟨_, collectPremium_iff.mpr collected, rfl⟩

theorem payPremium_iff {policyId : Nat} :
    callFn self msg world (.payPremium policyId) = .ok (next, receipt) ↔
      world.policy.paused = false ∧ world.policy.policyExists policyId = true ∧
        (world.policy.policies policyId).holder = msg.sender ∧
        Collected self policyId msg.sender msg world.policy next.policy world.tokens next.tokens
          receipt := by
  constructor
  · intro done
    obtain ⟨⟨⟨state, tokens⟩, paid⟩, paying, same⟩ := bind_eq_ok.mp done
    cases same
    simp only [payPremium, whenNotPaused, require_bind_eq_ok] at paying
    obtain ⟨unpaused, found, holder, collected⟩ := paying
    exact ⟨unpaused, found, holder, collectPremium_iff.mp collected⟩
  · rintro ⟨unpaused, found, holder, collected⟩
    apply bind_eq_ok.mpr
    refine ⟨((next.policy, next.tokens), receipt), ?_, rfl⟩
    simp only [payPremium, whenNotPaused, require_bind_eq_ok]
    exact ⟨unpaused, found, holder, collectPremium_iff.mpr collected⟩

end Calls

/-! ### Payments of a run -/

/-- The commits that paid for a policy: its holder renewed it, or a
subscription issued it. -/
def pays (policyId : Nat) (commit : Commit) : Bool :=
  match commit.call.target with
  | .policy (.payPremium paid) => decide (paid = policyId)
  | .policy (.subscribeToPolicy _) =>
      !commit.before.policy.policyExists policyId && commit.after.policy.policyExists policyId
  | _ => false

/-- What a payment buys: one period, from the later of the paid-until date and
the time of the payment. -/
def span (policyId : Nat) (commit : Commit) : Span where
  start := max (commit.before.policy.premiumPaidUntil policyId) commit.call.msg.timestamp
  length := (commit.after.policy.premiumTerms policyId).periodSeconds.toNat

def payments (policyId : Nat) (past : List Commit) : List Commit :=
  past.filter (pays policyId)

def boughtSpans (policyId : Nat) (past : List Commit) : List Span :=
  (payments policyId past).map (span policyId)

/-- The movement a payment causes: one period's amount from the caller, who is
the holder, to the treasury configured at that time. -/
def premiumMovement (policyId : Nat) (commit : Commit) : Movement Address where
  token := commit.before.policy.premiumToken
  sender := (commit.after.policy.policies policyId).holder
  recipient := commit.before.policy.premiumTreasury
  amount := (commit.after.policy.premiumTerms policyId).amountPerPeriod.toNat

structure PaysExactly (policyId : Nat) (commit : Commit) : Prop where
  byHolder : (commit.after.policy.policies policyId).holder = commit.call.msg.sender
  paidUntil : commit.after.policy.premiumPaidUntil policyId = (span policyId commit).finish
  movements : commit.output.movements = [premiumMovement policyId commit]
  covered : (premiumMovement policyId commit).amount ≤
    (commit.before.tokens commit.before.policy.premiumToken).balances
      (premiumMovement policyId commit).sender
  balances : (commit.after.tokens commit.before.policy.premiumToken).balances =
    ((commit.before.tokens commit.before.policy.premiumToken).move
      (premiumMovement policyId commit).sender (premiumMovement policyId commit).recipient
      (premiumMovement policyId commit).amount).balances
  otherTokens : ∀ token, token ≠ commit.before.policy.premiumToken →
    commit.after.tokens token = commit.before.tokens token

def Fn.collects : Fn → Bool
  | .payPremium _ => true
  | .subscribeToPolicy _ => true
  | _ => false

section Steps

variable {self : Address} {world next : World} {call : Call} {receipt : Receipt Event}

theorem registerPolicy_paidUntil {policyId : Nat} {holder : Address} {msg : Msg}
    {validFrom validUntil coverageAmount : Nat} {metadataHash : Bytes32}
    (done : callFn self msg world (.registerPolicy policyId holder validFrom validUntil
      coverageAmount metadataHash) = .ok (next, receipt)) :
    next.policy.premiumPaidUntil = world.policy.premiumPaidUntil := by
  simp only [callFn, World.withState, registerPolicy, whenNotPaused, onlyRole, bind_assoc,
    require_bind_eq_ok, pure_bind, pure_eq_ok] at done
  obtain ⟨_, _, _, _, _, same⟩ := done
  cases same
  rfl

/-- Only the two collecting functions write a paid-until date. -/
theorem paidUntil_of_not_collects {msg : Msg} {fn : Fn}
    (done : callFn self msg world fn = .ok (next, receipt)) (other : fn.collects = false) :
    next.policy.premiumPaidUntil = world.policy.premiumPaidUntil := by
  cases callFn_effect done with
  | issued _ issue source =>
      cases source with
      | registerPolicy => exact registerPolicy_paidUntil done
      | subscribeToPolicy => cases other
  | revoked _ _ _ _ premiums _ => exact premiums.premiumPaidUntil
  | coverageUpdated _ _ _ _ _ premiums _ => exact premiums.premiumPaidUntil
  | termsSet _ _ _ _ _ _ premiumPaidUntil _ => exact premiumPaidUntil
  | premiumPaid => cases other
  | administered _ _ _ premiums _ => exact premiums.premiumPaidUntil

theorem Collected.paysExactly {policyId : Nat} {before : State} {payment : Receipt Event}
    (collected : Collected self policyId call.msg.sender call.msg before next.policy world.tokens
      next.tokens payment)
    (token : before.premiumToken = world.policy.premiumToken)
    (treasury : before.premiumTreasury = world.policy.premiumTreasury)
    (paidUntil : before.premiumPaidUntil = world.policy.premiumPaidUntil)
    (holder : (before.policies policyId).holder = call.msg.sender)
    (movements : receipt.movements = payment.movements) :
    PaysExactly policyId ⟨world, call, receipt, next⟩ := by
  obtain ⟨covered, balances, otherTokens, moved⟩ := act_transferFrom_eq_ok collected.moved
  rw [token] at balances otherTokens
  rw [token, treasury] at moved
  rw [token] at covered
  rw [treasury] at balances
  have sameHolder : (next.policy.policies policyId).holder = call.msg.sender := by
    rw [collected.written]
    exact holder
  have sameTerms : next.policy.premiumTerms = before.premiumTerms := by
    rw [collected.written]
  constructor
  · exact sameHolder
  · change next.policy.premiumPaidUntil policyId =
      max (world.policy.premiumPaidUntil policyId) call.msg.timestamp +
        (next.policy.premiumTerms policyId).periodSeconds.toNat
    rw [sameTerms, collected.written, ← paidUntil]
    exact Function.update_self _ _ _
  · simp only [premiumMovement, movements, moved, sameHolder, sameTerms]
  · simp only [premiumMovement, sameHolder, sameTerms]
    exact covered
  · simp only [premiumMovement, sameHolder, sameTerms]
    exact balances
  · exact otherTokens

/-- Every commit either paid for the policy, exactly, or left its paid-until
date alone. -/
theorem paid_or_unpaid (done : exec self world call = .ok (next, receipt)) (policyId : Nat) :
    (pays policyId ⟨world, call, receipt, next⟩ = true ∧
      PaysExactly policyId ⟨world, call, receipt, next⟩) ∨
    (pays policyId ⟨world, call, receipt, next⟩ = false ∧
      next.policy.premiumPaidUntil policyId = world.policy.premiumPaidUntil policyId) := by
  unfold exec at done
  cases target : call.target with
  | token token act =>
      rw [target] at done
      obtain ⟨⟨tokens, movements⟩, _, same⟩ := bind_eq_ok.mp done
      cases same
      refine Or.inr ⟨?_, rfl⟩
      simp only [pays, target]
  | policy fn =>
      rw [target] at done
      dsimp only at done
      cases collecting : fn.collects with
      | false =>
          refine Or.inr ⟨?_, congrFun (paidUntil_of_not_collects done collecting) policyId⟩
          cases fn with
          | payPremium _ => cases collecting
          | subscribeToPolicy _ => cases collecting
          | _ => simp only [pays, target]
      | true =>
          cases fn with
          | payPremium paid =>
              obtain ⟨_, _, holder, collected⟩ := payPremium_iff.mp done
              by_cases same : paid = policyId
              · subst same
                refine Or.inl ⟨?_, collected.paysExactly rfl rfl rfl holder rfl⟩
                simp only [pays, target, decide_true]
              · refine Or.inr ⟨?_, ?_⟩
                · simp only [pays, target, same, decide_false]
                · rw [collected.written]
                  exact Function.update_of_ne (Ne.symm same) _ _
          | subscribeToPolicy templateId =>
              obtain ⟨issued, payment, subscribed⟩ := subscribeToPolicy_iff.mp done
              have collected := subscribed.collected
              have registered : next.policy.policyExists =
                  Function.update world.policy.policyExists issued true := by
                rw [collected.written]
                rfl
              by_cases same : policyId = issued
              · subst same
                refine Or.inl ⟨?_, collected.paysExactly rfl rfl rfl ?_ ?_⟩
                · simp only [pays, target, registered, skipForward_free subscribed.found,
                    Function.update_self, Bool.not_false, Bool.and_self]
                · simp only [State.withSubscription, Function.update_self]
                · rw [subscribed.announced]
              · refine Or.inr ⟨?_, ?_⟩
                · simp only [pays, target, registered, Function.update_of_ne same,
                    Bool.not_and_self]
                · rw [collected.written]
                  exact Function.update_of_ne same _ _
          | _ => cases collecting

end Steps

/-- The account of one policy: what was bought lies in order, and all of it
before the paid-until date. -/
structure Account (policyId : Nat) (world : World) (past : List Commit) : Prop where
  ordered : Ordered (boughtSpans policyId past)
  finished : ∀ bought ∈ boughtSpans policyId past,
    bought.finish ≤ world.policy.premiumPaidUntil policyId

section Accounts

variable {self : Address} {world next : World} {call : Call} {receipt : Receipt Event}
variable {past : List Commit} {policyId : Nat}

theorem paidUntil_le (done : exec self world call = .ok (next, receipt)) :
    world.policy.premiumPaidUntil policyId ≤ next.policy.premiumPaidUntil policyId := by
  rcases paid_or_unpaid done policyId with ⟨_, paid⟩ | ⟨_, same⟩
  · rw [paid.paidUntil]
    exact Nat.le_trans (Nat.le_max_left _ _) (Nat.le_add_right _ _)
  · exact Nat.le_of_eq same.symm

theorem account_step (before : Account policyId world past)
    (done : exec self world call = .ok (next, receipt)) :
    Account policyId next (past ++ [⟨world, call, receipt, next⟩]) := by
  rcases paid_or_unpaid done policyId with ⟨paying, paid⟩ | ⟨notPaying, same⟩
  · have grown : boughtSpans policyId (past ++ [⟨world, call, receipt, next⟩]) =
        boughtSpans policyId past ++ [span policyId ⟨world, call, receipt, next⟩] := by
      simp only [boughtSpans, payments, List.filter_append, List.filter_singleton, paying,
        cond_true, List.map_append, List.map_cons, List.map_nil]
    constructor
    · rw [grown]
      apply before.ordered.snoc
      intro earlier member
      exact Nat.le_trans (before.finished earlier member) (Nat.le_max_left _ _)
    · rw [grown]
      intro bought member
      rcases List.mem_append.mp member with earlier | last
      · exact Nat.le_trans (before.finished bought earlier) (paidUntil_le done)
      · rw [List.mem_singleton.mp last, paid.paidUntil]
  · have unchanged : boughtSpans policyId (past ++ [⟨world, call, receipt, next⟩]) =
        boughtSpans policyId past := by
      simp only [boughtSpans, payments, List.filter_append, List.filter_singleton, notPaying,
        cond_false, List.append_nil]
    constructor
    · rw [unchanged]
      exact before.ordered
    · rw [unchanged, same]
      exact before.finished

end Accounts

theorem account_run (deployment : Deployment) (calls : List Call) (policyId : Nat) :
    Account policyId (deployment.run calls) (deployment.history calls) := by
  refine @run_induction _ _ _ _ (exec deployment.self) (Account policyId) (fun _ => True)
    deployment.start ⟨List.Pairwise.nil, nofun⟩ ?_ calls (fun _ _ => trivial)
  intro world past call next receipt before done _
  exact account_step before done

theorem paidUntil_run_le (deployment : Deployment) (calls later : List Call) (policyId : Nat) :
    (deployment.run calls).policy.premiumPaidUntil policyId ≤
      (deployment.run (calls ++ later)).policy.premiumPaidUntil policyId := by
  have continued : deployment.run (calls ++ later) =
      Transactions.run (exec deployment.self) (deployment.run calls) later :=
    List.foldl_append
  rw [continued]
  refine @run_induction _ _ _ _ (exec deployment.self)
    (fun world _ => (deployment.run calls).policy.premiumPaidUntil policyId ≤
      world.policy.premiumPaidUntil policyId) (fun _ => True)
    (deployment.run calls) (Nat.le_refl _) ?_ later (fun _ _ => trivial)
  intro world past call next receipt before done _
  exact Nat.le_trans before (paidUntil_le done)

theorem history_paid_or_unpaid (deployment : Deployment) (calls : List Call) (policyId : Nat)
    {commit : Commit} (member : commit ∈ deployment.history calls) :
    (pays policyId commit = true ∧ PaysExactly policyId commit) ∨
    (pays policyId commit = false ∧
      commit.after.policy.premiumPaidUntil policyId =
        commit.before.policy.premiumPaidUntil policyId) := by
  obtain ⟨past, future, cut⟩ := List.append_of_mem member
  obtain ⟨_, _, _, done⟩ := history_split cut
  exact paid_or_unpaid done policyId

/-- The premium account of every policy in every run.  The paid-until date only
grows, and only by payments.  Each payment buys one period from the later of
that date and its own time and takes its price from the holder; the spans
bought are disjoint and last together as long as all the periods paid for. -/
theorem premiums_buy_disjoint_spans (deployment : Deployment) (calls later : List Call)
    (policyId : Nat) :
    (deployment.run calls).policy.premiumPaidUntil policyId ≤
        (deployment.run (calls ++ later)).policy.premiumPaidUntil policyId ∧
      (∀ commit ∈ deployment.history calls, pays policyId commit = false →
        commit.after.policy.premiumPaidUntil policyId =
          commit.before.policy.premiumPaidUntil policyId) ∧
      (∀ commit ∈ payments policyId (deployment.history calls),
        PaysExactly policyId commit ∧
          commit.call.msg.timestamp ≤ (span policyId commit).start) ∧
      (boughtSpans policyId (deployment.history calls)).Pairwise
        (fun earlier later => Disjoint earlier.moments later.moments) ∧
      (moments (boughtSpans policyId (deployment.history calls))).card =
        ((payments policyId (deployment.history calls)).map
          (fun commit => (commit.after.policy.premiumTerms policyId).periodSeconds.toNat)).sum := by
  have account := account_run deployment calls policyId
  refine ⟨paidUntil_run_le deployment calls later policyId, ?_, ?_, account.ordered.disjoint, ?_⟩
  · intro commit member notPaying
    rcases history_paid_or_unpaid deployment calls policyId member with ⟨paying, _⟩ | ⟨_, same⟩
    · rw [paying] at notPaying
      cases notPaying
    · exact same
  · intro commit member
    obtain ⟨inHistory, paying⟩ := List.mem_filter.mp member
    refine ⟨?_, Nat.le_max_right _ _⟩
    rcases history_paid_or_unpaid deployment calls policyId inHistory with
      ⟨_, paid⟩ | ⟨notPaying, _⟩
    · exact paid
    · rw [paying] at notPaying
      cases notPaying
  · rw [account.ordered.card_moments]
    simp only [boughtSpans, List.map_map]
    rfl

/-- A renewal at time `10` of the policy issued at time `10` buys the next
thirty seconds. -/
example : (boughtSpans 2 (sampleDeployment.history
      (sampleCalls ++ [sampleCall 0xA1 (.payPremium 2)]))).map Span.start = [10, 40] := by
  decide

end Dics.InsurancePolicy
