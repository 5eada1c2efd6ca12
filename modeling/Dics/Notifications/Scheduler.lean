/-
The notification service's scheduler.

A poll reads the active policies from the indexer's tables and the premium
status of each from the chain, and warns the holder through a webhook.  What was
last warned about is kept in memory, one date for each policy.  Times of the
service are nanoseconds since 1970; the days remaining, which only the message
carries, are left out.
-/

import Dics.Chain.Premiums
import Dics.Lib.Reminders

namespace Dics.Notifications

open InsurancePolicy (isPremiumCurrent)

/-! ### The premium status -/

structure PremiumStatus where
  policyId : Nat
  current : Bool
  paidUntil : Int
  deriving DecidableEq

/-- `big.Int.Int64`. -/
def int64 (value : Nat) : Int := (BitVec.ofNat 64 value).toInt

/-- Two reads of the chain at one block; `none` when the first reverts. -/
def getPremiumStatus (state : InsurancePolicy.State) (blockTimestamp policyId : Nat) :
    Option PremiumStatus := do
  let current ← isPremiumCurrent state blockTimestamp policyId
  some { policyId, current, paidUntil := int64 (state.premiumPaidUntil policyId) }

/-! ### The decision -/

/-- Nanoseconds. -/
def second : Int := 1000000000

def shouldNotify (status : PremiumStatus) (now warningWindow lastNotifiedPaidUntil : Int) : Bool :=
  if status.current = true then false
  else if ¬(status.paidUntil * second - warningWindow < now) then false
  else if status.paidUntil = lastNotifiedPaidUntil then false
  else true

theorem shouldNotify_iff {status : PremiumStatus} {now warningWindow lastNotifiedPaidUntil : Int} :
    shouldNotify status now warningWindow lastNotifiedPaidUntil = true ↔
      ¬(status.current = true ∨ ¬(status.paidUntil * second - warningWindow < now)) ∧
        status.paidUntil ≠ lastNotifiedPaidUntil := by
  unfold shouldNotify
  by_cases current : status.current = true
  · rw [if_pos current]
    exact iff_of_false (by decide) fun both => both.1 (Or.inl current)
  · rw [if_neg current]
    by_cases early : ¬(status.paidUntil * second - warningWindow < now)
    · rw [if_pos early]
      exact iff_of_false (by decide) fun both => both.1 (Or.inr early)
    · rw [if_neg early]
      by_cases same : status.paidUntil = lastNotifiedPaidUntil
      · rw [if_pos same]
        exact iff_of_false (by decide) fun both => both.2 same
      · rw [if_neg same]
        exact iff_of_true rfl ⟨not_or_intro current early, same⟩

/-- A billed policy between the start of the warning window and the end of the
paid time, when nothing was sent for that end yet. -/
structure BeforeLapse (state : InsurancePolicy.State) (policyId : Nat)
    (now warningWindow lastNotifiedPaidUntil : Int) : Prop where
  billed : (state.premiumTerms policyId).amountPerPeriod ≠ 0
  window : 0 < warningWindow
  opened : (state.premiumPaidUntil policyId : Int) * second - warningWindow < now
  paid : now ≤ (state.premiumPaidUntil policyId : Int) * second
  unsent : lastNotifiedPaidUntil ≠ int64 (state.premiumPaidUntil policyId)

/-- The second the chain is in. -/
def chainTime (now : Int) : Nat := (now / second).toNat

theorem chainTime_le {now : Int} {paidUntil : Nat} (paid : now ≤ (paidUntil : Int) * second) :
    chainTime now ≤ paidUntil := by
  have positive : 0 < second := by decide
  have below := Int.ediv_le_of_le_mul positive paid
  unfold chainTime
  omega

theorem current_of_paid {state : InsurancePolicy.State} {blockTimestamp policyId : Nat}
    {current : Bool} (paid : blockTimestamp ≤ state.premiumPaidUntil policyId)
    (reported : isPremiumCurrent state blockTimestamp policyId = some current) :
    current = true := by
  unfold isPremiumCurrent at reported
  split at reported
  · cases reported
    rfl
  · obtain ⟨deadline, sum, same⟩ := Option.bind_eq_some_iff.mp reported
    rw [Words.checkedAdd_eq_some] at sum
    cases same
    exact decide_eq_true (by omega)

/-- Before a premium lapses the chain reports it as current, so no warning is
sent, at no time and for no policy. -/
theorem silent_before_lapse (state : InsurancePolicy.State) (policyId : Nat)
    (now warningWindow lastNotifiedPaidUntil : Int)
    (before : BeforeLapse state policyId now warningWindow lastNotifiedPaidUntil)
    (status : PremiumStatus)
    (reported : getPremiumStatus state (chainTime now) policyId = some status) :
    shouldNotify status now warningWindow lastNotifiedPaidUntil = false := by
  obtain ⟨current, read, same⟩ := Option.bind_eq_some_iff.mp reported
  cases same
  have fine := current_of_paid (chainTime_le before.paid) read
  unfold shouldNotify
  rw [if_pos fine]

section Sample

open InsurancePolicy (sampleDeployment sampleCalls)

/-- Policy `2` is paid until `40`; it is one second before that. -/
theorem beforeLapse_sample :
    BeforeLapse (sampleDeployment.run sampleCalls).policy 2 (39 * second) (3 * second) 0 where
  billed := by decide
  window := by decide
  opened := by decide
  paid := by decide
  unsent := by decide

theorem silent_before_lapse_sample :
    getPremiumStatus (sampleDeployment.run sampleCalls).policy 39 2 =
        some { policyId := 2, current := true, paidUntil := 40 } ∧
      shouldNotify { policyId := 2, current := true, paidUntil := 40 } (39 * second)
        (3 * second) 0 = false := by
  have reported : getPremiumStatus (sampleDeployment.run sampleCalls).policy 39 2 =
      some { policyId := 2, current := true, paidUntil := 40 } := by decide
  exact ⟨reported, silent_before_lapse (sampleDeployment.run sampleCalls).policy 2 (39 * second)
    (3 * second) 0 beforeLapse_sample _ reported⟩

/-- One second before its premium lapses the policy of the sample gets no
warning, nor at the last instant of the paid time. -/
theorem lapsing_policy_not_warned :
    (BeforeLapse (sampleDeployment.run sampleCalls).policy 2 (39 * second) (3 * second) 0 ∧
      (getPremiumStatus (sampleDeployment.run sampleCalls).policy (chainTime (39 * second))
        2).map (fun status => shouldNotify status (39 * second) (3 * second) 0) = some false) ∧
    (getPremiumStatus (sampleDeployment.run sampleCalls).policy (chainTime (40 * second))
      2).map (fun status => shouldNotify status (40 * second) (3 * second) 0) = some false := by
  exact ⟨⟨beforeLapse_sample, by decide⟩, by decide⟩

end Sample

/-! ### Polls -/

/-- A row of `onchain_policies` that is not revoked. -/
structure ActivePolicy where
  policyId : Nat
  holderAddress : Address
  deriving DecidableEq

structure PremiumWarning where
  policyId : Nat
  holderAddress : Address
  paidUntil : Int
  deriving DecidableEq

/-- The map of the process, and the warnings the webhook has accepted so far. -/
structure Scheduler where
  lastNotified : Nat → Int
  sent : List PremiumWarning

/-- What a poll meets: the latest block, the clock, the active policies unless
the query fails, the policies whose chain reads succeed and those whose warning
the webhook accepts. -/
structure Poll where
  blockTimestamp : Nat
  inRange : blockTimestamp < 2 ^ 63
  now : Int
  activePolicies : Option (List ActivePolicy)
  answers : Nat → Bool
  accepts : Nat → Bool

def Poll.status (poll : Poll) (state : InsurancePolicy.State) (policyId : Nat) :
    Option PremiumStatus :=
  if poll.answers policyId = true then getPremiumStatus state poll.blockTimestamp policyId
  else none

/-- The body of the loop; a failed read or a failed send goes on with the next
policy. -/
def checkPolicy (warningWindow : Int) (state : InsurancePolicy.State) (poll : Poll)
    (scheduler : Scheduler) (policy : ActivePolicy) : Scheduler :=
  match poll.status state policy.policyId with
  | none => scheduler
  | some status =>
      if shouldNotify status poll.now warningWindow
          (scheduler.lastNotified policy.policyId) = true then
        if poll.accepts policy.policyId = true then
          { lastNotified :=
              Function.update scheduler.lastNotified policy.policyId status.paidUntil
            sent := scheduler.sent ++
              [{ policyId := policy.policyId
                 holderAddress := policy.holderAddress
                 paidUntil := status.paidUntil }] }
        else scheduler
      else scheduler

section Loop

variable {warningWindow : Int} {state : InsurancePolicy.State} {poll : Poll}
  {scheduler : Scheduler} {policy : ActivePolicy}

theorem checkPolicy_sent {status : PremiumStatus}
    (read : poll.status state policy.policyId = some status)
    (notify : shouldNotify status poll.now warningWindow
      (scheduler.lastNotified policy.policyId) = true)
    (accepts : poll.accepts policy.policyId = true) :
    checkPolicy warningWindow state poll scheduler policy =
      { lastNotified := Function.update scheduler.lastNotified policy.policyId status.paidUntil
        sent := scheduler.sent ++
          [{ policyId := policy.policyId
             holderAddress := policy.holderAddress
             paidUntil := status.paidUntil }] } := by
  unfold checkPolicy
  rw [read]
  dsimp only
  rw [if_pos notify, if_pos accepts]

theorem checkPolicy_kept {status : PremiumStatus}
    (read : poll.status state policy.policyId = some status)
    (quiet : ¬(shouldNotify status poll.now warningWindow
        (scheduler.lastNotified policy.policyId) = true ∧
      poll.accepts policy.policyId = true)) :
    checkPolicy warningWindow state poll scheduler policy = scheduler := by
  unfold checkPolicy
  rw [read]
  dsimp only
  split
  · rename_i notify
    exact if_neg fun accepts => quiet ⟨notify, accepts⟩
  · rfl

theorem checkPolicy_unread (unread : poll.status state policy.policyId = none) :
    checkPolicy warningWindow state poll scheduler policy = scheduler := by
  unfold checkPolicy
  rw [unread]

end Loop

def checkOnce (warningWindow : Int) (state : InsurancePolicy.State) (poll : Poll)
    (scheduler : Scheduler) : Scheduler :=
  match poll.activePolicies with
  | none => scheduler
  | some policies => policies.foldl (checkPolicy warningWindow state poll) scheduler

end Dics.Notifications
