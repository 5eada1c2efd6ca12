/-
How far overlapping operations can overrun the paymaster's cap.

Every validation is checked against what has been charged so far, not against
what waits to be charged.  An operation alone stays below the cap, so with a
given number of operations of one sender and day waiting at a time, the
sponsorship of that day stays below as many caps.
-/

import Dics.Chain.Paymaster
import Dics.Lib.EventLogs

open Transactions Words EventLogs

namespace Dics.ClaimGasPaymaster

/-- The operations of one sender and day that wait for their `_postOp`. -/
def waiting (context : Context) (ops : List Op) : Nat :=
  ops.countP fun op => decide (op.context = context)

def Event.sponsors (context : Context) : Event → Nat
  | .gasSponsored sender actualGasCost dayBucket =>
      if (⟨sender, dayBucket⟩ : Context) = context then actualGasCost else 0
  | .dailyCapUpdated _ => 0

/-- What the log says was sponsored for one sender and day. -/
def sponsored (context : Context) (commits : List Commit) : Nat :=
  ((log id commits).map (Event.sponsors context)).sum

/-- The commit leaves at most `most` operations of one sender and day waiting,
and the cap at most at `cap`. -/
structure Overlapping (most cap : Nat) (commit : Commit) : Prop where
  waits : ∀ op ∈ commit.after.inFlight, waiting op.context commit.after.inFlight ≤ most
  capped : commit.after.paymaster.dailySponsorshipCapWei ≤ cap

instance (most cap : Nat) (commit : Commit) : Decidable (Overlapping most cap commit) :=
  decidable_of_iff
    ((∀ op ∈ commit.after.inFlight, waiting op.context commit.after.inFlight ≤ most) ∧
      commit.after.paymaster.dailySponsorshipCapWei ≤ cap)
    ⟨fun both => ⟨both.1, both.2⟩, fun both => ⟨both.waits, both.capped⟩⟩

structure Bounded (most cap : Nat) (world : World) (past : List Commit) : Prop where
  capped : world.paymaster.dailySponsorshipCapWei ≤ cap
  costs : ∀ op ∈ world.inFlight, op.maxCost ≤ cap
  charged : ∀ context, world.used context + reserved context world.inFlight ≤ most * cap
  logged : ∀ context, world.used context = sponsored context past

theorem waiting_snoc (context : Context) (ops : List Op) (op : Op) :
    waiting context (ops ++ [op]) =
      waiting context ops + if op.context = context then 1 else 0 := by
  simp only [waiting, List.countP_append, List.countP_singleton, decide_eq_true_eq]

theorem reserved_le_waiting {cap : Nat} {ops : List Op} (context : Context)
    (costs : ∀ op ∈ ops, op.maxCost ≤ cap) : reserved context ops ≤ waiting context ops * cap := by
  induction ops using List.reverseRecOn with
  | nil => exact Nat.zero_le _
  | append_singleton ops op ih =>
      have earlier := ih fun other member => costs other (List.mem_append_left _ member)
      have cost := costs op (List.mem_append_right _ (List.mem_singleton.mpr rfl))
      rw [reserved_snoc, waiting_snoc, Nat.add_mul]
      unfold Op.reserves
      split
      · omega
      · omega

theorem sponsored_snoc (context : Context) (past : List Commit) (commit : Commit) :
    sponsored context (past ++ [commit]) =
      sponsored context past + (commit.output.map (Event.sponsors context)).sum := by
  simp only [sponsored, log_snoc, id_eq, List.map_append, List.sum_append]

/-! ### What a committed callback adds to the log -/

theorem validate_admits {world next : World} {events : List Event} {sender : Address}
    {maxCost timestamp : Nat}
    (done : exec world (.validatePaymasterUserOp sender maxCost timestamp) =
      .ok (next, events)) :
    events = [] ∧ world.used ⟨sender, timestamp / oneDay⟩ + maxCost ≤
      world.paymaster.dailySponsorshipCapWei := by
  simp only [exec, validatePaymasterUserOp, bind_assoc, orRevert_bind_eq_ok,
    require_bind_eq_ok, pure_bind, pure_eq_ok, checkedAdd_eq_some] at done
  obtain ⟨_, ⟨_, rfl⟩, room, same⟩ := done
  cases same
  exact ⟨rfl, room⟩

theorem postOp_events {world next : World} {events : List Event} {op : Op} {actualGasCost : Nat}
    (done : exec world (.postOp op actualGasCost) = .ok (next, events)) :
    events = [.gasSponsored op.context.sender actualGasCost op.context.dayBucket] := by
  simp only [exec, postOp, bind_assoc, orRevert_bind_eq_ok, require_bind_eq_ok, pure_bind,
    pure_eq_ok] at done
  obtain ⟨_, _, _, same⟩ := done
  cases same
  rfl

theorem setDailySponsorshipCap_events {world next : World} {events : List Event}
    {sender : Address} {newCapWei : Nat}
    (done : exec world (.setDailySponsorshipCap sender newCapWei) = .ok (next, events)) :
    events = [.dailyCapUpdated newCapWei] := by
  simp only [exec, setDailySponsorshipCap, bind_assoc, require_bind_eq_ok, pure_bind,
    pure_eq_ok] at done
  obtain ⟨_, same⟩ := done
  cases same
  rfl

/-! ### Runs -/

section Steps

variable {most cap : Nat} {world next : World} {past : List Commit} {events : List Event}

theorem Bounded.validated (before : Bounded most cap world past) {sender : Address}
    {maxCost timestamp : Nat}
    (done : exec world (.validatePaymasterUserOp sender maxCost timestamp) = .ok (next, events))
    (overlapping : Overlapping most cap
      ⟨world, .validatePaymasterUserOp sender maxCost timestamp, events, next⟩) :
    Bounded most cap next (past ++
      [⟨world, .validatePaymasterUserOp sender maxCost timestamp, events, next⟩]) := by
  obtain ⟨rfl, room⟩ := validate_admits done
  have capped := before.capped
  have waits := overlapping.waits
  rw [validate_ok done] at waits ⊢
  refine ⟨capped, ?_, ?_, ?_⟩
  · intro op member
    rcases List.mem_append.mp member with earlier | last
    · exact before.costs op earlier
    · rw [List.mem_singleton.mp last]
      show maxCost ≤ cap
      omega
  · intro context
    have bound := before.charged context
    show world.used context + _ ≤ _
    rw [reserved_snoc]
    unfold Op.reserves
    split
    · rename_i same
      dsimp only at same ⊢
      subst same
      have others := reserved_le_waiting ⟨sender, timestamp / oneDay⟩ before.costs
      have several := waits _ (List.mem_append_right _ (List.mem_singleton.mpr rfl))
      dsimp only at several
      rw [waiting_snoc, if_pos rfl] at several
      have product := Nat.mul_le_mul_right cap several
      rw [Nat.add_mul, Nat.one_mul] at product
      omega
    · omega
  · intro context
    rw [sponsored_snoc]
    exact before.logged context

theorem Bounded.settled (before : Bounded most cap world past) {op : Op} {actualGasCost : Nat}
    (done : exec world (.postOp op actualGasCost) = .ok (next, events)) :
    Bounded most cap next (past ++ [⟨world, .postOp op actualGasCost, events, next⟩]) := by
  rw [postOp_events done]
  obtain ⟨waits, bounded, rfl⟩ := postOp_ok done
  refine ⟨before.capped, ?_, ?_, ?_⟩
  · intro other member
    exact before.costs other (List.mem_of_mem_erase member)
  · intro context
    have bound := before.charged context
    have released := reserved_erase context waits
    rw [used_charge]
    unfold Op.reserves at released
    show _ + reserved context (world.inFlight.erase op) ≤ _
    split
    · rename_i same
      subst same
      rw [if_pos rfl] at released
      omega
    · rename_i other
      rw [if_neg (Ne.symm other)] at released
      omega
  · intro context
    have logged := before.logged context
    rw [sponsored_snoc, used_charge]
    simp only [List.map_cons, List.map_nil, List.sum_cons, List.sum_nil, Nat.add_zero,
      Event.sponsors]
    split
    · rename_i same
      subst same
      rw [if_pos rfl]
      omega
    · rename_i other
      rw [if_neg (Ne.symm other)]
      omega

theorem bounded_step {call : Call} (before : Bounded most cap world past)
    (done : exec world call = .ok (next, events))
    (overlapping : Overlapping most cap ⟨world, call, events, next⟩) :
    Bounded most cap next (past ++ [⟨world, call, events, next⟩]) := by
  cases call with
  | validatePaymasterUserOp sender maxCost timestamp => exact before.validated done overlapping
  | postOp op actualGasCost => exact before.settled done
  | setDailySponsorshipCap sender newCapWei =>
      obtain ⟨inFlight, used⟩ := setDailySponsorshipCap_ok done
      have capped : next.paymaster.dailySponsorshipCapWei ≤ cap := overlapping.capped
      rw [setDailySponsorshipCap_events done]
      refine ⟨capped, ?_, ?_, ?_⟩
      · rw [inFlight]
        exact before.costs
      · intro context
        rw [inFlight, used]
        exact before.charged context
      · intro context
        rw [sponsored_snoc, used]
        exact before.logged context

end Steps

/-- However the EntryPoint bundles operations and however the owner moves the
cap below `cap`, while at most `most` operations of one sender and day wait at a
time the sender is sponsored at most `most` times the cap on that day, and the
log accounts for all of it. -/
theorem overrun_bounded_by_overlap (deployment : Deployment) (calls : List Call)
    (most cap : Nat) (initial : deployment.initialDailyCapWei ≤ cap)
    (overlapping : ∀ commit ∈ deployment.history calls, Overlapping most cap commit)
    (sender : Address) (day : Nat) :
    (deployment.run calls).paymaster.sponsoredToday sender day =
        sponsored ⟨sender, day⟩ (deployment.history calls) ∧
      sponsored ⟨sender, day⟩ (deployment.history calls) ≤ most * cap := by
  have bounded : Bounded most cap (deployment.run calls) (deployment.history calls) := by
    refine @run_induction _ _ _ _ exec (Bounded most cap) (Overlapping most cap)
      deployment.start ?_ ?_ calls overlapping
    · exact ⟨initial, fun _ member => absurd member List.not_mem_nil,
        fun _ => Nat.zero_le _, fun _ => rfl⟩
    · intro world past call next events before done allowed
      exact bounded_step before done allowed
  have logged := bounded.logged ⟨sender, day⟩
  have charged := bounded.charged ⟨sender, day⟩
  refine ⟨logged, ?_⟩
  rw [← logged]
  exact Nat.le_trans (Nat.le_add_right _ _) charged

/-- Two operations of one sender wait together, each nearly as large as the cap. -/
theorem overrun_bounded_by_overlap_sample :
    (∀ commit ∈ sampleDeployment.history sampleBundleCalls, Overlapping 2 100 commit) ∧
      (sampleDeployment.run sampleBundleCalls).paymaster.sponsoredToday 0xA1 1 = 160 ∧
      (sampleDeployment.run sampleBundleCalls).paymaster.sponsoredToday 0xA1 1 =
        sponsored ⟨0xA1, 1⟩ (sampleDeployment.history sampleBundleCalls) ∧
      sponsored ⟨0xA1, 1⟩ (sampleDeployment.history sampleBundleCalls) ≤ 2 * 100 :=
  ⟨by decide, by decide,
    overrun_bounded_by_overlap sampleDeployment sampleBundleCalls 2 100 (by decide) (by decide)
      0xA1 1⟩

end Dics.ClaimGasPaymaster
