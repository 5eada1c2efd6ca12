/-
The ClaimGasPaymaster and the callbacks its EntryPoint makes.

The daily cap is checked when an operation is validated and charged when its
`_postOp` runs, and a bundle validates all of its operations before the first
charge.  The world therefore keeps the validated operations that wait for
their `_postOp`, each with the most it may still cost.
-/

import Dics.Chain.Basic
import Dics.Lib.Transactions
import Dics.Lib.Words
import Mathlib.Algebra.BigOperators.Group.List.Basic

open Transactions Words

namespace Dics.ClaimGasPaymaster

structure State where
  owner : Address
  dailySponsorshipCapWei : Nat
  sponsoredToday : Address → Nat → Nat

inductive Event where
  | dailyCapUpdated (newCapWei : Nat)
  | gasSponsored (sender : Address) (actualGasCost dayBucket : Nat)
  deriving DecidableEq

inductive Error where
  | dailyCapExceeded (sender : Address) (requested alreadyUsed cap : Nat)
  | ownableUnauthorizedAccount
  | arithmeticPanic
  | noSuchCallback
  deriving DecidableEq

/-- What `_validatePaymasterUserOp` hands on to `_postOp`. -/
structure Context where
  sender : Address
  dayBucket : Nat
  deriving DecidableEq

def deployed (owner : Address) (initialDailyCapWei : Nat) : State :=
  { owner := owner
    dailySponsorshipCapWei := initialDailyCapWei
    sponsoredToday := fun _ _ => 0 }

def oneDay : Nat := 86400

def setDailySponsorshipCap (newCapWei : Nat) (sender : Address) (state : State) :
    Except Error (State × List Event) := do
  require (sender = state.owner) .ownableUnauthorizedAccount
  return ({ state with dailySponsorshipCapWei := newCapWei }, [.dailyCapUpdated newCapWei])

def validatePaymasterUserOp (sender : Address) (maxCost timestamp : Nat) (state : State) :
    Except Error Context := do
  let dayBucket := timestamp / oneDay
  let alreadyUsed := state.sponsoredToday sender dayBucket
  let requested ← orRevert .arithmeticPanic (checkedAdd alreadyUsed maxCost)
  require (requested ≤ state.dailySponsorshipCapWei)
    (.dailyCapExceeded sender maxCost alreadyUsed state.dailySponsorshipCapWei)
  return { sender := sender, dayBucket := dayBucket }

def State.charge (state : State) (context : Context) (spent : Nat) : State :=
  { state with
    sponsoredToday := Function.update state.sponsoredToday context.sender
      (Function.update (state.sponsoredToday context.sender) context.dayBucket spent) }

def postOp (context : Context) (actualGasCost : Nat) (state : State) :
    Except Error (State × List Event) := do
  let spent ← orRevert .arithmeticPanic
    (checkedAdd (state.sponsoredToday context.sender context.dayBucket) actualGasCost)
  return (state.charge context spent,
    [.gasSponsored context.sender actualGasCost context.dayBucket])

/-! ### The EntryPoint's callbacks -/

/-- A validated operation that waits for its `_postOp`. -/
structure Op where
  context : Context
  maxCost : Nat
  deriving DecidableEq

structure World where
  paymaster : State
  inFlight : List Op

inductive Call where
  | validatePaymasterUserOp (sender : Address) (maxCost timestamp : Nat)
  | postOp (op : Op) (actualGasCost : Nat)
  | setDailySponsorshipCap (sender : Address) (newCapWei : Nat)
  deriving DecidableEq

/-- One callback, or a call of the owner.  The EntryPoint calls `_postOp` once for
each validated operation, with a cost it has bounded by `maxCost`. -/
def exec (world : World) : Call → Except Error (World × List Event)
  | .validatePaymasterUserOp sender maxCost timestamp => do
      let context ← validatePaymasterUserOp sender maxCost timestamp world.paymaster
      return ({ world with inFlight := world.inFlight ++ [⟨context, maxCost⟩] }, [])
  | .postOp op actualGasCost => do
      require (op ∈ world.inFlight ∧ actualGasCost ≤ op.maxCost) .noSuchCallback
      let (paymaster, events) ← postOp op.context actualGasCost world.paymaster
      return ({ paymaster := paymaster, inFlight := world.inFlight.erase op }, events)
  | .setDailySponsorshipCap sender newCapWei => do
      let (paymaster, events) ← setDailySponsorshipCap newCapWei sender world.paymaster
      return ({ world with paymaster := paymaster }, events)

abbrev Commit := Transactions.Commit World Call (List Event)

structure Deployment where
  owner : Address
  initialDailyCapWei : Nat

def Deployment.start (deployment : Deployment) : World :=
  { paymaster := deployed deployment.owner deployment.initialDailyCapWei
    inFlight := [] }

def Deployment.run (deployment : Deployment) (calls : List Call) : World :=
  Transactions.run exec deployment.start calls

def Deployment.history (deployment : Deployment) (calls : List Call) : List Commit :=
  Transactions.history exec deployment.start calls

/-! ### Charged and reserved -/

def Op.reserves (context : Context) (op : Op) : Nat :=
  if op.context = context then op.maxCost else 0

/-- What the waiting operations of one sender and day may still cost. -/
def reserved (context : Context) (ops : List Op) : Nat :=
  (ops.map (Op.reserves context)).sum

def World.used (world : World) (context : Context) : Nat :=
  world.paymaster.sponsoredToday context.sender context.dayBucket

theorem reserved_snoc (context : Context) (ops : List Op) (op : Op) :
    reserved context (ops ++ [op]) = reserved context ops + op.reserves context := by
  simp only [reserved, List.map_append, List.sum_append, List.map_singleton,
    List.sum_singleton]

theorem reserved_erase (context : Context) {ops : List Op} {op : Op} (waits : op ∈ ops) :
    reserved context (ops.erase op) + op.reserves context = reserved context ops := by
  rw [Nat.add_comm]
  exact List.sum_map_erase (Op.reserves context) waits

/-- A validation is accepted only where the cap also has room for what the
sender's waiting operations of that day may cost. -/
def LeavesRoom (world : World) : Call → Prop
  | .validatePaymasterUserOp sender maxCost timestamp =>
      world.used ⟨sender, timestamp / oneDay⟩ +
        reserved ⟨sender, timestamp / oneDay⟩ world.inFlight + maxCost ≤
          world.paymaster.dailySponsorshipCapWei
  | _ => True

instance (world : World) (call : Call) : Decidable (LeavesRoom world call) :=
  match call with
  | .validatePaymasterUserOp _ _ _ => inferInstanceAs (Decidable (_ ≤ _))
  | .postOp _ _ => inferInstanceAs (Decidable True)
  | .setDailySponsorshipCap _ _ => inferInstanceAs (Decidable True)

/-- The cap stands still and every validation leaves room. -/
def Orderly (commit : Commit) : Prop :=
  commit.after.paymaster.dailySponsorshipCapWei =
      commit.before.paymaster.dailySponsorshipCapWei ∧
    LeavesRoom commit.before commit.call

instance (commit : Commit) : Decidable (Orderly commit) :=
  inferInstanceAs (Decidable (_ ∧ _))

def WithinCap (cap : Nat) (world : World) : Prop :=
  world.paymaster.dailySponsorshipCapWei = cap ∧
    ∀ context, world.used context + reserved context world.inFlight ≤ cap

/-! ### What a committed callback did -/

theorem validate_ok {world next : World} {events : List Event} {sender : Address}
    {maxCost timestamp : Nat}
    (done : exec world (.validatePaymasterUserOp sender maxCost timestamp) =
      .ok (next, events)) :
    next = { world with
      inFlight := world.inFlight ++ [⟨⟨sender, timestamp / oneDay⟩, maxCost⟩] } := by
  simp only [exec, validatePaymasterUserOp, bind_assoc, orRevert_bind_eq_ok,
    require_bind_eq_ok, pure_bind, pure_eq_ok] at done
  obtain ⟨_, _, _, same⟩ := done
  cases same
  rfl

theorem postOp_ok {world next : World} {events : List Event} {op : Op} {actualGasCost : Nat}
    (done : exec world (.postOp op actualGasCost) = .ok (next, events)) :
    op ∈ world.inFlight ∧ actualGasCost ≤ op.maxCost ∧
      next = { paymaster := world.paymaster.charge op.context
                (world.used op.context + actualGasCost)
               inFlight := world.inFlight.erase op } := by
  simp only [exec, postOp, bind_assoc, orRevert_bind_eq_ok, require_bind_eq_ok, pure_bind,
    pure_eq_ok, checkedAdd_eq_some] at done
  obtain ⟨⟨waits, bounded⟩, _, ⟨_, rfl⟩, same⟩ := done
  cases same
  exact ⟨waits, bounded, rfl⟩

theorem setDailySponsorshipCap_ok {world next : World} {events : List Event}
    {sender : Address} {newCapWei : Nat}
    (done : exec world (.setDailySponsorshipCap sender newCapWei) = .ok (next, events)) :
    next.inFlight = world.inFlight ∧ ∀ context, next.used context = world.used context := by
  simp only [exec, setDailySponsorshipCap, bind_assoc, require_bind_eq_ok, pure_bind,
    pure_eq_ok] at done
  obtain ⟨_, same⟩ := done
  cases same
  exact ⟨rfl, fun _ => rfl⟩

theorem used_charge (world : World) (inFlight : List Op) (charged context : Context)
    (spent : Nat) :
    World.used ⟨world.paymaster.charge charged spent, inFlight⟩ context =
      if context = charged then spent else world.used context := by
  simp only [World.used, State.charge]
  by_cases sameSender : context.sender = charged.sender
  · rw [sameSender, Function.update_self]
    by_cases sameDay : context.dayBucket = charged.dayBucket
    · have same : context = charged := by
        cases context
        cases charged
        cases sameSender
        cases sameDay
        rfl
      rw [sameDay, Function.update_self, if_pos same]
    · rw [Function.update_of_ne sameDay, if_neg (fun same => sameDay (congrArg _ same))]
  · rw [Function.update_of_ne sameSender, if_neg (fun same => sameSender (congrArg _ same))]

theorem withinCap_step {cap : Nat} {world next : World} {call : Call} {events : List Event}
    (before : WithinCap cap world) (done : exec world call = .ok (next, events))
    (orderly : Orderly ⟨world, call, events, next⟩) : WithinCap cap next := by
  refine ⟨orderly.1.trans before.1, ?_⟩
  intro context
  have bound := before.2 context
  cases call with
  | validatePaymasterUserOp sender maxCost timestamp =>
      rw [validate_ok done, reserved_snoc]
      change world.used context + _ ≤ cap
      unfold Op.reserves
      by_cases same : (⟨sender, timestamp / oneDay⟩ : Context) = context
      · subst same
        have room : world.used ⟨sender, timestamp / oneDay⟩ +
            reserved ⟨sender, timestamp / oneDay⟩ world.inFlight + maxCost ≤
              world.paymaster.dailySponsorshipCapWei := orderly.2
        rw [before.1, Nat.add_assoc] at room
        rw [if_pos rfl]
        exact room
      · rw [if_neg same]
        omega
  | postOp op actualGasCost =>
      obtain ⟨waits, bounded, rfl⟩ := postOp_ok done
      have released := reserved_erase context waits
      rw [used_charge]
      unfold Op.reserves at released
      by_cases same : context = op.context
      · subst same
        rw [if_pos rfl] at released ⊢
        change world.used op.context + actualGasCost +
          reserved op.context (world.inFlight.erase op) ≤ cap
        omega
      · rw [if_neg (Ne.symm same)] at released
        rw [if_neg same]
        change world.used context + reserved context (world.inFlight.erase op) ≤ cap
        omega
  | setDailySponsorshipCap sender newCapWei =>
      obtain ⟨inFlight, used⟩ := setDailySponsorshipCap_ok done
      rw [inFlight, used]
      exact bound

/-- While the cap stands still and every accepted validation leaves room for the
waiting operations, no sender is ever sponsored beyond the cap on any day. -/
theorem sponsored_within_cap (deployment : Deployment) (calls : List Call)
    (orderly : ∀ commit ∈ deployment.history calls, Orderly commit)
    (sender : Address) (day : Nat) :
    (deployment.run calls).paymaster.sponsoredToday sender day ≤
      deployment.initialDailyCapWei := by
  have initial : WithinCap deployment.initialDailyCapWei deployment.start :=
    ⟨rfl, fun _ => Nat.zero_le _⟩
  have invariant : WithinCap deployment.initialDailyCapWei (deployment.run calls) := by
    refine @run_induction _ _ _ _ exec
      (fun world _ => WithinCap deployment.initialDailyCapWei world) Orderly
      deployment.start initial ?_ calls orderly
    intro world past call next events before done allowed
    exact withinCap_step before done allowed
  exact Nat.le_trans (Nat.le_add_right _ _) (invariant.2 ⟨sender, day⟩)

def sampleDeployment : Deployment where
  owner := 0xAD
  initialDailyCapWei := 100

def sampleOp : Op := ⟨⟨0xA1, 1⟩, 80⟩

/-- One operation is settled before the next one is validated. -/
def sampleSequentialCalls : List Call :=
  [.validatePaymasterUserOp 0xA1 80 90000,
   .postOp sampleOp 50,
   .validatePaymasterUserOp 0xA1 50 90000,
   .postOp ⟨⟨0xA1, 1⟩, 50⟩ 50]

theorem sponsored_within_cap_sample :
    (∀ commit ∈ sampleDeployment.history sampleSequentialCalls, Orderly commit) ∧
      (sampleDeployment.run sampleSequentialCalls).paymaster.sponsoredToday 0xA1 1 = 100 ∧
      (sampleDeployment.run sampleSequentialCalls).paymaster.sponsoredToday 0xA1 1 ≤ 100 :=
  ⟨by decide, by decide,
    sponsored_within_cap sampleDeployment sampleSequentialCalls (by decide) 0xA1 1⟩

/-- Two operations of one sender in one bundle: both are validated, then both are
charged. -/
def sampleBundleCalls : List Call :=
  [.validatePaymasterUserOp 0xA1 80 90000,
   .validatePaymasterUserOp 0xA1 80 90000,
   .postOp sampleOp 80,
   .postOp sampleOp 80]

theorem bundled_operations_exceed_cap :
    (∀ commit ∈ sampleDeployment.history sampleBundleCalls,
      commit.after.paymaster.dailySponsorshipCapWei = 100) ∧
    (sampleDeployment.history sampleBundleCalls).length = 4 ∧
    ¬(sampleDeployment.run sampleBundleCalls).paymaster.sponsoredToday 0xA1 1 ≤
      (sampleDeployment.run sampleBundleCalls).paymaster.dailySponsorshipCapWei := by
  decide

end Dics.ClaimGasPaymaster
