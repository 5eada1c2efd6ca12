/-
Whole runs of the scheduler.

Polls alternate with transactions of the InsurancePolicy contract, and reads and
sends fail wherever they like.  For one policy a run is a sequence of sightings
of its paid-until date, which never falls; the map turns them into reminders that
are sent once.  The zero value of the map is also the date of a policy that was
never paid.
-/

import Dics.Notifications.Scheduler
import Dics.Lib.Scripts

open Transactions Reminders Scripts

namespace Dics.Notifications

open InsurancePolicy (World Call Deployment isPremiumCurrent)

/-! ### Runs -/

inductive Move where
  | call (call : Call)
  | poll (poll : Poll)

structure System where
  world : World
  scheduler : Scheduler

/-- A transaction that reverts changes nothing. -/
def worldStep (deployment : Deployment) (world : World) : Move → World
  | .call call =>
      match InsurancePolicy.exec deployment.self world call with
      | .ok (next, _) => next
      | .error _ => world
  | .poll _ => world

def step (deployment : Deployment) (warningWindow : Int) (system : System) (move : Move) :
    System where
  world := worldStep deployment system.world move
  scheduler :=
    match move with
    | .call _ => system.scheduler
    | .poll poll => checkOnce warningWindow system.world.policy poll system.scheduler

def start (deployment : Deployment) : System where
  world := deployment.start
  scheduler := { lastNotified := fun _ => 0, sent := [] }

def run (deployment : Deployment) (warningWindow : Int) (moves : List Move) : System :=
  moves.foldl (step deployment warningWindow) (start deployment)

def worldAfter (deployment : Deployment) (moves : List Move) : World :=
  moves.foldl (worldStep deployment) deployment.start

/-- The paid-until dates a policy was warned about, in order. -/
def Scheduler.warnings (scheduler : Scheduler) (policyId : Nat) : List Int :=
  (scheduler.sent.filter fun warning => warning.policyId = policyId).map
    PremiumWarning.paidUntil

/-- The poll reads the policy as not current, paid until the given date. -/
structure ReadsLapsed (poll : Poll) (state : InsurancePolicy.State) (policyId paidUntil : Nat) :
    Prop where
  listed : ∃ policies, poll.activePolicies = some policies ∧
    ∃ policy ∈ policies, policy.policyId = policyId
  answered : poll.answers policyId = true
  lapsed : isPremiumCurrent state poll.blockTimestamp policyId = some false
  paidUntil : state.premiumPaidUntil policyId = paidUntil

/-! ### Sightings -/

def Poll.listed (poll : Poll) (policyId : Nat) : List ActivePolicy :=
  (poll.activePolicies.getD []).filter fun policy => policy.policyId = policyId

/-- What a check of the policy hands to the map, if anything. -/
def Poll.sighting (poll : Poll) (warningWindow : Int) (state : InsurancePolicy.State)
    (policyId : Nat) : List (Sighting Int) :=
  match poll.status state policyId with
  | none => []
  | some status =>
      if status.current = true ∨ ¬(status.paidUntil * second - warningWindow < poll.now) then []
      else [{ value := status.paidUntil, delivered := poll.accepts policyId }]

def Poll.sightings (poll : Poll) (warningWindow : Int) (state : InsurancePolicy.State)
    (policyId : Nat) : List (Sighting Int) :=
  (poll.listed policyId).flatMap fun _ => poll.sighting warningWindow state policyId

def Move.sightings (warningWindow : Int) (state : InsurancePolicy.State) (policyId : Nat) :
    Move → List (Sighting Int)
  | .call _ => []
  | .poll made => made.sightings warningWindow state policyId

def sightings (deployment : Deployment) (warningWindow : Int) (policyId : Nat) :
    List Move → World → List (Sighting Int)
  | [], _ => []
  | move :: rest, world =>
      move.sightings warningWindow world.policy policyId ++
        sightings deployment warningWindow policyId rest (worldStep deployment world move)

/-- The scheduler's memory of a policy after the given sightings. -/
structure Tracks (policyId : Nat) (past : List (Sighting Int)) (scheduler : Scheduler) : Prop where
  warnings : scheduler.warnings policyId = remind 0 past
  last : scheduler.lastNotified policyId = lastReminded 0 past

section Tracking

variable {warningWindow : Int} {state : InsurancePolicy.State} {poll : Poll} {policyId : Nat}
  {past : List (Sighting Int)} {scheduler : Scheduler}

theorem tracks_checkPolicy_other {policy : ActivePolicy} (other : policy.policyId ≠ policyId)
    (tracks : Tracks policyId past scheduler) :
    Tracks policyId past (checkPolicy warningWindow state poll scheduler policy) := by
  unfold checkPolicy
  split
  · exact tracks
  · split
    · split
      · constructor
        · rw [← tracks.warnings]
          simp [Scheduler.warnings, other]
        · rw [← tracks.last]
          exact Function.update_of_ne (Ne.symm other) _ _
      · exact tracks
    · exact tracks

theorem tracks_checkPolicy_own {policy : ActivePolicy} (own : policy.policyId = policyId)
    (tracks : Tracks policyId past scheduler) :
    Tracks policyId (past ++ poll.sighting warningWindow state policyId)
      (checkPolicy warningWindow state poll scheduler policy) := by
  subst own
  unfold Poll.sighting
  cases read : poll.status state policy.policyId with
  | none =>
      rw [List.append_nil, checkPolicy_unread read]
      exact tracks
  | some status =>
      dsimp only
      by_cases quiet : status.current = true ∨
          ¬(status.paidUntil * second - warningWindow < poll.now)
      · rw [if_pos quiet, List.append_nil,
          checkPolicy_kept read fun notified => (shouldNotify_iff.mp notified.1).1 quiet]
        exact tracks
      · rw [if_neg quiet]
        by_cases sends : status.paidUntil ≠ lastReminded 0 past ∧
            poll.accepts policy.policyId = true
        · have unsent : status.paidUntil ≠ scheduler.lastNotified policy.policyId := by
            rw [tracks.last]
            exact sends.1
          rw [checkPolicy_sent read (shouldNotify_iff.mpr ⟨quiet, unsent⟩) sends.2]
          constructor
          · rw [remind_append, remind_sent sends, ← tracks.warnings]
            simp [Scheduler.warnings]
          · rw [lastReminded_append, lastReminded_sent sends]
            exact Function.update_self _ _ _
        · have kept := @checkPolicy_kept warningWindow state poll scheduler policy _ read (by
            rw [shouldNotify_iff, tracks.last]
            exact fun notified => sends ⟨notified.1.2, notified.2⟩)
          rw [kept]
          constructor
          · rw [remind_append, remind_kept sends, List.append_nil]
            exact tracks.warnings
          · rw [lastReminded_append, lastReminded_kept sends]
            exact tracks.last

theorem tracks_foldl_checkPolicy (policies : List ActivePolicy)
    (tracks : Tracks policyId past scheduler) :
    Tracks policyId
      (past ++ (policies.filter fun policy => policy.policyId = policyId).flatMap
        fun _ => poll.sighting warningWindow state policyId)
      (policies.foldl (checkPolicy warningWindow state poll) scheduler) := by
  induction policies generalizing past scheduler with
  | nil =>
      rw [List.filter_nil, List.flatMap_nil, List.append_nil]
      exact tracks
  | cons policy rest ih =>
      rw [List.foldl_cons]
      by_cases own : policy.policyId = policyId
      · have kept : (policy :: rest).filter (fun policy => decide (policy.policyId = policyId)) =
            policy :: rest.filter (fun policy => decide (policy.policyId = policyId)) :=
          List.filter_cons_of_pos (decide_eq_true own)
        rw [kept, List.flatMap_cons, ← List.append_assoc]
        exact ih (tracks_checkPolicy_own own tracks)
      · have dropped : (policy :: rest).filter (fun policy => decide (policy.policyId = policyId)) =
            rest.filter (fun policy => decide (policy.policyId = policyId)) :=
          List.filter_cons_of_neg (fun same => own (of_decide_eq_true same))
        rw [dropped]
        exact ih (tracks_checkPolicy_other own tracks)

theorem tracks_checkOnce (tracks : Tracks policyId past scheduler) :
    Tracks policyId (past ++ poll.sightings warningWindow state policyId)
      (checkOnce warningWindow state poll scheduler) := by
  unfold checkOnce Poll.sightings Poll.listed
  cases poll.activePolicies with
  | none =>
      rw [Option.getD_none, List.filter_nil, List.flatMap_nil, List.append_nil]
      exact tracks
  | some policies => exact tracks_foldl_checkPolicy policies tracks

end Tracking

section Runs

variable {deployment : Deployment} {warningWindow : Int} {policyId : Nat}

theorem tracks_foldl_step (moves : List Move) {past : List (Sighting Int)} {system : System}
    (tracks : Tracks policyId past system.scheduler) :
    Tracks policyId (past ++ sightings deployment warningWindow policyId moves system.world)
      (moves.foldl (step deployment warningWindow) system).scheduler := by
  induction moves generalizing past system with
  | nil =>
      rw [sightings, List.append_nil]
      exact tracks
  | cons move rest ih =>
      rw [sightings, ← List.append_assoc, List.foldl_cons]
      refine @ih _ (step deployment warningWindow system move) ?_
      cases move with
      | call call =>
          rw [Move.sightings, List.append_nil]
          exact tracks
      | poll poll => exact tracks_checkOnce tracks

/-- The warnings of a policy are the reminders of its sightings. -/
theorem warnings_run (moves : List Move) :
    (run deployment warningWindow moves).scheduler.warnings policyId =
      remind 0 (sightings deployment warningWindow policyId moves deployment.start) :=
  (@tracks_foldl_step deployment warningWindow policyId moves [] (start deployment)
    ⟨rfl, rfl⟩).warnings

theorem int64_of_lt {value : Nat} (small : value < 2 ^ 63) : int64 value = value := by
  have whole : (BitVec.ofNat 64 value).toNat = value := by
    rw [BitVec.toNat_ofNat]
    exact Nat.mod_eq_of_lt (by omega)
  unfold int64
  rw [BitVec.toInt_eq_toNat_of_lt, whole]
  rw [whole]
  omega

theorem lt_of_lapsed {state : InsurancePolicy.State} {blockTimestamp : Nat}
    (lapsed : isPremiumCurrent state blockTimestamp policyId = some false) :
    state.premiumPaidUntil policyId < blockTimestamp := by
  by_contra paid
  have current := current_of_paid (Nat.le_of_not_lt paid) lapsed
  cases current

theorem paidUntil_le_worldStep (world : World) (move : Move) :
    world.policy.premiumPaidUntil policyId ≤
      (worldStep deployment world move).policy.premiumPaidUntil policyId := by
  cases move with
  | poll poll => exact Nat.le_refl _
  | call call =>
      unfold worldStep
      dsimp only
      split
      · rename_i next receipt done
        rcases InsurancePolicy.paid_or_unpaid done policyId with ⟨_, paid⟩ | ⟨_, same⟩
        · have finish := paid.paidUntil
          change next.policy.premiumPaidUntil policyId =
            max (world.policy.premiumPaidUntil policyId) call.msg.timestamp + _ at finish
          omega
        · rw [same]
      · exact Nat.le_refl _

theorem mem_sighting {state : InsurancePolicy.State} {poll : Poll} {sighting : Sighting Int}
    (member : sighting ∈ poll.sighting warningWindow state policyId) :
    poll.answers policyId = true ∧
      isPremiumCurrent state poll.blockTimestamp policyId = some false ∧
      sighting = { value := (state.premiumPaidUntil policyId : Int)
                   delivered := poll.accepts policyId } := by
  unfold Poll.sighting at member
  cases read : poll.status state policyId with
  | none =>
      rw [read] at member
      cases member
  | some status =>
      rw [read] at member
      dsimp only at member
      split at member
      · cases member
      · rename_i shown
        have lapsed := (not_or.mp shown).1
        rw [List.mem_singleton.mp member]
        unfold Poll.status at read
        split at read
        · rename_i answers
          obtain ⟨current, reported, same⟩ := Option.bind_eq_some_iff.mp read
          cases same
          rw [Bool.not_eq_true] at lapsed
          dsimp only at lapsed
          rw [lapsed] at reported
          have small := Nat.lt_trans (lt_of_lapsed reported) poll.inRange
          refine ⟨answers, reported, ?_⟩
          dsimp only
          rw [int64_of_lt small]
        · cases read

theorem sighting_of_lapsed {state : InsurancePolicy.State} {poll : Poll}
    (answers : poll.answers policyId = true)
    (lapsed : isPremiumCurrent state poll.blockTimestamp policyId = some false)
    (opened : (state.premiumPaidUntil policyId : Int) * second - warningWindow < poll.now) :
    { value := (state.premiumPaidUntil policyId : Int), delivered := poll.accepts policyId } ∈
      poll.sighting warningWindow state policyId := by
  have small := Nat.lt_trans (lt_of_lapsed lapsed) poll.inRange
  have read : poll.status state policyId =
      some
        { policyId, current := false, paidUntil := (state.premiumPaidUntil policyId : Int) } := by
    unfold Poll.status getPremiumStatus
    rw [if_pos answers, lapsed, int64_of_lt small]
    rfl
  unfold Poll.sighting
  rw [read]
  dsimp only
  rw [if_neg (not_or.mpr ⟨Bool.false_ne_true, not_not.mpr opened⟩)]
  exact List.mem_singleton_self _

theorem mem_pollSightings {state : InsurancePolicy.State} {poll : Poll}
    {sighting : Sighting Int} :
    sighting ∈ poll.sightings warningWindow state policyId ↔
      (∃ policies, poll.activePolicies = some policies ∧
        ∃ policy ∈ policies, policy.policyId = policyId) ∧
      sighting ∈ poll.sighting warningWindow state policyId := by
  unfold Poll.sightings Poll.listed
  rw [List.mem_flatMap]
  cases listed : poll.activePolicies with
  | none => simp
  | some policies =>
      simp only [Option.getD_some, List.mem_filter, decide_eq_true_eq, Option.some.injEq,
        exists_eq_left']
      constructor
      · rintro ⟨policy, here, seen⟩
        exact ⟨⟨policy, here⟩, seen⟩
      · rintro ⟨⟨policy, here⟩, seen⟩
        exact ⟨policy, here, seen⟩

/-- The dates a policy is sighted with never fall. -/
theorem rising_sightings (moves : List Move) (world : World) :
    Rising (world.policy.premiumPaidUntil policyId : Int)
      (sightings deployment warningWindow policyId moves world) := by
  induction moves generalizing world with
  | nil => exact trivial
  | cons move rest ih =>
      have later := (ih (worldStep deployment world move)).lower
        (Int.ofNat_le.mpr (paidUntil_le_worldStep world move))
      have here : ∀ sighting ∈ move.sightings warningWindow world.policy policyId,
          sighting.value = world.policy.premiumPaidUntil policyId := by
        intro sighting member
        cases move with
        | call call => cases member
        | poll poll =>
            obtain ⟨_, seen⟩ := mem_pollSightings.mp member
            rw [(mem_sighting seen).2.2]
      apply Rising.append ?_ ?_ (le_refl _) later
      · exact rising_of_eq here
      · intro sighting member
        exact le_of_eq (here sighting member)

theorem mem_sightings {moves : List Move} {world : World} {sighting : Sighting Int} :
    sighting ∈ sightings deployment warningWindow policyId moves world ↔
      ∃ before poll after, moves = before ++ .poll poll :: after ∧
        sighting ∈ poll.sightings warningWindow
          (before.foldl (worldStep deployment) world).policy policyId := by
  induction moves generalizing world with
  | nil =>
      refine iff_of_false List.not_mem_nil ?_
      rintro ⟨before, poll, after, split, _⟩
      exact List.append_ne_nil_of_right_ne_nil before (List.cons_ne_nil _ _) split.symm
  | cons move rest ih =>
      rw [sightings, List.mem_append, ih]
      constructor
      · rintro (here | ⟨before, poll, after, split, seen⟩)
        · cases move with
          | call call => cases here
          | poll poll => exact ⟨[], poll, rest, rfl, here⟩
        · exact ⟨move :: before, poll, after, by rw [split, List.cons_append], seen⟩
      · rintro ⟨before, poll, after, split, seen⟩
        cases before with
        | nil =>
            cases split
            exact Or.inl seen
        | cons first before =>
            cases split
            exact Or.inr ⟨before, poll, after, rfl, seen⟩

end Runs

/-! ### Exactly one warning -/

/-- Some poll reads the policy as not current, paid until the given date, while
the webhook works. -/
def Deliverable (deployment : Deployment) (moves : List Move) (policyId paidUntil : Nat) : Prop :=
  ∃ before poll after, moves = before ++ .poll poll :: after ∧
    ReadsLapsed poll (worldAfter deployment before).policy policyId paidUntil ∧
    poll.accepts policyId = true

/-- No policy that was never paid is read as not current, and a lapse is not read
before the warning window of the service's own clock. -/
def Regular (warningWindow : Int) (world : World) : Move → Prop
  | .call _ => True
  | .poll poll => ∀ policyId paidUntil, ReadsLapsed poll world.policy policyId paidUntil →
      paidUntil ≠ 0 ∧ (paidUntil : Int) * second - warningWindow < poll.now

/-- The poll as if no other policy were active. -/
def Poll.only (poll : Poll) (policyId : Nat) : Poll :=
  { poll with activePolicies := some (poll.listed policyId) }

def Move.only (policyId : Nat) : Move → Move
  | .call made => .call made
  | .poll made => .poll (made.only policyId)

/-- Each date is warned about exactly once if it can be, and not at all
otherwise; a policy that is never read as not current gets no warning; and the
warnings of a policy are those of the run in which it is the only one. -/
structure WarnsOnce (deployment : Deployment) (warningWindow : Int) (moves : List Move) :
    Prop where
  once : ∀ policyId paidUntil, Deliverable deployment moves policyId paidUntil →
    ((run deployment warningWindow moves).scheduler.warnings policyId).count
      (paidUntil : Int) = 1
  otherwise : ∀ policyId paidUntil, ¬Deliverable deployment moves policyId paidUntil →
    (paidUntil : Int) ∉ (run deployment warningWindow moves).scheduler.warnings policyId
  current : ∀ policyId, (∀ before poll after, moves = before ++ .poll poll :: after →
      ∀ paidUntil, ¬ReadsLapsed poll (worldAfter deployment before).policy policyId paidUntil) →
    (run deployment warningWindow moves).scheduler.warnings policyId = []
  independent : ∀ policyId,
    (run deployment warningWindow moves).scheduler.warnings policyId =
      (run deployment warningWindow (moves.map (Move.only policyId))).scheduler.warnings policyId

section Once

variable {deployment : Deployment} {warningWindow : Int} {moves : List Move} {policyId : Nat}

theorem sightings_only (moves : List Move) (world : World) :
    sightings deployment warningWindow policyId (moves.map (Move.only policyId)) world =
      sightings deployment warningWindow policyId moves world := by
  induction moves generalizing world with
  | nil => rfl
  | cons move rest ih =>
      rw [List.map_cons, sightings, sightings]
      cases move with
      | call call => exact congrArg _ (ih _)
      | poll poll =>
          have same : (poll.only policyId).listed policyId = poll.listed policyId := by
            unfold Poll.only
            rw [Poll.listed, Option.getD_some, Poll.listed, List.filter_filter]
            simp only [Bool.and_self]
          have here : Move.sightings warningWindow world.policy policyId
              (Move.only policyId (.poll poll)) =
                Move.sightings warningWindow world.policy policyId (.poll poll) := by
            change (((poll.only policyId).listed policyId).flatMap fun _ =>
              poll.sighting warningWindow world.policy policyId) = _
            rw [same]
            rfl
          rw [here]
          exact congrArg _ (ih _)

/-- What is sighted while the webhook works was read from the chain. -/
theorem deliverable_of_sighting {sighting : Sighting Int}
    (seen : sighting ∈ sightings deployment warningWindow policyId moves deployment.start) :
    ∃ before poll after paidUntil, moves = before ++ .poll poll :: after ∧
      ReadsLapsed poll (worldAfter deployment before).policy policyId paidUntil ∧
      sighting = { value := (paidUntil : Int), delivered := poll.accepts policyId } := by
  obtain ⟨before, poll, after, split, here⟩ := mem_sightings.mp seen
  obtain ⟨listed, sighted⟩ := mem_pollSightings.mp here
  obtain ⟨answered, lapsed, same⟩ := mem_sighting sighted
  exact ⟨before, poll, after, _, split, ⟨listed, answered, lapsed, rfl⟩, same⟩

theorem rising_start (moves : List Move) :
    Rising 0 (sightings deployment warningWindow policyId moves deployment.start) :=
  rising_sightings moves deployment.start

theorem mem_warnings {paidUntil : Nat}
    (regular : Along (Regular warningWindow) (worldStep deployment) moves deployment.start) :
    (paidUntil : Int) ∈ (run deployment warningWindow moves).scheduler.warnings policyId ↔
      Deliverable deployment moves policyId paidUntil := by
  rw [warnings_run, mem_remind (rising_start moves)]
  constructor
  · rintro ⟨_, sighting, seen, value, delivered⟩
    obtain ⟨before, poll, after, read, split, reads, same⟩ := deliverable_of_sighting seen
    rw [same] at value delivered
    rw [Int.ofNat_inj.mp value] at reads
    exact ⟨before, poll, after, split, reads, delivered⟩
  · rintro ⟨before, poll, after, split, reads, accepts⟩
    obtain ⟨paid, opened⟩ := (along_iff_split moves deployment.start).mp regular before _ after
      split policyId paidUntil reads
    refine ⟨Int.ofNat_ne_zero.mpr paid,
      { value := (paidUntil : Int), delivered := poll.accepts policyId }, ?_, rfl, accepts⟩
    refine mem_sightings.mpr ⟨before, poll, after, split, mem_pollSightings.mpr
      ⟨reads.listed, ?_⟩⟩
    rw [← reads.paidUntil] at opened ⊢
    exact sighting_of_lapsed reads.answered reads.lapsed opened

end Once

/-- In every run whose polls all meet the condition, each lapse is warned about
exactly once. -/
theorem lapses_warned_once (deployment : Deployment) (warningWindow : Int) (moves : List Move)
    (regular : Along (Regular warningWindow) (worldStep deployment) moves deployment.start) :
    WarnsOnce deployment warningWindow moves where
  once := by
    intro policyId paidUntil deliverable
    have unique : ((run deployment warningWindow moves).scheduler.warnings policyId).Nodup := by
      rw [warnings_run]
      exact nodup_remind (rising_start moves)
    exact List.count_eq_one_of_mem unique ((mem_warnings regular).mpr deliverable)
  otherwise := by
    intro policyId paidUntil undeliverable warned
    exact undeliverable ((mem_warnings regular).mp warned)
  current := by
    intro policyId current
    have nothing : sightings deployment warningWindow policyId moves deployment.start = [] := by
      apply List.eq_nil_iff_forall_not_mem.mpr
      intro sighting seen
      obtain ⟨before, poll, after, paidUntil, split, reads, _⟩ := deliverable_of_sighting seen
      exact current before poll after split paidUntil reads
    rw [warnings_run, nothing]
    rfl
  independent := by
    intro policyId
    rw [warnings_run, warnings_run, sightings_only]

section Sample

open InsurancePolicy (sampleDeployment sampleCall sampleCalls)

/-- A poll at the given second, with one active policy. -/
def pollAt (time : Fin 1000) (policyId : Nat) (accepts : Bool) : Poll where
  blockTimestamp := time
  inRange := by omega
  now := time * second
  activePolicies := some [{ policyId, holderAddress := 0xA1 }]
  answers _ := true
  accepts _ := accepts

theorem regular_pollAt {world : World} {time : Fin 1000} {policyId : Nat} {accepts : Bool}
    {warningWindow : Int} (paid : world.policy.premiumPaidUntil policyId ≠ 0)
    (opened : (world.policy.premiumPaidUntil policyId : Int) * second - warningWindow <
      time * second) :
    Regular warningWindow world (.poll (pollAt time policyId accepts)) := by
  intro read paidUntil reads
  obtain ⟨policies, listed, policy, member, same⟩ := reads.listed
  cases listed
  rw [List.mem_singleton.mp member] at same
  rw [← reads.paidUntil, ← same]
  exact ⟨paid, opened⟩

/-- Policy `2` is paid until `40`, with `50` seconds of grace; the webhook is down
at the first poll. -/
def lapsedMoves : List Move :=
  sampleCalls.map .call ++ [.poll (pollAt 100 2 false), .poll (pollAt 110 2 true),
    .poll (pollAt 120 2 true)]

theorem lapses_warned_once_sample :
    WarnsOnce sampleDeployment (3 * second) lapsedMoves ∧
      (run sampleDeployment (3 * second) lapsedMoves).scheduler.warnings 2 = [40] := by
  refine ⟨lapses_warned_once sampleDeployment (3 * second) lapsedMoves ?_, by decide⟩
  refine (along_append _ _ _).mpr ⟨along_of_forall ?_ _, ?_⟩
  · intro move member world
    obtain ⟨call, _, rfl⟩ := List.mem_map.mp member
    exact trivial
  · exact ⟨regular_pollAt (by decide) (by decide), regular_pollAt (by decide) (by decide),
      regular_pollAt (by decide) (by decide), trivial⟩

/-- Policy `1` is billed and was never paid. -/
def unpaidMoves : List Move :=
  [.call (sampleCall 0xAD (.changeRole (.grantRole .policyManager 0xE1))),
   .call (sampleCall 0xE1 (.registerPolicy 1 0xB1 0 1000 900 0)),
   .call (sampleCall 0xE1 (.setPremiumTerms 1 10 30)),
   .poll (pollAt 100 1 true)]

/-- It is read as not current while the webhook works, and gets no warning. -/
theorem unpaid_policy_never_warned :
    Deliverable sampleDeployment unpaidMoves 1 0 ∧
      (run sampleDeployment (3 * second) unpaidMoves).scheduler.warnings 1 = [] ∧
      ¬WarnsOnce sampleDeployment (3 * second) unpaidMoves := by
  have deliverable : Deliverable sampleDeployment unpaidMoves 1 0 :=
    ⟨unpaidMoves.take 3, pollAt 100 1 true, [], rfl,
      ⟨⟨_, rfl, _, List.mem_singleton_self _, rfl⟩, rfl, by decide, by decide⟩, rfl⟩
  have silent : (run sampleDeployment (3 * second) unpaidMoves).scheduler.warnings 1 = [] := by
    decide
  refine ⟨deliverable, silent, ?_⟩
  intro warns
  have one := warns.once 1 0 deliverable
  rw [silent] at one
  cases one

end Sample

end Dics.Notifications
