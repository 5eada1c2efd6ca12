/-
Whom warnings reach.

As long as the indexer loses no write, its rows and the logs it has not handled
together tell which policies exist and which are revoked.  Once it has caught up
a policy is warned as soon as it is due, and a revoked policy is never warned
again.
-/

import Dics.Indexer.Rescans
import Dics.Notifications.Pipeline

open Transactions Scripts

namespace Dics.Notifications.Pipeline

open Indexer (Log Tables Faults Settled Parsed WritesBoth parseLog mirror dispatch)
open InsurancePolicy (World Call Deployment State)

/-! ### What holds as long as no write is lost -/

/-- The declared logs that the indexer has not handled. -/
def unsettled (indexer : Indexer.State) (logs : List Log) : List Log :=
  logs.filter fun log =>
    parseLog .insurancePolicy log.emitted ≠ none ∧ indexer.events log.key = none

theorem unsettled_append (indexer : Indexer.State) (first second : List Log) :
    unsettled indexer (first ++ second) = unsettled indexer first ++ unsettled indexer second :=
  List.filter_append ..

theorem unsettled_eq_nil_iff {indexer : Indexer.State} {logs : List Log} :
    unsettled indexer logs = [] ↔ ∀ log ∈ logs, Settled indexer .insurancePolicy log := by
  unfold unsettled Settled
  rw [List.filter_eq_nil_iff]
  constructor
  · intro none log member declared new
    exact none log member (decide_eq_true ⟨declared, new⟩)
  · intro settled log member chosen
    obtain ⟨declared, new⟩ := of_decide_eq_true chosen
    exact settled log member declared new

/-- The indexer stored events of these logs only, and with those that are left
the rows tell the truth. -/
structure Follows (state : State) (logs : List Log) (indexer : Indexer.State) : Prop where
  recorded : ∀ key, indexer.events key ≠ none → key ∈ logs.map Log.key
  rows : RowsTell state
    ((unsettled indexer logs).foldl (mirror .insurancePolicy) indexer.tables).policies

section Follows

variable {config : Indexer.Config} {faults : Faults} {state : State} {indexer : Indexer.State}

/-- Handling the first log that is left leaves the others. -/
theorem Follows.mirrored {before after : List Log} {log : Log} {event : Parsed}
    (follows : Follows state (before ++ log :: after) indexer)
    (identified : ((before ++ log :: after).map Log.key).Nodup)
    (settled : ∀ earlier ∈ before, Settled indexer .insurancePolicy earlier)
    (parsed : parseLog .insurancePolicy log.emitted = some event)
    (new : indexer.events log.key = none) :
    Follows state (before ++ log :: after) (indexer.mirrored .insurancePolicy log event) := by
  have present : (indexer.mirrored .insurancePolicy log event).events log.key ≠ none :=
    Indexer.marked_mirrored.mpr (Or.inr rfl)
  constructor
  case recorded =>
    intro key seen
    by_cases here : key = log.key
    · rw [here]
      exact List.mem_map_of_mem (List.mem_append_right _ List.mem_cons_self)
    · apply follows.recorded key
      simpa only [Indexer.State.mirrored, Indexer.State.recorded,
        Function.update_of_ne here] using seen
  case rows =>
    have left : unsettled indexer (before ++ log :: after) = log :: unsettled indexer after := by
      rw [unsettled_append, unsettled_eq_nil_iff.mpr settled, List.nil_append]
      apply List.filter_cons_of_pos
      exact decide_eq_true ⟨by rw [parsed]; exact Option.some_ne_none event, new⟩
    have rest : unsettled (indexer.mirrored .insurancePolicy log event)
        (before ++ log :: after) = unsettled indexer after := by
      have earlier : ∀ other ∈ before,
          Settled (indexer.mirrored .insurancePolicy log event) .insurancePolicy other := by
        intro other member declared
        exact Indexer.marked_mirrored.mpr (Or.inl (settled other member declared))
      rw [unsettled_append, unsettled_eq_nil_iff.mpr earlier, List.nil_append, unsettled,
        List.filter_cons_of_neg]
      · apply List.filter_congr
        intro other member
        have apart : other.key ≠ log.key := by
          intro same
          rw [List.map_append, List.map_cons] at identified
          have distinct := (List.nodup_cons.mp identified.of_append_right).1
          rw [← same] at distinct
          exact distinct (List.mem_map_of_mem member)
        simp only [Indexer.State.mirrored, Indexer.State.recorded, Function.update_of_ne apart]
      · intro chosen
        exact present (of_decide_eq_true chosen).2
    have told := follows.rows
    rw [left, List.foldl_cons, mirror, parsed] at told
    rw [rest]
    exact told

theorem Follows.dispatch {before after : List Log} {log : Log}
    (follows : Follows state (before ++ log :: after) indexer)
    (identified : ((before ++ log :: after).map Log.key).Nodup)
    (settled : ∀ earlier ∈ before, Settled indexer .insurancePolicy earlier)
    (atomic : ∀ event, parseLog .insurancePolicy log.emitted = some event →
      WritesBoth faults log event) :
    Follows state (before ++ log :: after)
        (Indexer.dispatch config faults .insurancePolicy log indexer).state ∧
      (∀ earlier ∈ before, Settled
        (Indexer.dispatch config faults .insurancePolicy log indexer).state .insurancePolicy
          earlier) ∧
      ((Indexer.dispatch config faults .insurancePolicy log indexer).Completed →
        Settled (Indexer.dispatch config faults .insurancePolicy log indexer).state
          .insurancePolicy log) := by
  cases parsed : parseLog .insurancePolicy log.emitted with
  | none =>
      have unchanged : (Indexer.dispatch config faults .insurancePolicy log indexer).state =
          indexer := by
        rw [Indexer.dispatch, parsed]
        cases config.unknownTopic with
        | null => rfl
        | throws => rfl
      rw [unchanged]
      exact ⟨follows, settled, fun _ declared => absurd parsed declared⟩
  | some event =>
      rcases @Indexer.dispatch_cases config .insurancePolicy faults log event indexer parsed
          (atomic event parsed) with
        ⟨seen, unchanged⟩ | ⟨_, stopped⟩ | ⟨new, _, _, reported, done⟩
      · rw [unchanged]
        exact ⟨follows, settled, fun _ _ => seen⟩
      · rw [stopped]
        exact ⟨follows, settled, fun completed => absurd rfl completed⟩
      · rw [done]
        have mirrored := follows.mirrored identified settled parsed new
        refine ⟨⟨mirrored.recorded, mirrored.rows⟩, ?_, fun _ _ => ?_⟩
        · intro earlier member declared
          exact Indexer.marked_mirrored.mpr (Or.inl (settled earlier member declared))
        · exact Indexer.marked_mirrored.mpr (Or.inr rfl)

theorem Follows.forEach {before stretch after : List Log}
    (follows : Follows state (before ++ stretch ++ after) indexer)
    (identified : ((before ++ stretch ++ after).map Log.key).Nodup)
    (settled : ∀ earlier ∈ before, Settled indexer .insurancePolicy earlier)
    (atomic : ∀ log ∈ stretch, ∀ event, parseLog .insurancePolicy log.emitted = some event →
      WritesBoth faults log event) :
    Follows state (before ++ stretch ++ after)
        (Scripts.forEach (Indexer.dispatch config faults .insurancePolicy) stretch
          indexer).state ∧
      (∀ earlier ∈ before, Settled
        (Scripts.forEach (Indexer.dispatch config faults .insurancePolicy) stretch indexer).state
          .insurancePolicy earlier) ∧
      ((Scripts.forEach (Indexer.dispatch config faults .insurancePolicy) stretch
          indexer).Completed →
        ∀ log ∈ stretch, Settled
          (Scripts.forEach (Indexer.dispatch config faults .insurancePolicy) stretch
            indexer).state .insurancePolicy log) := by
  induction stretch generalizing before indexer with
  | nil => exact ⟨follows, settled, fun _ => List.forall_mem_nil _⟩
  | cons log rest ih =>
      have regroup : before ++ log :: rest ++ after = before ++ log :: (rest ++ after) := by
        simp only [List.append_assoc, List.cons_append]
      have shifted : before ++ log :: (rest ++ after) = before ++ [log] ++ rest ++ after := by
        simp only [List.append_assoc, List.cons_append, List.nil_append]
      rw [regroup] at follows identified ⊢
      obtain ⟨first, kept, reached⟩ := @Follows.dispatch config faults state indexer before
        (rest ++ after) log follows identified settled (atomic log List.mem_cons_self)
      cases outcome : Indexer.dispatch config faults .insurancePolicy log indexer with
      | mk next value =>
          rw [outcome] at first kept reached
          cases value with
          | none =>
              have stopped : Scripts.forEach (Indexer.dispatch config faults .insurancePolicy)
                  (log :: rest) indexer = ⟨next, none⟩ := bind_of_none outcome _
              rw [stopped]
              exact ⟨first, kept, fun completed => absurd rfl completed⟩
          | some value =>
              have continued : Scripts.forEach (Indexer.dispatch config faults .insurancePolicy)
                  (log :: rest) indexer =
                  Scripts.forEach (Indexer.dispatch config faults .insurancePolicy) rest next :=
                bind_of_some outcome _
              rw [continued]
              rw [shifted] at first identified ⊢
              have settledNext : ∀ earlier ∈ before ++ [log],
                  Settled next .insurancePolicy earlier := by
                intro earlier member
                rcases List.mem_append.mp member with old | new
                · exact kept earlier old
                · rw [List.mem_singleton.mp new]
                  exact reached nofun
              obtain ⟨follows, before, later⟩ := ih first identified settledNext
                (fun other member => atomic other (List.mem_cons_of_mem _ member))
              refine ⟨follows, fun earlier member => before earlier (List.mem_append_left _ member),
                ?_⟩
              intro completed
              exact List.forall_mem_cons.mpr
                ⟨before log (List.mem_append_right _ (List.mem_singleton_self _)),
                  later completed⟩

/-- The logs of a committed call are left to be handled. -/
theorem Follows.call {here : Address} {world next : World} {call : Call}
    {receipt : Receipt InsurancePolicy.Event} {logs new : List Log}
    (follows : Follows world.policy logs indexer)
    (done : InsurancePolicy.exec here world call = .ok (next, receipt))
    (emitted : new.map Log.emitted = receipt.events.map .policy)
    (identified : ((logs ++ new).map Log.key).Nodup) :
    Follows next.policy (logs ++ new) indexer := by
  constructor
  case recorded =>
    intro key seen
    rw [List.map_append]
    exact List.mem_append_left _ (follows.recorded key seen)
  case rows =>
    have unseen : ∀ log ∈ new, indexer.events log.key = none := by
      intro log member
      by_contra seen
      rw [List.map_append] at identified
      exact (List.disjoint_of_nodup_append identified) (follows.recorded log.key seen)
        (List.mem_map_of_mem member)
    have fresh : unsettled indexer new =
        new.filter fun log => parseLog .insurancePolicy log.emitted ≠ none := by
      apply List.filter_congr
      intro log member
      rw [decide_eq_decide]
      exact and_iff_left (unseen log member)
    rw [unsettled_append, List.foldl_append, fresh, Indexer.foldl_mirror_filter]
    exact rowsTell_step done follows.rows emitted

end Follows

/-- No index turn of the run loses a write of one of the logs. -/
def Lossless (logs : List Log) : Move → Prop
  | .index _ faults _ => ∀ log ∈ logs, ∀ event,
      parseLog .insurancePolicy log.emitted = some event → WritesBoth faults log event
  | _ => True

instance (logs : List Log) : (move : Move) → Decidable (Lossless logs move)
  | .index _ faults _ => inferInstanceAs (Decidable (∀ log ∈ logs,
      ∀ event ∈ parseLog .insurancePolicy log.emitted, WritesBoth faults log event))
  | .call .. => inferInstanceAs (Decidable True)
  | .poll .. => inferInstanceAs (Decidable True)

/-- The rows tell the truth about all logs that were handled, and the ones behind
the checkpoint are among them. -/
structure Truthful (system : System) : Prop where
  follows : Follows system.world.policy system.logs system.indexer
  bounded : system.passed ≤ system.logs.length
  settled : ∀ log ∈ system.logs.take system.passed, Settled system.indexer .insurancePolicy log

section Truthful

variable {deployment : Deployment} {config : Indexer.Config} {warningWindow : Int}
  {system : System}

theorem Truthful.start {earlier : List Call}
    (unissued : ∀ id, (deployment.run earlier).policy.policyExists id = false) :
    Truthful (start deployment earlier) := by
  refine ⟨⟨?_, ?_, fun _ _ => rfl⟩, Nat.le_refl 0, List.forall_mem_nil _⟩
  · intro key seen
    exact absurd rfl seen
  · intro id known
    change (deployment.run earlier).policy.policyExists id = true at known
    rw [unissued id] at known
    cases known

/-- Logs are only added. -/
theorem logs_step (system : System) (move : Move) :
    ∃ new, (step deployment config warningWindow system move).logs = system.logs ++ new := by
  cases move with
  | call call transactionHash blockNumber firstIndex =>
      rw [step]
      split
      · exact ⟨_, rfl⟩
      · exact ⟨[], (List.append_nil _).symm⟩
  | index count faults stored => exact ⟨[], (List.append_nil _).symm⟩
  | poll poll keys => exact ⟨[], (List.append_nil _).symm⟩

theorem Truthful.index (truthful : Truthful system)
    (identified : (system.logs.map Log.key).Nodup) {count : Nat} {faults : Faults}
    {stored : Bool} (lossless : Lossless system.logs (.index count faults stored)) :
    Truthful (step deployment config warningWindow system (.index count faults stored)) := by
  have split : system.logs.take system.passed ++ system.chunk count ++
      (system.logs.drop system.passed).drop count = system.logs := by
    rw [List.append_assoc, System.chunk, List.take_append_drop, List.take_append_drop]
  have follows := truthful.follows
  rw [← split] at follows identified
  obtain ⟨scanned, settled, reached⟩ := @Follows.forEach config faults _ _ _ _ _ follows
    identified truthful.settled
    (fun log member => lossless log (mem_of_mem_chunk member))
  rw [split] at scanned
  refine ⟨scanned, ?_, ?_⟩
  · rw [Pipeline.step]
    dsimp only
    have bounded := truthful.bounded
    split_ifs
    · rw [System.chunk, List.length_take, List.length_drop]
      omega
    · exact bounded
  · rw [Pipeline.step]
    dsimp only
    split_ifs with finished
    · intro log member
      have within : log ∈ system.logs.take system.passed ++ system.chunk count := by
        rw [← split, List.take_append_of_le_length, List.take_of_length_le] at member
        · exact member
        · rw [List.length_append, List.length_take]
          omega
        · rw [List.length_append, List.length_take]
          have bounded := truthful.bounded
          omega
      rcases List.mem_append.mp within with old | new
      · exact settled log old
      · exact reached finished.1 log new
    · exact settled

theorem Truthful.step (truthful : Truthful system) {move : Move}
    (identified : ((Pipeline.step deployment config warningWindow system move).logs.map
      Log.key).Nodup)
    (lossless : Lossless system.logs move) :
    Truthful (Pipeline.step deployment config warningWindow system move) := by
  cases move with
  | call call transactionHash blockNumber firstIndex =>
      rw [Pipeline.step] at identified ⊢
      cases outcome : InsurancePolicy.exec deployment.self system.world call with
      | error error => exact truthful
      | ok result =>
          obtain ⟨next, receipt⟩ := result
          rw [outcome] at identified
          refine ⟨truthful.follows.call outcome (logsOf_emitted _ _ _ _) identified, ?_, ?_⟩
          · dsimp only
            rw [List.length_append]
            exact Nat.le_add_right_of_le truthful.bounded
          · dsimp only
            rw [List.take_append_of_le_length truthful.bounded]
            exact truthful.settled
  | index count faults stored => exact truthful.index identified lossless
  | poll poll keys => exact ⟨truthful.follows, truthful.bounded, truthful.settled⟩

theorem truthful_run {earlier : List Call} {moves : List Move}
    (unissued : ∀ id, (deployment.run earlier).policy.policyExists id = false)
    (identified : ((run deployment config warningWindow earlier moves).logs.map Log.key).Nodup)
    (lossless : ∀ move ∈ moves,
      Lossless (run deployment config warningWindow earlier moves).logs move) :
    Truthful (run deployment config warningWindow earlier moves) := by
  induction moves using List.reverseRecOn with
  | nil => exact Truthful.start unissued
  | append_singleton moves move ih =>
      rw [run, List.foldl_append] at identified lossless ⊢
      obtain ⟨new, grown⟩ := @logs_step deployment config warningWindow
        (run deployment config warningWindow earlier moves) move
      have fewer : ∀ other, Lossless (Pipeline.step deployment config warningWindow
          (run deployment config warningWindow earlier moves) move).logs other →
          Lossless (run deployment config warningWindow earlier moves).logs other := by
        intro other all
        cases other with
        | index count faults stored =>
            intro log member
            apply all log
            rw [grown]
            exact List.mem_append_left _ member
        | call => exact trivial
        | poll => exact trivial
      have distinct :
          ((run deployment config warningWindow earlier moves).logs.map Log.key).Nodup := by
        change ((Pipeline.step deployment config warningWindow
          (run deployment config warningWindow earlier moves) move).logs.map Log.key).Nodup
          at identified
        rw [grown, List.map_append] at identified
        exact identified.of_append_left
      apply (ih distinct fun other member => fewer other
        (lossless other (List.mem_append_left _ member))).step identified
      exact fewer move (lossless move (List.mem_append_right _ (List.mem_singleton_self _)))

end Truthful

/-! ### Once the indexer has caught up -/

section Later

variable {deployment : Deployment} {config : Indexer.Config} {warningWindow : Int}
  {system : System}

def RevokedRow (policyId : Nat) (tables : Tables) : Prop :=
  ∃ row, tables.policies policyId = some row ∧ row.revoked = true

theorem keeps_revokedRow {faults : Faults} (policyId : Nat) (log : Log) :
    (dispatch config faults .insurancePolicy log).Keeps
      (fun indexer => RevokedRow policyId indexer.tables) := by
  rintro indexer ⟨row, stored, revoked⟩
  rcases Indexer.dispatch_tables faults log indexer with same | mirrored
  · rw [same]
    exact ⟨row, stored, revoked⟩
  · rw [mirrored]
    obtain ⟨later, found, stays⟩ := mirror_stays stored log
    exact ⟨later, found, stays.revoked revoked⟩

/-- Once the row is revoked, no move warns about the policy any more. -/
theorem warnings_step {policyId : Nat} (revoked : RevokedRow policyId system.indexer.tables)
    (move : Move) :
    RevokedRow policyId (step deployment config warningWindow system move).indexer.tables ∧
      (step deployment config warningWindow system move).scheduler.warnings policyId =
        system.scheduler.warnings policyId := by
  cases move with
  | call call transactionHash blockNumber firstIndex =>
      rw [step]
      split
      · exact ⟨revoked, rfl⟩
      · exact ⟨revoked, rfl⟩
  | index count faults stored =>
      refine ⟨?_, rfl⟩
      exact @keeps_forEach _ _ (fun indexer => RevokedRow policyId indexer.tables) _ _
        (fun log _ => keeps_revokedRow policyId log) system.indexer revoked
  | poll poll keys =>
      refine ⟨revoked, ?_⟩
      show (checkOnce warningWindow system.world.policy
        (withTables poll system.indexer.tables keys) system.scheduler).warnings policyId = _
      unfold checkOnce withTables
      cases poll.activePolicies with
      | none => rfl
      | some ignored =>
          apply warnings_foldl
          rintro policy member rfl
          obtain ⟨_, other, found, active, _⟩ := mem_activePolicies.mp member
          obtain ⟨row, stored, ended⟩ := revoked
          rw [stored] at found
          cases found
          rw [ended] at active
          cases active

theorem warnings_later {policyId : Nat} (later : List Move)
    (revoked : RevokedRow policyId system.indexer.tables) :
    (later.foldl (step deployment config warningWindow) system).scheduler.warnings policyId =
      system.scheduler.warnings policyId := by
  induction later generalizing system with
  | nil => rfl
  | cons move rest ih =>
      obtain ⟨still, same⟩ :=
        @warnings_step deployment config warningWindow system policyId revoked move
      rw [List.foldl_cons, ih still, same]

end Later

/-- Every declared log has its raw event stored. -/
def CaughtUp (system : System) : Prop :=
  ∀ log ∈ system.logs, Settled system.indexer .insurancePolicy log

instance (system : System) : Decidable (CaughtUp system) :=
  inferInstanceAs (Decidable (∀ log ∈ system.logs,
    parseLog .insurancePolicy log.emitted ≠ none → system.indexer.events log.key ≠ none))

/-- What happens to a policy from a system on whose indexer has caught up: a poll
whose query succeeds warns its holder when that is due, and after its revocation
nobody is warned about it again. -/
structure WellInformed (deployment : Deployment) (config : Indexer.Config) (warningWindow : Int)
    (system : System) (policyId : Nat) : Prop where
  warned : (system.world.policy.policies policyId).revoked = false →
    ∀ poll keys, poll.activePolicies.isSome = true → policyId ∈ keys →
    Due warningWindow system.world.policy poll system.scheduler policyId →
    ⟨policyId, (system.world.policy.policies policyId).holder,
      int64 (system.world.policy.premiumPaidUntil policyId)⟩ ∈
        (step deployment config warningWindow system (.poll poll keys)).scheduler.sent
  silenced : (system.world.policy.policies policyId).revoked = true →
    ∀ later : List Move,
      (later.foldl (step deployment config warningWindow) system).scheduler.warnings policyId =
        system.scheduler.warnings policyId

theorem RowsTell.wellInformed {deployment : Deployment} {config : Indexer.Config}
    {warningWindow : Int} {system : System} {policyId : Nat}
    (rows : RowsTell system.world.policy system.indexer.tables.policies)
    (known : system.world.policy.policyExists policyId = true) :
    WellInformed deployment config warningWindow system policyId := by
  obtain ⟨row, stored, tells⟩ := rows.present policyId known
  refine ⟨?_, ?_⟩
  · intro active poll keys queried listed due
    have member : ⟨policyId, (system.world.policy.policies policyId).holder⟩ ∈
        activePolicies system.indexer.tables keys :=
      mem_activePolicies.mpr
        ⟨listed, row, stored, tells.revoked.trans active, tells.holderAddress.symm⟩
    have unique : ∀ other ∈ activePolicies system.indexer.tables keys,
        other.policyId = policyId →
        other = ⟨policyId, (system.world.policy.policies policyId).holder⟩ := by
      rintro ⟨otherId, address⟩ among same
      cases same
      obtain ⟨_, found, again, _, holder⟩ := mem_activePolicies.mp among
      rw [stored] at again
      cases again
      rw [← tells.holderAddress, ← holder]
    show _ ∈ (checkOnce warningWindow system.world.policy
      (withTables poll system.indexer.tables keys) system.scheduler).sent
    obtain ⟨ignored, query⟩ := Option.isSome_iff_exists.mp queried
    unfold checkOnce withTables
    rw [query]
    exact @Due.foldl warningWindow system.world.policy _ _ _ _ member unique
      ⟨due.answers, due.lapsed, due.opened, due.unsent, due.accepts⟩
  · intro revoked later
    exact warnings_later later ⟨row, stored, tells.revoked.trans revoked⟩

/-- However transactions, the indexer and polls take turns and whatever fails,
every warning goes to the holder of an existing policy.  If the indexer started
before the first policy, lost no write and has caught up, every policy that is due
is warned about at the next poll, and a revoked one never again. -/
theorem warnings_reach_holders (deployment : Deployment) (config : Indexer.Config)
    (warningWindow : Int) (earlier : List Call) (moves : List Move) :
    (∀ warning ∈ (run deployment config warningWindow earlier moves).scheduler.sent,
      Reached (run deployment config warningWindow earlier moves).world.policy warning) ∧
    ((∀ id, (deployment.run earlier).policy.policyExists id = false) →
      ((run deployment config warningWindow earlier moves).logs.map Log.key).Nodup →
      (∀ move ∈ moves,
        Lossless (run deployment config warningWindow earlier moves).logs move) →
      CaughtUp (run deployment config warningWindow earlier moves) → ∀ policyId,
      (run deployment config warningWindow earlier moves).world.policy.policyExists policyId =
        true →
      WellInformed deployment config warningWindow
        (run deployment config warningWindow earlier moves) policyId) := by
  refine ⟨(sound_run earlier moves).sent, ?_⟩
  intro unissued identified lossless caughtUp policyId known
  have rows := (truthful_run unissued identified lossless).follows.rows
  rw [unsettled_eq_nil_iff.mpr caughtUp] at rows
  exact rows.wellInformed known

section Sample

open Indexer (sampleConfig)
open InsurancePolicy (sampleDeployment sampleCall)

/-- The manager `0xE1` offers a template. -/
def offeringCalls : List Call :=
  [sampleCall 0xAD (.changeRole (.grantRole .policyManager 0xE1)),
   sampleCall 0xAD (.setPremiumConfig 0x77 0x7E 50),
   sampleCall 0xE1 (.addPolicyTemplate 5 600 10 30 365 0)]

/-- The connection drops before the event of policy `2` is stored. -/
def droppedInsert : Faults :=
  { Faults.none with rawInsert := fun key => if key = (0x78, 0) then .lost else .none }

/-- The first turn of the indexer is abandoned at policy `2`, the checkpoint of the
second is lost, and the third ends at the undeclared event of the subscription. -/
def sampleMoves (poll : Poll) : List Move :=
  [.call (sampleCall 0xE1 (.registerPolicy 1 0xB1 0 1000 900 0)) 0x77 5 0,
   .call (sampleCall 0xA1 (.subscribeToPolicy 5)) 0x78 6 0,
   .index 100 droppedInsert true, .index 1 Faults.none false, .index 100 Faults.none true,
   .poll poll [1, 2]]

theorem warnings_reach_holders_sample :
    let system := run sampleDeployment sampleConfig (3 * second) offeringCalls
      (sampleMoves (pollAt 100 2 true))
    system.scheduler.sent = [⟨2, 0xA1, 40⟩] ∧ Reached system.world.policy ⟨2, 0xA1, 40⟩ ∧
      WellInformed sampleDeployment sampleConfig (3 * second) system 2 := by
  have sent : (run sampleDeployment sampleConfig (3 * second) offeringCalls
      (sampleMoves (pollAt 100 2 true))).scheduler.sent = [⟨2, 0xA1, 40⟩] := by
    decide +kernel
  obtain ⟨reached, informed⟩ := warnings_reach_holders sampleDeployment sampleConfig
    (3 * second) offeringCalls (sampleMoves (pollAt 100 2 true))
  refine ⟨sent, reached _ ?_, informed (fun _ => rfl) (by decide +kernel) (by decide +kernel)
    (by decide +kernel) 2 (by decide +kernel)⟩
  rw [sent]
  exact List.mem_singleton_self _

end Sample

end Dics.Notifications.Pipeline
