/-
One verification among the webhook's deliveries.

A request of `trigger_verification` and the indexer's deliveries for the same row
take their steps in any order.  Either side reads the row, works on its own copy
and writes back the columns it changed; neither looks again before it writes, and
the row does not say which event its status comes from.  The indexer awaits each
delivery before it makes the next, so they follow each other in the order of the
chain; here all of them find the row.
-/

import Dics.Backend.Idempotency
import Dics.Backend.Webhook

open Transactions

namespace Dics.Backend.Interleaving

open Webhook (OnchainEventNotification claimStatusOfText statusText hexText eventNameText
  receiveOnchainEvent)

/-! ### Events of the claim -/

structure ClaimEvent where
  name : Indexer.EventName
  onchainClaimId : Nat
  merkleRoot : Bytes32
  txHash : Bytes32
  status : ClaimRegistry.ClaimStatus
  deriving DecidableEq

/-- The record the backend reads from a delivery. -/
def ClaimEvent.payload (event : ClaimEvent) : OnchainEventNotification :=
  { eventName := some (eventNameText event.name)
    onchainClaimId := event.onchainClaimId
    merkleRoot := hexText event.merkleRoot
    txHash := hexText event.txHash
    status := statusText (Indexer.statusName event.status.index) }

/-- The on-chain status as the backend names it. -/
def offchainStatus : ClaimRegistry.ClaimStatus → ClaimStatus
  | .submitted => .submitted
  | .underReview => .underReview
  | .approved => .approved
  | .paid => .paid
  | .rejected => .rejected

/-- The indexer's names and the values of the backend's enum are in sync. -/
theorem payload_status (event : ClaimEvent) :
    claimStatusOfText event.payload.status = some (offchainStatus event.status) := by
  change claimStatusOfText (statusText (Indexer.statusName event.status.index)) = _
  cases event.status with
  | submitted => decide
  | underReview => decide
  | approved => decide
  | paid => decide
  | rejected => decide

/-! ### A delivery, from its read to its commit -/

def Claim.reported (claim : Claim) (event : ClaimEvent) (status : ClaimStatus) : Claim :=
  { claim with
    onchainClaimId := some event.onchainClaimId
    txHash := some event.txHash
    status := status }

def commitReported (db : Database) (loaded changed : Claim) : Database where
  claims := Function.update db.claims loaded.id
    ((db.claims loaded.id).map fun stored =>
      { stored with
        status := writeChanged loaded.status changed.status stored.status
        onchainClaimId :=
          writeChanged loaded.onchainClaimId changed.onchainClaimId stored.onchainClaimId
        txHash := writeChanged loaded.txHash changed.txHash stored.txHash })
  keyed := db.keyed_changed loaded.id (fun _ => rfl)
  idempotencyKeys := db.idempotencyKeys

/-- The rest of `receive_onchain_event` once the row is read. -/
def applyEvent (db : Database) (loaded : Claim) (event : ClaimEvent) : Database :=
  match claimStatusOfText event.payload.status with
  | some status => commitReported db loaded (Claim.reported loaded event status)
  | none => db

theorem writeChanged_self {Value : Type} [DecidableEq Value] (stored changed : Value) :
    writeChanged stored changed stored = changed := by
  unfold writeChanged
  split
  · rename_i same
    exact same.symm
  · rfl

theorem applyEvent_row {db : Database} {loaded stored : Claim} (event : ClaimEvent)
    (present : db.claims loaded.id = some stored) :
    (applyEvent db loaded event).claims loaded.id = some
      { stored with
        status := writeChanged loaded.status (offchainStatus event.status) stored.status
        onchainClaimId :=
          writeChanged loaded.onchainClaimId (some event.onchainClaimId) stored.onchainClaimId
        txHash := writeChanged loaded.txHash (some event.txHash) stored.txHash } := by
  unfold applyEvent
  rw [payload_status]
  dsimp only [commitReported, Claim.reported]
  rw [Function.update_self, present, Option.map_some]

/-- One row, in the columns of the verification and in those of the webhook. -/
structure SameRow (row : Claim) (claim : Webhook.Claim) : Prop where
  id : row.id = claim.id
  status : row.status = claim.status
  onchainClaimId : row.onchainClaimId = claim.onchainClaimId
  txHash : row.txHash.map hexText = claim.txHash

/-- A delivery that nothing disturbs between its read and its commit is the whole
of `receive_onchain_event`. -/
theorem applyEvent_eq_receiveOnchainEvent {db : Database} {row : Claim}
    {table : Webhook.Database} {claim : Webhook.Claim} {event : ClaimEvent}
    (present : db.claims row.id = some row) (same : SameRow row claim)
    (only : table.withRoot (hexText event.merkleRoot) = [claim]) :
    ∃ after notified,
      (applyEvent db row event).claims row.id = some after ∧
      receiveOnchainEvent event.payload table = (table.update notified, .updated claim.id) ∧
      SameRow after notified := by
  have written := applyEvent_row event present
  rw [writeChanged_self, writeChanged_self, writeChanged_self] at written
  refine ⟨_, claim.notified event.payload (offchainStatus event.status), written, ?_, ?_⟩
  · have selected : table.withRoot event.payload.merkleRoot = [claim] := only
    rw [receiveOnchainEvent, selected]
    dsimp only
    rw [payload_status]
  · exact ⟨same.id, rfl, rfl, rfl⟩

/-! ### The steps of both sides -/

/-- The request where it stands, the row as the delivery under way has read it, if
there is one, and the events not yet delivered, that one's first. -/
structure Exchange where
  db : Database
  phase : Phase
  reading : Option Claim
  awaiting : List ClaimEvent

inductive Move where
  | request (weather : Weather)
  | select
  | commit

def Exchange.step (request : Request) (exchange : Exchange) : Move → Exchange
  | .request weather =>
      let stepped := nextStep request weather exchange.db exchange.phase
      { exchange with db := stepped.db, phase := stepped.phase }
  | .select =>
      match exchange.reading, exchange.awaiting with
      | none, _ :: _ => { exchange with reading := exchange.db.claims request.claimId }
      | _, _ => exchange
  | .commit =>
      match exchange.reading, exchange.awaiting with
      | some loaded, event :: rest =>
          { exchange with
            db := applyEvent exchange.db loaded event
            reading := none
            awaiting := rest }
      | _, _ => exchange

def exec (request : Request) (exchange : Exchange) (move : Move) :
    Except Empty (Exchange × Unit) :=
  .ok (exchange.step request move, ())

def Exchange.start (db : Database) (events : List ClaimEvent) : Exchange :=
  { db, phase := .received, reading := none, awaiting := events }

def run (request : Request) (db : Database) (events : List ClaimEvent) (moves : List Move) :
    Exchange :=
  Transactions.run (exec request) (Exchange.start db events) moves

abbrev Step := Transactions.Commit Exchange Move Unit

def steps (request : Request) (db : Database) (events : List ClaimEvent) (moves : List Move) :
    List Step :=
  Transactions.history (exec request) (Exchange.start db events) moves

def Exchange.status (request : Request) (exchange : Exchange) : Option ClaimStatus :=
  (exchange.db.claims request.claimId).map Claim.status

/-! ### Where the status is heading -/

section Column

variable {Value : Type} [DecidableEq Value]

/-- What a column comes to when the deliveries still to come are through and
nobody else writes it: `reading` is the value the delivery under way has read,
`awaiting` are the values to be delivered. -/
def settled (stored : Value) : Option Value → List Value → Value
  | none, awaiting => awaiting.getLast?.getD stored
  | some _, [] => stored
  | some loaded, value :: rest => rest.getLast?.getD (writeChanged loaded value stored)

/-- Whatever the column holds now, a delivery still to come will write it: one
that has yet to read it, or one that has read another value than its own. -/
def ToBeWritten : Option Value → List Value → Prop
  | none, awaiting => awaiting ≠ []
  | some _, [] => False
  | some loaded, [value] => value ≠ loaded
  | some _, _ :: _ :: _ => True

theorem settled_select (stored value : Value) (rest : List Value) :
    settled stored (some stored) (value :: rest) = settled stored none (value :: rest) := by
  simp only [settled, writeChanged_self, List.getLast?_cons, Option.getD_some]

theorem settled_of_toBeWritten {reading : Option Value} {awaiting : List Value}
    (later : ToBeWritten reading awaiting) (stored other : Value) :
    settled stored reading awaiting = settled other reading awaiting := by
  cases reading with
  | none =>
      cases awaiting with
      | nil => exact absurd rfl later
      | cons value rest => simp only [settled, List.getLast?_cons, Option.getD_some]
  | some loaded =>
      cases awaiting with
      | nil => exact absurd later id
      | cons value rest =>
          cases rest with
          | nil =>
              have different : value ≠ loaded := later
              simp only [settled, writeChanged, if_neg different]
          | cons next rest => simp only [settled, List.getLast?_cons, Option.getD_some]

theorem settled_of_not_toBeWritten {reading : Option Value} {awaiting : List Value}
    (exposed : ¬ToBeWritten reading awaiting) (stored : Value) :
    settled stored reading awaiting = stored := by
  cases reading with
  | none =>
      cases awaiting with
      | nil => rfl
      | cons value rest => exact absurd (List.cons_ne_nil value rest) exposed
  | some loaded =>
      cases awaiting with
      | nil => rfl
      | cons value rest =>
          cases rest with
          | nil =>
              by_cases same : value = loaded
              · simp only [settled, writeChanged, if_pos same, List.getLast?_nil,
                  Option.getD_none]
              · exact absurd same exposed
          | cons next rest => exact absurd trivial exposed

/-- A column on its way to `last` stays on it when somebody who has read `loaded`
writes `value`, exactly if nothing is written, `last` itself is written, or the
writing is undone by a delivery. -/
theorem settled_written_iff {stored loaded value last : Value} {reading : Option Value}
    {awaiting : List Value} (heading : settled stored reading awaiting = last) :
    settled (writeChanged loaded value stored) reading awaiting = last ↔
      value = loaded ∨ value = last ∨ ToBeWritten reading awaiting := by
  by_cases later : ToBeWritten reading awaiting
  · rw [settled_of_toBeWritten later _ stored]
    exact iff_of_true heading (Or.inr (Or.inr later))
  · rw [settled_of_not_toBeWritten later] at heading ⊢
    by_cases unchanged : value = loaded
    · rw [writeChanged, if_pos unchanged]
      exact iff_of_true heading (Or.inl unchanged)
    · rw [writeChanged, if_neg unchanged]
      constructor
      · intro same
        exact Or.inr (Or.inl same)
      · rintro (same | same | impossible)
        · exact absurd same unchanged
        · exact same
        · exact absurd impossible later

end Column

def Exchange.readStatus (exchange : Exchange) : Option ClaimStatus :=
  exchange.reading.map Claim.status

def Exchange.awaitedStatuses (exchange : Exchange) : List ClaimStatus :=
  exchange.awaiting.map (fun event => offchainStatus event.status)

/-- The status the row comes to if the request writes nothing more. -/
def Exchange.heading (request : Request) (exchange : Exchange) : Option ClaimStatus :=
  (exchange.status request).map
    (fun stored => settled stored exchange.readStatus exchange.awaitedStatuses)

/-- The decision is not the last word: its commit is lost, leaves the status as
it was read, agrees with the chain's last word, or comes early enough for a
delivery to write over it. -/
def InOrder (last : ClaimStatus) (exchange : Exchange) : Move → Prop
  | .request weather =>
      match exchange.phase with
      | .verified claim result =>
          weather.database = .lost ∨ decidedStatus result = claim.status ∨
            decidedStatus result = last ∨
            ToBeWritten exchange.readStatus exchange.awaitedStatuses
      | _ => True
  | _ => True

/-! ### What one step does -/

/-- The row a request has in hand. -/
def held : Phase → Option Claim
  | .loaded claim => some claim
  | .verified claim _ => some claim
  | _ => none

/-- The request may still come to a decision. -/
def undecided : Phase → Bool
  | .received => true
  | .missed => true
  | .loaded _ => true
  | .verified _ _ => true
  | _ => false

section Steps

variable {request : Request} {weather : Weather} {db : Database} {phase : Phase}
  {exchange : Exchange} {row : Claim}

theorem heading_of_present (present : exchange.db.claims request.claimId = some row) :
    exchange.heading request =
      some (settled row.status exchange.readStatus exchange.awaitedStatuses) := by
  rw [Exchange.heading, Exchange.status, present, Option.map_some, Option.map_some]

theorem heading_of_same_row {other : Exchange}
    (claims : other.db.claims = exchange.db.claims)
    (reading : other.reading = exchange.reading)
    (awaiting : other.awaiting = exchange.awaiting) :
    other.heading request = exchange.heading request := by
  simp only [Exchange.heading, Exchange.status, Exchange.readStatus, Exchange.awaitedStatuses,
    claims, reading, awaiting]

theorem storeAnswer_claims (request : Request) (db : Database)
    (response : TriggerVerificationResponse) :
    (storeAnswer request db response).claims = db.claims := by
  unfold storeAnswer
  split
  · rfl
  · unfold storeResponse
    split
    · rfl
    · rfl

theorem write_claims (weather : Weather) {before after : Database}
    (same : after.claims = before.claims) :
    (weather.write before after).claims = before.claims := by
  unfold Weather.write
  cases weather.database with
  | none => exact same
  | lost => rfl
  | late => exact same

/-- Only the commit of a decision touches a row. -/
theorem nextStep_claims (other : ∀ claim result, phase ≠ .verified claim result) :
    (nextStep request weather db phase).db.claims = db.claims := by
  cases phase with
  | verified claim result => exact absurd rfl (other claim result)
  | committed response => exact write_claims weather (storeAnswer_claims request db response)
  | _ => rfl

theorem nextStep_verified_claims {claim : Claim} {result : OracleVerificationResult}
    (ours : claim.id = request.claimId) (present : db.claims request.claimId = some row)
    (effective : weather.database ≠ .lost) :
    ∃ written, written.status =
        writeChanged claim.status (decidedStatus result) row.status ∧
      (nextStep request weather db (.verified claim result)).db.claims request.claimId =
        some written := by
  have committed : (nextStep request weather db (.verified claim result)).db =
      db.commitClaim claim (claim.decided result) := by
    dsimp only [nextStep, Weather.write]
    cases database : weather.database with
    | none => rfl
    | lost => exact absurd database effective
    | late => rfl
  rw [committed]
  dsimp only [Database.commitClaim]
  rw [ours, present, Function.update_self, Option.map_some]
  exact ⟨_, rfl, rfl⟩

theorem undecided_answer_of_decided (weather : Weather) (decided : undecided phase = false) :
    undecided (weather.answer phase) = false := by
  rcases answer_cases weather phase with ⟨_, same⟩ | stopped
  · rw [same]
    exact decided
  · rw [stopped]
    rfl

/-- A request decides once. -/
theorem nextStep_decided
    (past : undecided phase = false ∨ ∃ claim result, phase = .verified claim result) :
    undecided (nextStep request weather db phase).phase = false := by
  rcases past with decided | ⟨claim, result, rfl⟩
  · cases phase with
    | committed response => exact undecided_answer_of_decided weather rfl
    | answered response => rfl
    | failed error => rfl
    | _ => cases decided
  · exact undecided_answer_of_decided weather rfl

theorem held_answer {claim : Claim} (holds : held (weather.answer phase) = some claim) :
    held phase = some claim := by
  rcases answer_cases weather phase with ⟨_, same⟩ | stopped
  · rw [same] at holds
    exact holds
  · rw [stopped] at holds
    cases holds

theorem held_nextStep {claim : Claim}
    (ours : ∀ claim, held phase = some claim → claim.id = request.claimId)
    (holds : held (nextStep request weather db phase).phase = some claim) :
    claim.id = request.claimId := by
  cases phase with
  | received =>
      have looked := held_answer holds
      unfold lookUp at looked
      split at looked
      · cases looked
      · cases looked
  | missed =>
      have read := held_answer holds
      unfold readClaim at read
      split at read
      · cases read
      · rename_i found
        cases read
        exact db.keyed request.claimId claim found
  | loaded loaded =>
      dsimp only [nextStep, receiveReply] at holds
      split at holds
      · cases holds
      · cases holds
        exact ours claim rfl
  | verified loaded result => cases held_answer holds
  | committed response => cases held_answer holds
  | answered response => cases holds
  | failed error => cases holds

/-- The read of a delivery changes nothing about where the status is heading. -/
theorem heading_select (present : exchange.db.claims request.claimId = some row) :
    (exchange.step request .select).heading request = exchange.heading request := by
  obtain ⟨db, phase, reading, awaiting⟩ := exchange
  cases reading with
  | some loaded => rfl
  | none =>
      cases awaiting with
      | nil => rfl
      | cons event rest =>
          have selected : Exchange.step request ⟨db, phase, none, event :: rest⟩ .select =
              ⟨db, phase, some row, event :: rest⟩ := by
            change Exchange.mk db phase (db.claims request.claimId) (event :: rest) = _
            rw [present]
          have after : Exchange.heading request ⟨db, phase, some row, event :: rest⟩ = _ :=
            heading_of_present present
          rw [selected, after, heading_of_present present]
          exact congrArg some (settled_select row.status _ _)

/-- Neither does its commit. -/
theorem heading_commit (present : exchange.db.claims request.claimId = some row)
    (read : ∀ claim, exchange.reading = some claim → claim.id = request.claimId) :
    (exchange.step request .commit).heading request = exchange.heading request ∧
      ∃ written, (exchange.step request .commit).db.claims request.claimId = some written := by
  obtain ⟨db, phase, reading, awaiting⟩ := exchange
  cases reading with
  | none => exact ⟨rfl, row, present⟩
  | some loaded =>
      cases awaiting with
      | nil => exact ⟨rfl, row, present⟩
      | cons event rest =>
          have ours : loaded.id = request.claimId := read loaded rfl
          have written := applyEvent_row event (ours ▸ present : db.claims loaded.id = some row)
          rw [ours] at written
          constructor
          · rw [heading_of_present present]
            change Exchange.heading request
              { db := applyEvent db loaded event, phase, reading := none, awaiting := rest } = _
            rw [heading_of_present written]
            rfl
          · exact ⟨_, written⟩

end Steps

/-! ### Whole runs -/

/-- What a run knows of itself: the row is there and both sides hold copies of
it, the status is heading for the chain's last word as long as the request is
undecided, and afterwards exactly if every step was in order. -/
structure Tracked (request : Request) (last : ClaimStatus) (exchange : Exchange)
    (past : List Step) : Prop where
  present : ∃ row, exchange.db.claims request.claimId = some row
  ours : ∀ claim, held exchange.phase = some claim → claim.id = request.claimId
  read : ∀ claim, exchange.reading = some claim → claim.id = request.claimId
  early : undecided exchange.phase = true → exchange.heading request = some last
  heading : exchange.heading request = some last ↔
    ∀ step ∈ past, InOrder last step.before step.call

section Runs

variable {request : Request} {last : ClaimStatus} {exchange : Exchange} {past : List Step}
  {weather : Weather}

/-- A step after which the status heads where it did before. -/
theorem tracked_of_same_heading {next : Exchange} {move : Move}
    (tracked : Tracked request last exchange past)
    (present : ∃ row, next.db.claims request.claimId = some row)
    (ours : ∀ claim, held next.phase = some claim → claim.id = request.claimId)
    (read : ∀ claim, next.reading = some claim → claim.id = request.claimId)
    (undone : undecided next.phase = true → undecided exchange.phase = true)
    (same : next.heading request = exchange.heading request)
    (inOrder : InOrder last exchange move) :
    Tracked request last next (past ++ [⟨exchange, move, (), next⟩]) := by
  refine ⟨present, ours, read, ?_, ?_⟩
  · intro early
    rw [same]
    exact tracked.early (undone early)
  · rw [same, List.forall_mem_append, List.forall_mem_singleton, tracked.heading]
    exact (and_iff_left inOrder).symm

theorem tracked_select (tracked : Tracked request last exchange past) :
    Tracked request last (exchange.step request .select)
      (past ++ [⟨exchange, .select, (), exchange.step request .select⟩]) := by
  obtain ⟨row, present⟩ := tracked.present
  have kept : (exchange.step request .select).db = exchange.db ∧
      (exchange.step request .select).phase = exchange.phase := by
    dsimp only [Exchange.step]
    split
    · exact ⟨rfl, rfl⟩
    · exact ⟨rfl, rfl⟩
  apply tracked_of_same_heading tracked
  · rw [kept.1]
    exact tracked.present
  · rw [kept.2]
    exact tracked.ours
  · intro claim selected
    dsimp only [Exchange.step] at selected
    split at selected
    · exact exchange.db.keyed request.claimId claim selected
    · exact tracked.read claim selected
  · rw [kept.2]
    exact id
  · exact heading_select present
  · trivial

theorem tracked_commit (tracked : Tracked request last exchange past) :
    Tracked request last (exchange.step request .commit)
      (past ++ [⟨exchange, .commit, (), exchange.step request .commit⟩]) := by
  obtain ⟨row, present⟩ := tracked.present
  obtain ⟨same, written⟩ := heading_commit present tracked.read
  have kept : (exchange.step request .commit).phase = exchange.phase := by
    dsimp only [Exchange.step]
    split
    · rfl
    · rfl
  apply tracked_of_same_heading tracked written
  · rw [kept]
    exact tracked.ours
  · intro claim reading
    dsimp only [Exchange.step] at reading
    split at reading
    · cases reading
    · exact tracked.read claim reading
  · rw [kept]
    exact id
  · exact same
  · trivial

/-- A step of the request that is not an effective commit. -/
theorem tracked_request_unwritten (tracked : Tracked request last exchange past)
    (same : (exchange.step request (.request weather)).db.claims = exchange.db.claims)
    (inOrder : InOrder last exchange (.request weather)) :
    Tracked request last (exchange.step request (.request weather))
      (past ++ [⟨exchange, .request weather, (), exchange.step request (.request weather)⟩]) := by
  apply tracked_of_same_heading tracked
  · rw [same]
    exact tracked.present
  · intro claim holds
    exact held_nextStep tracked.ours holds
  · exact tracked.read
  · intro early
    by_contra decided
    have after := @nextStep_decided request weather exchange.db exchange.phase
      (Or.inl (Bool.eq_false_iff.mpr decided))
    dsimp only [Exchange.step] at early
    rw [after] at early
    cases early
  · exact heading_of_same_row same rfl rfl
  · exact inOrder

theorem tracked_decision {claim : Claim} {result : OracleVerificationResult}
    (tracked : Tracked request last exchange past)
    (stands : exchange.phase = .verified claim result) (effective : weather.database ≠ .lost) :
    Tracked request last (exchange.step request (.request weather))
      (past ++ [⟨exchange, .request weather, (), exchange.step request (.request weather)⟩]) := by
  obtain ⟨row, present⟩ := tracked.present
  have ours : claim.id = request.claimId := tracked.ours claim (by rw [stands]; rfl)
  have before : exchange.heading request = some last :=
    tracked.early (by rw [stands]; rfl)
  obtain ⟨written, status, stored⟩ :=
    @nextStep_verified_claims request weather exchange.db row claim result ours present effective
  rw [← stands] at stored
  have decided : undecided (exchange.step request (.request weather)).phase = false :=
    nextStep_decided (Or.inr ⟨claim, result, stands⟩)
  refine ⟨⟨written, stored⟩, fun other holds => held_nextStep tracked.ours holds, tracked.read,
    ?_, ?_⟩
  · intro early
    rw [decided] at early
    cases early
  · have all := tracked.heading.mp before
    rw [heading_of_present present, Option.some_inj] at before
    rw [heading_of_present stored, Option.some_inj, status, List.forall_mem_append,
      List.forall_mem_singleton]
    change settled _ exchange.readStatus exchange.awaitedStatuses = last ↔ _
    rw [settled_written_iff before, and_iff_right all]
    simp only [InOrder, stands, effective, false_or]

theorem tracked_request (tracked : Tracked request last exchange past) :
    Tracked request last (exchange.step request (.request weather))
      (past ++ [⟨exchange, .request weather, (), exchange.step request (.request weather)⟩]) := by
  by_cases deciding : ∃ claim result, exchange.phase = .verified claim result
  · obtain ⟨claim, result, stands⟩ := deciding
    by_cases lost : weather.database = .lost
    · apply tracked_request_unwritten tracked
      · dsimp only [Exchange.step]
        rw [stands]
        dsimp only [nextStep, Weather.write]
        rw [lost]
      · simp only [InOrder, stands, lost, true_or]
    · exact tracked_decision tracked stands lost
  · apply tracked_request_unwritten tracked
    · apply nextStep_claims
      intro claim result stands
      exact deciding ⟨claim, result, stands⟩
    · dsimp only [InOrder]
      split
      · rename_i claim result stands
        exact absurd ⟨claim, result, stands⟩ deciding
      · trivial

/-- Every step leaves the run tracked. -/
theorem tracked_step (tracked : Tracked request last exchange past) (move : Move) :
    Tracked request last (exchange.step request move)
      (past ++ [⟨exchange, move, (), exchange.step request move⟩]) := by
  cases move with
  | request weather => exact tracked_request tracked
  | select => exact tracked_select tracked
  | commit => exact tracked_commit tracked

theorem tracked_run (request : Request) (db : Database) (earlier : List ClaimEvent)
    (final : ClaimEvent) (moves : List Move) {row : Claim}
    (present : db.claims request.claimId = some row) :
    Tracked request (offchainStatus final.status) (run request db (earlier ++ [final]) moves)
      (steps request db (earlier ++ [final]) moves) := by
  apply @run_induction _ _ _ _ _ _ (fun _ => True)
  · have heading : (Exchange.start db (earlier ++ [final])).heading request =
        some (offchainStatus final.status) := by
      rw [@heading_of_present request (Exchange.start db (earlier ++ [final])) row present]
      simp only [Exchange.readStatus, Exchange.awaitedStatuses, Exchange.start, Option.map_none,
        settled, List.map_append, List.map_cons, List.map_nil, List.getLast?_append_of_ne_nil,
        List.getLast?_singleton, Option.getD_some, ne_eq, List.cons_ne_nil, not_false_eq_true]
    refine ⟨⟨row, present⟩, ?_, ?_, fun _ => heading, ?_⟩
    · intro claim holds
      cases holds
    · intro claim reading
      cases reading
    · exact iff_of_true heading (fun step member => absurd member List.not_mem_nil)
  · intro exchange past move next output tracked stepped _
    cases stepped
    exact tracked_step tracked move
  · intro _ _
    trivial

theorem heading_of_delivered (delivered : exchange.awaiting = []) :
    exchange.heading request = exchange.status request := by
  have arrived : ∀ stored, settled stored exchange.readStatus exchange.awaitedStatuses =
      stored := by
    intro stored
    rw [Exchange.awaitedStatuses, delivered, List.map_nil]
    cases exchange.readStatus with
    | none => rfl
    | some loaded => rfl
  rw [Exchange.heading]
  cases exchange.status request with
  | none => rfl
  | some stored => rw [Option.map_some, arrived]

end Runs

/-- However the steps interleave, once every event is delivered the row has the
status of the last one exactly if the decision was committed in order. -/
theorem row_follows_chain_iff (request : Request) (db : Database) (row : Claim)
    (earlier : List ClaimEvent) (final : ClaimEvent) (moves : List Move)
    (present : db.claims request.claimId = some row)
    (delivered : (run request db (earlier ++ [final]) moves).awaiting = []) :
    (run request db (earlier ++ [final]) moves).status request =
        some (offchainStatus final.status) ↔
      ∀ step ∈ steps request db (earlier ++ [final]) moves,
        InOrder (offchainStatus final.status) step.before step.call := by
  rw [← heading_of_delivered delivered]
  exact (tracked_run request db earlier final moves present).heading

section Sample

def sampleRow : Claim where
  id := 1
  declaredAmount := 500
  status := .submitted
  onchainClaimId := some 1
  txHash := none
  oracleRequestId := none

/-- The reply of the oracle service to the request for the sample row. -/
def sampleWeather : Weather where
  database := .none
  transaction := true
  reply := (sampleService.call sampleAttempt .none sampleRow (sampleSystem (some 1)).oracle).reply

def sampleReply : OracleService.Reply :=
  .ok
    { claimId := 1
      requestId := 0x11
      approved := true
      reason := .withinThreshold
      txHash := 0x99
      blockNumber := 3 }

theorem sampleWeather_eq :
    sampleWeather = { database := .none, transaction := true, reply := some sampleReply } := by
  have replied : (sampleService.call sampleAttempt .none sampleRow
      (sampleSystem (some 1)).oracle).reply = some sampleReply := by
    decide +kernel
  rw [sampleWeather, replied]

/-- Claim `1` is approved by the oracle's transaction, and then paid. -/
def approvedEvent : ClaimEvent where
  name := .claimStatusChanged
  onchainClaimId := 1
  merkleRoot := 0
  txHash := 0x99
  status := .approved

def paidEvent : ClaimEvent where
  name := .claimPayout
  onchainClaimId := 1
  merkleRoot := 0
  txHash := 0x9A
  status := .paid

/-- The request commits its decision between the two deliveries. -/
def promptMoves : List Move :=
  [.request sampleWeather, .request sampleWeather, .request sampleWeather, .select, .commit,
   .request sampleWeather, .select, .commit]

/-- The request commits its decision when both events are delivered. -/
def lateMoves : List Move :=
  [.request sampleWeather, .request sampleWeather, .request sampleWeather, .select, .commit,
   .select, .commit, .request sampleWeather]

theorem row_follows_chain_iff_prompt :
    (run sampleRequest (sampleDatabase (some 1)) [approvedEvent, paidEvent]
        promptMoves).awaiting = [] ∧
      (run sampleRequest (sampleDatabase (some 1)) [approvedEvent, paidEvent]
        promptMoves).status sampleRequest = some .paid := by
  unfold promptMoves
  rw [sampleWeather_eq]
  refine ⟨rfl, ?_⟩
  apply (row_follows_chain_iff sampleRequest (sampleDatabase (some 1)) sampleRow
    [approvedEvent] paidEvent _ rfl rfl).mpr
  refine List.forall_mem_cons.mpr ⟨trivial, List.forall_mem_cons.mpr ⟨trivial,
    List.forall_mem_cons.mpr ⟨trivial, List.forall_mem_cons.mpr ⟨trivial,
    List.forall_mem_cons.mpr ⟨trivial, List.forall_mem_cons.mpr ⟨?_,
    List.forall_mem_cons.mpr ⟨trivial, List.forall_mem_cons.mpr ⟨trivial,
    List.forall_mem_nil _⟩⟩⟩⟩⟩⟩⟩⟩
  exact Or.inr (Or.inr (Or.inr (List.cons_ne_nil _ _)))

/-- The row is left `approved` although the claim is paid. -/
theorem paid_claim_left_approved :
    ((sampleService.call sampleAttempt .none sampleRow
        (sampleSystem (some 1)).oracle).state.world.registry.claims 1).status = .approved ∧
      (run sampleRequest (sampleDatabase (some 1)) [approvedEvent, paidEvent]
        lateMoves).awaiting = [] ∧
      (run sampleRequest (sampleDatabase (some 1)) [approvedEvent, paidEvent]
        lateMoves).status sampleRequest = some .approved ∧
      some ClaimStatus.approved ≠ some (offchainStatus paidEvent.status) := by
  unfold lateMoves
  rw [sampleWeather_eq]
  refine ⟨?_, ?_, ?_, ?_⟩
  · decide +kernel
  · rfl
  · decide
  · decide

end Sample

end Dics.Backend.Interleaving
