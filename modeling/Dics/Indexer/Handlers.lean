/-
The indexer's event handlers.

A handler first inserts the raw event, whose unique key says whether the event
was seen before, then changes the mirror tables, then reports to the backend.
The three are separate requests: nothing undoes the first when the second fails.
A query with a parameter that is refused throws before it changes anything.  The
`updated_at` and `processed_at` columns are left out.
-/

import Dics.Indexer.Columns
import Dics.Lib.Scripts

open Scripts

namespace Dics.Indexer

/-! ### Tables -/

structure RawEvent where
  contract : Contract
  blockNumber : Nat
  data : Parsed
  deriving DecidableEq

structure ClaimRow where
  policyId : Nat
  claimantAddress : Address
  merkleRoot : Bytes32
  amount : Nat
  status : StatusName
  submittedTxHash : Bytes32
  submittedBlock : Nat
  lastStatusTxHash : Option Bytes32
  payoutTxHash : Option Bytes32
  deriving DecidableEq

/-- The two dates are microseconds since 1970. -/
structure PolicyRow where
  holderAddress : Address
  coverageAmount : Nat
  validFrom : Nat
  validUntil : Nat
  revoked : Bool
  registeredTxHash : Bytes32
  deriving DecidableEq

/-- `onchain_claims` and `onchain_policies` by primary key. -/
structure Tables where
  claims : Nat → Option ClaimRow
  policies : Nat → Option PolicyRow

def Tables.empty : Tables :=
  { claims := fun _ => none, policies := fun _ => none }

inductive EventName where
  | claimSubmitted
  | claimStatusChanged
  | claimPayout
  deriving DecidableEq

structure Notification where
  eventName : EventName
  onchainClaimId : Nat
  merkleRoot : Bytes32
  txHash : Bytes32
  status : StatusName
  deriving DecidableEq

structure State where
  events : Bytes32 × Nat → Option RawEvent
  tables : Tables
  checkpoints : Contract → Option Nat
  reported : List Notification

def State.empty : State :=
  { events := fun _ => none
    tables := Tables.empty
    checkpoints := fun _ => none
    reported := [] }

/-- `INSERT … ON CONFLICT DO NOTHING`. -/
def insertOnce {Row : Type} (table : Nat → Option Row) (key : Nat) (row : Row) :
    Nat → Option Row :=
  match table key with
  | some _ => table
  | none => Function.update table key (some row)

/-- `UPDATE … WHERE`, which changes nothing when there is no such row. -/
def updateRow {Row : Type} (table : Nat → Option Row) (key : Nat) (change : Row → Row) :
    Nat → Option Row :=
  Function.update table key ((table key).map change)

/-! ### Environment -/

/-- What `parseLog` does for a log of no declared event: return null, which the
caller does not expect, or throw, which it does. -/
inductive UnknownTopic where
  | null
  | throws
  deriving DecidableEq

structure Config where
  blockRangeChunkSize : Nat
  chunkPositive : 0 < blockRangeChunkSize
  reorgSafetyBlocks : Nat
  deployBlock : Contract → Nat
  backendUrl : Bool
  unknownTopic : UnknownTopic

structure Faults where
  blockNumber : Contract → Fault
  readCheckpoint : Contract → Fault
  getLogs : Contract → Nat → Fault
  rawInsert : Bytes32 × Nat → Fault
  stateWrite : Bytes32 × Nat → Fault
  webhook : Bytes32 × Nat → Fault
  writeCheckpoint : Contract → Nat → Fault

def Faults.none : Faults :=
  { blockNumber := fun _ => .none
    readCheckpoint := fun _ => .none
    getLogs := fun _ _ => .none
    rawInsert := fun _ => .none
    stateWrite := fun _ => .none
    webhook := fun _ => .none
    writeCheckpoint := fun _ _ => .none }

/-- A refused parameter fails the query whatever else happens to it. -/
def refused (parameters : List Parameter) (fault : Fault) : Fault :=
  if parameters.all Parameter.accepted = true then fault else .lost

def Faults.onRawInsert (faults : Faults) (log : Log) (event : Parsed) : Fault :=
  refused (rawParameters log event) (faults.rawInsert log.key)

def Faults.onStateWrite (faults : Faults) (log : Log) (event : Parsed) : Fault :=
  refused (event.parameters log) (faults.stateWrite log.key)

/-! ### Handlers -/

def State.recorded (state : State) (contract : Contract) (log : Log) (data : Parsed) : State :=
  { state with
    events := Function.update state.events log.key
      (some { contract, blockNumber := log.blockNumber, data }) }

/-- `INSERT INTO onchain_events … ON CONFLICT DO NOTHING RETURNING id`. -/
def insertRawEvent (contract : Contract) (log : Log) (data : Parsed) (state : State) :
    State × Bool :=
  match state.events log.key with
  | some _ => (state, false)
  | none => (state.recorded contract log data, true)

def persistRawEventOnce (faults : Faults) (contract : Contract) (log : Log) (data : Parsed) :
    Script State Bool :=
  request (faults.onRawInsert log data) (insertRawEvent contract log data)

/-- Without a backend this does nothing; a refused notification is only
logged. -/
def reportClaimEvent (config : Config) (faults : Faults) (log : Log)
    (notification : Notification) : Script State Unit :=
  if config.backendUrl = true then
    request (faults.webhook log.key) fun state =>
      ({ state with reported := state.reported ++ [notification] }, ())
  else pure ()

def State.runQuery (query : Tables → Tables × Option Notification) (state : State) :
    State × Option Notification :=
  ({ state with tables := (query state.tables).1 }, (query state.tables).2)

def reportIfAny (config : Config) (faults : Faults) (log : Log) :
    Option Notification → Script State Unit
  | some notification => reportClaimEvent config faults log notification
  | none => pure ()

/-- The shape the five handlers share: skip an event seen before, otherwise run
the handler's own query and report what it says to report. -/
def handleOnce (config : Config) (faults : Faults) (contract : Contract) (log : Log)
    (data : Parsed) (query : Tables → Tables × Option Notification) : Script State Unit := do
  let isNew ← persistRawEventOnce faults contract log data
  if isNew = true then
    let notification ← request (faults.onStateWrite log data) (State.runQuery query)
    reportIfAny config faults log notification
  else pure ()

def claimSubmittedQuery (log : Log) (claimId policyId : Nat) (claimant : Address)
    (merkleRoot : Bytes32) (amount : Nat) (tables : Tables) : Tables × Option Notification :=
  ({ tables with
      claims := insertOnce tables.claims claimId
        { policyId
          claimantAddress := claimant
          merkleRoot
          amount
          status := .submitted
          submittedTxHash := log.transactionHash
          submittedBlock := log.blockNumber
          lastStatusTxHash := none
          payoutTxHash := none } },
    some
      { eventName := .claimSubmitted
        onchainClaimId := claimId
        merkleRoot
        txHash := log.transactionHash
        status := .submitted })

def claimStatusChangedQuery (log : Log) (claimId status : Nat) (tables : Tables) :
    Tables × Option Notification :=
  ({ tables with
      claims := updateRow tables.claims claimId fun row =>
        { row with
          status := statusName status
          lastStatusTxHash := some log.transactionHash } },
    (tables.claims claimId).map fun row =>
      { eventName := .claimStatusChanged
        onchainClaimId := claimId
        merkleRoot := row.merkleRoot
        txHash := log.transactionHash
        status := statusName status })

def claimPayoutQuery (log : Log) (claimId : Nat) (tables : Tables) :
    Tables × Option Notification :=
  ({ tables with
      claims := updateRow tables.claims claimId fun row =>
        { row with status := .paid, payoutTxHash := some log.transactionHash } },
    (tables.claims claimId).map fun row =>
      { eventName := .claimPayout
        onchainClaimId := claimId
        merkleRoot := row.merkleRoot
        txHash := log.transactionHash
        status := .paid })

def policyRegisteredQuery (log : Log) (policyId : Nat) (holder : Address)
    (validFrom validUntil coverageAmount : Nat) (tables : Tables) :
    Tables × Option Notification :=
  ({ tables with
      policies := insertOnce tables.policies policyId
        { holderAddress := holder
          coverageAmount
          validFrom := toTimestamp validFrom
          validUntil := toTimestamp validUntil
          revoked := false
          registeredTxHash := log.transactionHash } },
    none)

def policyRevokedQuery (policyId : Nat) (tables : Tables) : Tables × Option Notification :=
  ({ tables with
      policies := updateRow tables.policies policyId fun row => { row with revoked := true } },
    none)

def Parsed.query (log : Log) : Parsed → Tables → Tables × Option Notification
  | .claimSubmitted claimId policyId claimant merkleRoot amount _ =>
      claimSubmittedQuery log claimId policyId claimant merkleRoot amount
  | .claimStatusChanged claimId status => claimStatusChangedQuery log claimId status
  | .claimPayout claimId _ _ _ => claimPayoutQuery log claimId
  | .policyRegistered policyId holder validFrom validUntil coverageAmount =>
      policyRegisteredQuery log policyId holder validFrom validUntil coverageAmount
  | .policyRevoked policyId => policyRevokedQuery policyId

section Members

variable (config : Config) (faults : Faults) (contract : Contract) (log : Log)

def handleClaimSubmitted (claimId policyId : Nat) (claimant : Address) (merkleRoot : Bytes32)
    (amount timestamp : Nat) : Script State Unit :=
  handleOnce config faults contract log
    (.claimSubmitted claimId policyId claimant merkleRoot amount timestamp)
    (claimSubmittedQuery log claimId policyId claimant merkleRoot amount)

def handleClaimStatusChanged (claimId status : Nat) : Script State Unit :=
  handleOnce config faults contract log (.claimStatusChanged claimId status)
    (claimStatusChangedQuery log claimId status)

def handleClaimPayout (claimId : Nat) (recipient : Address) (amount : Nat) (token : Address) :
    Script State Unit :=
  handleOnce config faults contract log (.claimPayout claimId recipient amount token)
    (claimPayoutQuery log claimId)

def handlePolicyRegistered (policyId : Nat) (holder : Address)
    (validFrom validUntil coverageAmount : Nat) : Script State Unit :=
  handleOnce config faults contract log
    (.policyRegistered policyId holder validFrom validUntil coverageAmount)
    (policyRegisteredQuery log policyId holder validFrom validUntil coverageAmount)

def handlePolicyRevoked (policyId : Nat) : Script State Unit :=
  handleOnce config faults contract log (.policyRevoked policyId) (policyRevokedQuery policyId)

/-- The `HANDLERS` table. -/
def handler : Parsed → Script State Unit
  | .claimSubmitted claimId policyId claimant merkleRoot amount timestamp =>
      handleClaimSubmitted config faults contract log claimId policyId claimant merkleRoot
        amount timestamp
  | .claimStatusChanged claimId status =>
      handleClaimStatusChanged config faults contract log claimId status
  | .claimPayout claimId recipient amount token =>
      handleClaimPayout config faults contract log claimId recipient amount token
  | .policyRegistered policyId holder validFrom validUntil coverageAmount =>
      handlePolicyRegistered config faults contract log policyId holder validFrom validUntil
        coverageAmount
  | .policyRevoked policyId => handlePolicyRevoked config faults contract log policyId

theorem handler_eq (event : Parsed) :
    handler config faults contract log event =
      handleOnce config faults contract log event (event.query log) := by
  cases event <;> rfl

end Members

/-! ### What the queries touch -/

/-- The tables with only the one a contract's events are mirrored in. -/
def Tables.part (contract : Contract) (tables : Tables) : Tables :=
  match contract with
  | .claimRegistry => { tables with policies := fun _ => none }
  | .insurancePolicy => { tables with claims := fun _ => none }

theorem query_part (contract : Contract) (log : Log) (event : Parsed) (tables : Tables) :
    (event.query log tables).1.part contract =
      (event.query log (tables.part contract)).1.part contract := by
  cases contract <;> cases event <;> rfl

theorem query_part_other {contract other : Contract} (distinct : contract ≠ other) (log : Log)
    {event : Parsed} {emitted : Emitted} (declared : parseLog contract emitted = some event)
    (tables : Tables) : (event.query log tables).1.part other = tables.part other := by
  unfold parseLog at declared
  split at declared <;> cases declared <;> cases other <;>
    first | exact absurd rfl distinct | rfl

theorem reportIfAny_keeps {Holds : State → Prop} (config : Config) (faults : Faults) (log : Log)
    (notification : Option Notification)
    (kept : ∀ state reported, Holds state → Holds { state with reported }) :
    (reportIfAny config faults log notification).Keeps Holds := by
  cases notification with
  | none => exact keeps_pure _ ()
  | some notification =>
      unfold reportIfAny reportClaimEvent
      dsimp only
      split
      · apply keeps_request
        intro state before
        exact kept state _ before
      · exact keeps_pure _ ()

/-! ### Refusals -/

theorem refused_eq_none_iff {parameters : List Parameter} {fault : Fault} :
    refused parameters fault = .none ↔
      parameters.all Parameter.accepted = true ∧ fault = .none := by
  unfold refused
  by_cases accepted : parameters.all Parameter.accepted = true
  · rw [if_pos accepted, and_iff_right accepted]
  · rw [if_neg accepted]
    constructor
    · intro impossible
      cases impossible
    · intro both
      exact absurd both.1 accepted

theorem accepted_of_refused {parameters : List Parameter} {fault : Fault}
    (sent : refused parameters fault ≠ .lost) :
    parameters.all Parameter.accepted = true := by
  by_contra unaccepted
  exact sent (if_neg unaccepted)

theorem onRawInsert_eq_none_iff {faults : Faults} {log : Log} {event : Parsed} :
    faults.onRawInsert log event = .none ↔
      Recordable log event ∧ faults.rawInsert log.key = .none := by
  rw [Faults.onRawInsert, refused_eq_none_iff, rawParameters_accepted_iff]

theorem onStateWrite_eq_none_iff {faults : Faults} {log : Log} {event : Parsed}
    (block : log.blockNumber < 2 ^ 63) :
    faults.onStateWrite log event = .none ↔ event.Fits ∧ faults.stateWrite log.key = .none := by
  rw [Faults.onStateWrite, refused_eq_none_iff, parameters_accepted_iff block]

/-! ### One event -/

section Event

variable {config : Config} {contract : Contract}

theorem insertRawEvent_seen {log : Log} {data : Parsed} {state : State}
    (seen : state.events log.key ≠ none) :
    insertRawEvent contract log data state = (state, false) := by
  obtain ⟨raw, found⟩ := Option.ne_none_iff_exists'.mp seen
  simp only [insertRawEvent, found]

theorem insertRawEvent_new {log : Log} {data : Parsed} {state : State}
    (new : state.events log.key = none) :
    insertRawEvent contract log data state = (state.recorded contract log data, true) := by
  simp only [insertRawEvent, new]

theorem handleOnce_seen {log : Log} {state : State} (seen : state.events log.key ≠ none)
    (faults : Faults) (data : Parsed) (query : Tables → Tables × Option Notification) :
    (handleOnce config faults contract log data query state).state = state := by
  unfold handleOnce persistRawEventOnce
  rw [bind_run]
  cases faults.onRawInsert log data with
  | none =>
      rw [request_none, insertRawEvent_seen seen]
      rfl
  | lost => rfl
  | late =>
      rw [request_late, insertRawEvent_seen seen]

theorem handleOnce_lost {log : Log} {faults : Faults} {data : Parsed}
    (lost : faults.onRawInsert log data = .lost) (state : State)
    (query : Tables → Tables × Option Notification) :
    handleOnce config faults contract log data query state = ⟨state, none⟩ := by
  unfold handleOnce persistRawEventOnce
  rw [bind_run, lost, request_lost]

theorem handleOnce_new {log : Log} {faults : Faults} {data : Parsed} {state : State}
    (new : state.events log.key = none) (healthy : faults.onRawInsert log data = .none)
    (query : Tables → Tables × Option Notification) :
    handleOnce config faults contract log data query state =
      (request (faults.onStateWrite log data) (State.runQuery query) >>=
        reportIfAny config faults log) (state.recorded contract log data) := by
  unfold handleOnce persistRawEventOnce
  rw [bind_run, healthy, request_none, insertRawEvent_new new]
  rfl

end Event

end Dics.Indexer
