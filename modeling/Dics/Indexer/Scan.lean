/-
One scan of one contract.

With a healthy database a scan has a known effect, log by log, up to the first
log it cannot get past.  A log of no declared event is one: `parseLog` answers
null, nothing is thrown, and reading the name of null ends the pass before the
checkpoint of its chunk is stored.  A log with a value that is refused is another.
-/

import Dics.Indexer.Recovery
import Dics.Indexer.Mirror

open Scripts Replay

namespace Dics.Indexer

/-! ### The effect of one log -/

def State.notified (config : Config) (notification : Option Notification) (state : State) :
    State :=
  match notification with
  | some notification =>
      if config.backendUrl = true then
        { state with reported := state.reported ++ [notification] }
      else state
  | none => state

/-- What a log amounts to when nothing goes wrong; one that is not declared, or
was seen before, amounts to nothing. -/
def State.absorbed (config : Config) (contract : Contract) (state : State) (log : Log) : State :=
  match parseLog contract log.emitted with
  | none => state
  | some event =>
      match state.events log.key with
      | some _ => state
      | none =>
          (state.mirrored contract log event).notified config (event.query log state.tables).2

def notice (contract : Contract) (state : State) (log : Log) : Option Notification :=
  match parseLog contract log.emitted with
  | none => none
  | some event =>
      match state.events log.key with
      | some _ => none
      | none => (event.query log state.tables).2

/-- The report of a log, if it makes one, does not throw. -/
def Delivered (config : Config) (faults : Faults) (contract : Contract) (state : State)
    (log : Log) : Prop :=
  config.backendUrl = true → notice contract state log ≠ none → faults.webhook log.key = .none

/-- No query of the contract's scan fails.  The provider and the backend may. -/
structure HealthyDatabase (faults : Faults) (contract : Contract) : Prop where
  readCheckpoint : faults.readCheckpoint contract = .none
  rawInsert : ∀ key, faults.rawInsert key = .none
  stateWrite : ∀ key, faults.stateWrite key = .none
  writeCheckpoint : ∀ block, faults.writeCheckpoint contract block = .none

section Dispatch

variable {config : Config} {faults : Faults} {contract : Contract}

theorem runsIff_reportIfAny (log : Log) (notification : Option Notification) :
    (reportIfAny config faults log notification).RunsIff
      (fun _ => config.backendUrl = true → notification ≠ none →
        faults.webhook log.key = .none)
      (State.notified config notification) := by
  cases notification with
  | none =>
      refine runsIff_pure.congr ?_ (fun _ _ => rfl)
      intro state
      exact iff_of_true (fun _ present => absurd rfl present) trivial
  | some notification =>
      by_cases backend : config.backendUrl = true
      · have reports : reportIfAny config faults log (some notification) =
            request (faults.webhook log.key) (fun state =>
              ({ state with reported := state.reported ++ [notification] }, ())) :=
          if_pos backend
        rw [reports]
        refine (runsIff_request _).congr ?_ ?_
        · intro state
          constructor
          · intro delivered
            exact delivered backend (Option.some_ne_none _)
          · intro healthy _ _
            exact healthy
        · intro state _
          exact if_pos backend
      · have silent : reportIfAny config faults log (some notification) = pure () :=
          if_neg backend
        rw [silent]
        refine runsIff_pure.congr ?_ ?_
        · intro state
          exact iff_of_true (fun present => absurd present backend) trivial
        · intro state _
          exact if_neg backend

/-- The handler gets past its event in the given state. -/
def HandlerPasses (config : Config) (faults : Faults) (log : Log) (event : Parsed)
    (state : State) : Prop :=
  faults.onRawInsert log event = .none ∧
    (state.events log.key = none → faults.onStateWrite log event = .none ∧
      (config.backendUrl = true → (event.query log state.tables).2 ≠ none →
        faults.webhook log.key = .none))

theorem handler_seen {log : Log} {event : Parsed} {state : State}
    (inserted : faults.onRawInsert log event = .none) (seen : state.events log.key ≠ none) :
    handler config faults contract log event state = ⟨state, some ()⟩ := by
  rw [handler_eq]
  unfold handleOnce persistRawEventOnce
  rw [bind_run, inserted, request_none, insertRawEvent_seen seen]
  rfl

theorem handler_unseen {log : Log} {event : Parsed} {state : State}
    (inserted : faults.onRawInsert log event = .none)
    (written : faults.onStateWrite log event = .none) (new : state.events log.key = none) :
    handler config faults contract log event state =
      reportIfAny config faults log (event.query log state.tables).2
        (state.mirrored contract log event) := by
  rw [handler_eq, handleOnce_new new inserted, bind_run, written]
  rfl

private theorem handler_uninserted {log : Log} {event : Parsed} {state : State}
    (failing : faults.onRawInsert log event ≠ .none) :
    ¬(handler config faults contract log event state).Completed := by
  rw [handler_eq]
  unfold handleOnce persistRawEventOnce
  rw [bind_run]
  cases fault : faults.onRawInsert log event with
  | none => exact absurd fault failing
  | lost => exact fun completed => completed rfl
  | late => exact fun completed => completed rfl

private theorem handler_unwritten {log : Log} {event : Parsed} {state : State}
    (inserted : faults.onRawInsert log event = .none)
    (failing : faults.onStateWrite log event ≠ .none) (new : state.events log.key = none) :
    ¬(handler config faults contract log event state).Completed := by
  rw [handler_eq, handleOnce_new new inserted, bind_run]
  cases fault : faults.onStateWrite log event with
  | none => exact absurd fault failing
  | lost => exact fun completed => completed rfl
  | late => exact fun completed => completed rfl

theorem runsIff_handler (log : Log) (event : Parsed) :
    (handler config faults contract log event).RunsIff (HandlerPasses config faults log event)
      (fun state =>
        match state.events log.key with
        | some _ => state
        | none => (state.mirrored contract log event).notified config
            (event.query log state.tables).2) := by
  constructor
  · rintro state ⟨inserted, written⟩
    cases seen : state.events log.key with
    | some raw => exact handler_seen inserted (by rw [seen]; exact Option.some_ne_none raw)
    | none =>
        rw [handler_unseen inserted (written seen).1 seen]
        exact (runsIff_reportIfAny log _).runs _ (written seen).2
  · intro state refused
    by_cases inserted : faults.onRawInsert log event = .none
    · cases seen : state.events log.key with
      | some raw =>
          refine absurd ⟨inserted, fun new => ?_⟩ refused
          rw [seen] at new
          cases new
      | none =>
          by_cases written : faults.onStateWrite log event = .none
          · rw [handler_unseen inserted written seen]
            exact (runsIff_reportIfAny log _).stops _
              (fun delivered => refused ⟨inserted, fun _ => ⟨written, delivered⟩⟩)
          · exact handler_unwritten inserted written seen
    · exact handler_uninserted inserted

/-- A log of no declared event lets the loop go on only if it throws. -/
def Known (config : Config) (contract : Contract) (log : Log) : Prop :=
  parseLog contract log.emitted = none → config.unknownTopic = .throws

/-- The loop gets past a log in the given state. -/
def Accepts (config : Config) (faults : Faults) (contract : Contract) (state : State)
    (log : Log) : Prop :=
  Known config contract log ∧
    ∀ event, parseLog contract log.emitted = some event →
      HandlerPasses config faults log event state

theorem runsIff_dispatch_undeclared {log : Log} (parsed : parseLog contract log.emitted = none) :
    (dispatch config faults contract log).RunsIff
      (fun state => Accepts config faults contract state log)
      (fun state => state.absorbed config contract log) := by
  have unchanged : ∀ state : State, state.absorbed config contract log = state := by
    intro state
    simp only [State.absorbed, parsed]
  have undeclared : ∀ event, parseLog contract log.emitted ≠ some event := by
    intro event
    rw [parsed]
    exact (Option.some_ne_none event).symm
  unfold dispatch
  rw [parsed]
  cases topic : config.unknownTopic with
  | null =>
      refine ⟨?_, fun _ _ completed => completed rfl⟩
      intro state accepted
      have throws := accepted.1 parsed
      rw [topic] at throws
      cases throws
  | throws =>
      refine runsIff_pure.congr ?_ (fun state _ => unchanged state)
      intro state
      exact iff_of_true
        ⟨fun _ => topic, fun event declared => absurd declared (undeclared event)⟩ trivial

/-- A log is absorbed exactly when it is accepted; nothing else lets the loop go
on. -/
theorem runsIff_dispatch (log : Log) :
    (dispatch config faults contract log).RunsIff
      (fun state => Accepts config faults contract state log)
      (fun state => state.absorbed config contract log) := by
  cases parsed : parseLog contract log.emitted with
  | none => exact runsIff_dispatch_undeclared parsed
  | some event =>
      have known : Known config contract log := by
        intro undeclared
        rw [parsed] at undeclared
        cases undeclared
      have handled : dispatch config faults contract log =
          handler config faults contract log event := by
        rw [dispatch, parsed]
      rw [handled]
      refine (runsIff_handler log event).congr ?_ ?_
      · intro state
        constructor
        · intro accepted
          exact accepted.2 event parsed
        · intro passes
          refine ⟨known, ?_⟩
          intro other declared
          rw [parsed] at declared
          cases declared
          exact passes
      · intro state _
        simp only [State.absorbed, parsed]

end Dispatch

/-! ### A healthy database -/

/-- The log is of a declared event with values that the database accepts. -/
def Storable (contract : Contract) (state : State) (log : Log) : Prop :=
  ∃ event, parseLog contract log.emitted = some event ∧ Recordable log event ∧
    (state.events log.key = none → event.Fits)

def Passable (config : Config) (faults : Faults) (contract : Contract) (state : State)
    (log : Log) : Prop :=
  Storable contract state log ∧ Delivered config faults contract state log

theorem accepts_iff_passable {config : Config} {faults : Faults} {contract : Contract}
    (database : HealthyDatabase faults contract) (null : config.unknownTopic = .null)
    (state : State) (log : Log) :
    Accepts config faults contract state log ↔ Passable config faults contract state log := by
  cases parsed : parseLog contract log.emitted with
  | none =>
      constructor
      · intro accepted
        have throws := accepted.1 parsed
        rw [null] at throws
        cases throws
      · rintro ⟨⟨event, declared, _⟩, _⟩
        rw [parsed] at declared
        cases declared
  | some event =>
      have noticed : state.events log.key = none →
          notice contract state log = (event.query log state.tables).2 := by
        intro new
        simp only [notice, parsed, new]
      have quiet : state.events log.key ≠ none → notice contract state log = none := by
        intro seen
        obtain ⟨raw, stored⟩ := Option.ne_none_iff_exists'.mp seen
        simp only [notice, parsed, stored]
      constructor
      · rintro ⟨_, passes⟩
        obtain ⟨inserted, written⟩ := passes event parsed
        obtain ⟨recordable, _⟩ := onRawInsert_eq_none_iff.mp inserted
        refine ⟨⟨event, parsed, recordable, ?_⟩, ?_⟩
        · intro new
          exact ((onStateWrite_eq_none_iff recordable.2.2).mp (written new).1).1
        · intro backend shown
          by_cases new : state.events log.key = none
          · rw [noticed new] at shown
            exact (written new).2 backend shown
          · exact absurd (quiet new) shown
      · rintro ⟨⟨other, declared, recordable, fits⟩, delivered⟩
        rw [parsed] at declared
        cases declared
        refine ⟨?_, ?_⟩
        · intro undeclared
          rw [parsed] at undeclared
          cases undeclared
        · intro other declared
          rw [parsed] at declared
          cases declared
          refine ⟨onRawInsert_eq_none_iff.mpr ⟨recordable, database.rawInsert _⟩, ?_⟩
          intro new
          refine ⟨(onStateWrite_eq_none_iff recordable.2.2).mpr
            ⟨fits new, database.stateWrite _⟩, ?_⟩
          intro backend shown
          rw [← noticed new] at shown
          exact delivered backend shown

/-- Without failures nothing but the log itself decides. -/
theorem Passable.unfailing {config : Config} {faults : Faults} {contract : Contract}
    {state : State} {log : Log} (passable : Passable config faults contract state log) :
    Passable config Faults.none contract state log :=
  ⟨passable.1, fun _ _ => rfl⟩

/-! ### Checkpoints -/

def State.checkpointed (state : State) (contract : Contract) (block : Nat) : State :=
  { state with checkpoints := Function.update state.checkpoints contract (some block) }

theorem checkpointed_checkpointed (state : State) (contract : Contract) (first second : Nat) :
    (state.checkpointed contract first).checkpointed contract second =
      state.checkpointed contract second := by
  simp only [State.checkpointed, Function.update_idem]

theorem absorbed_checkpointed (config : Config) (contract : Contract) (state : State)
    (block : Nat) (log : Log) :
    (state.checkpointed contract block).absorbed config contract log =
      (state.absorbed config contract log).checkpointed contract block := by
  unfold State.absorbed
  cases parseLog contract log.emitted with
  | none => rfl
  | some event =>
      change (match state.events log.key with
        | some _ => state.checkpointed contract block
        | none => ((state.checkpointed contract block).mirrored contract log event).notified
            config (event.query log state.tables).2) = _
      cases state.events log.key with
      | some raw => rfl
      | none =>
          simp only [State.notified]
          cases (event.query log state.tables).2 with
          | none => rfl
          | some notification =>
              by_cases backend : config.backendUrl = true
              · simp only [if_pos backend]
                rfl
              · simp only [if_neg backend]
                rfl

theorem foldl_absorbed_checkpointed (config : Config) (contract : Contract) (logs : List Log)
    (state : State) (block : Nat) :
    logs.foldl (State.absorbed config contract) (state.checkpointed contract block) =
      (logs.foldl (State.absorbed config contract) state).checkpointed contract block := by
  induction logs generalizing state with
  | nil => rfl
  | cons log rest ih => rw [List.foldl_cons, absorbed_checkpointed, ih, List.foldl_cons]

theorem along_passable_checkpointed {config : Config} {faults : Faults} {contract : Contract}
    (logs : List Log) (state : State) (block : Nat) :
    Along (Passable config faults contract) (State.absorbed config contract) logs
        (state.checkpointed contract block) ↔
      Along (Passable config faults contract) (State.absorbed config contract) logs state := by
  induction logs generalizing state with
  | nil => exact Iff.rfl
  | cons log rest ih =>
      rw [Along, Along, absorbed_checkpointed, ih]
      exact Iff.rfl

/-! ### Chunks -/

/-- The provider answers for every chunk from the cursor on, and every log there
is declared, has values that are accepted and makes no report that throws. -/
structure Unhindered (config : Config) (chain : Chain) (faults : Faults) (contract : Contract)
    (safeHead cursor : Nat) (state : State) : Prop where
  fetched : ∀ chunk, cursor + chunk * config.blockRangeChunkSize ≤ safeHead →
    faults.getLogs contract (cursor + chunk * config.blockRangeChunkSize) = .none
  passed : Along (Passable config faults contract) (State.absorbed config contract)
    (chain.getLogs contract cursor safeHead) state

theorem getLogs_append (chain : Chain) (contract : Contract) {cursor toBlock safeHead : Nat}
    (forward : cursor ≤ toBlock + 1) (within : toBlock ≤ safeHead) :
    chain.getLogs contract cursor toBlock ++ chain.getLogs contract (toBlock + 1) safeHead =
      chain.getLogs contract cursor safeHead := by
  have ordered : (chain.getLogs contract cursor safeHead).Pairwise fun first second =>
      first.blockNumber ≤ second.blockNumber := (chain.ordered contract).filter _
  have first : chain.getLogs contract cursor toBlock =
      (chain.getLogs contract cursor safeHead).filter
        fun log => log.blockNumber < toBlock + 1 := by
    unfold Chain.getLogs
    rw [List.filter_filter]
    apply List.filter_congr
    intro log _
    rw [← Bool.decide_and, decide_eq_decide]
    omega
  have second : chain.getLogs contract (toBlock + 1) safeHead =
      (chain.getLogs contract cursor safeHead).filter
        fun log => toBlock + 1 ≤ log.blockNumber := by
    unfold Chain.getLogs
    rw [List.filter_filter]
    apply List.filter_congr
    intro log _
    rw [← Bool.decide_and, decide_eq_decide]
    omega
  rw [first, second]
  exact filter_lt_append_filter_ge ordered (toBlock + 1)

theorem getLogs_past (chain : Chain) (contract : Contract) {cursor safeHead : Nat}
    (past : safeHead < cursor) : chain.getLogs contract cursor safeHead = [] := by
  apply List.filter_eq_nil_iff.mpr
  intro log _
  rw [decide_eq_true_eq]
  omega

section Scan

variable {config : Config} {chain : Chain} {faults : Faults} {contract : Contract}
  {safeHead : Nat}

theorem unhindered_past {cursor : Nat} (past : safeHead < cursor) (state : State) :
    Unhindered config chain faults contract safeHead cursor state where
  fetched := by
    intro chunk within
    exact absurd within (by omega)
  passed := by
    rw [getLogs_past chain contract past]
    exact trivial

/-- The blocks chunks start at: the cursor, and those of the rest. -/
theorem starts_chunk {cursor toBlock : Nat} (inside : cursor ≤ safeHead)
    (chunk : toBlock = min (cursor + config.blockRangeChunkSize - 1) safeHead) :
    (∀ count, cursor + count * config.blockRangeChunkSize ≤ safeHead →
        faults.getLogs contract (cursor + count * config.blockRangeChunkSize) = .none) ↔
      faults.getLogs contract cursor = .none ∧
        ∀ count, toBlock + 1 + count * config.blockRangeChunkSize ≤ safeHead →
          faults.getLogs contract (toBlock + 1 + count * config.blockRangeChunkSize) =
            .none := by
  have positive := config.chunkPositive
  have shift : ∀ count, toBlock + 1 + count * config.blockRangeChunkSize ≤ safeHead ∨
      cursor + (count + 1) * config.blockRangeChunkSize ≤ safeHead →
      toBlock + 1 + count * config.blockRangeChunkSize =
        cursor + (count + 1) * config.blockRangeChunkSize := by
    intro count within
    rw [Nat.succ_mul] at within ⊢
    omega
  constructor
  · intro fetched
    constructor
    · have first := fetched 0
      rw [Nat.zero_mul, Nat.add_zero] at first
      exact first inside
    · intro count within
      have same := shift count (Or.inl within)
      rw [same] at within ⊢
      exact fetched (count + 1) within
  · rintro ⟨first, rest⟩ count within
    cases count with
    | zero =>
        rw [Nat.zero_mul, Nat.add_zero]
        exact first
    | succ count =>
        have same := shift count (Or.inr within)
        rw [← same] at within ⊢
        exact rest count within

/-- The first chunk and the rest, which starts from the state with its
checkpoint stored. -/
theorem unhindered_chunk {cursor toBlock : Nat} (inside : cursor ≤ safeHead)
    (chunk : toBlock = min (cursor + config.blockRangeChunkSize - 1) safeHead)
    (state : State) :
    Unhindered config chain faults contract safeHead cursor state ↔
      (faults.getLogs contract cursor = .none ∧
        Along (Passable config faults contract) (State.absorbed config contract)
          (chain.getLogs contract cursor toBlock) state) ∧
      Unhindered config chain faults contract safeHead (toBlock + 1)
        (((chain.getLogs contract cursor toBlock).foldl (State.absorbed config contract)
          state).checkpointed contract toBlock) := by
  have positive := config.chunkPositive
  have whole := getLogs_append chain contract (show cursor ≤ toBlock + 1 by omega)
    (show toBlock ≤ safeHead by omega)
  constructor
  · intro free
    obtain ⟨first, rest⟩ := (starts_chunk inside chunk).mp free.fetched
    have passed := free.passed
    rw [← whole, along_append] at passed
    refine ⟨⟨first, passed.1⟩, rest, ?_⟩
    rw [along_passable_checkpointed]
    exact passed.2
  · rintro ⟨⟨first, passed⟩, rest⟩
    refine ⟨(starts_chunk inside chunk).mpr ⟨first, rest.fetched⟩, ?_⟩
    have later := rest.passed
    rw [along_passable_checkpointed] at later
    rw [← whole, along_append]
    exact ⟨passed, later⟩

variable (database : HealthyDatabase faults contract) (null : config.unknownTopic = .null)
include database null

theorem runsIff_scanChunk (cursor toBlock : Nat) :
    (scanChunk config chain faults contract cursor toBlock).RunsIff
      (fun state => faults.getLogs contract cursor = .none ∧
        Along (Passable config faults contract) (State.absorbed config contract)
          (chain.getLogs contract cursor toBlock) state)
      (fun state => ((chain.getLogs contract cursor toBlock).foldl
        (State.absorbed config contract) state).checkpointed contract toBlock) := by
  unfold scanChunk
  apply runsIff_read
  have each : ∀ log, (dispatch config faults contract log).RunsIff
      (fun state => Passable config faults contract state log)
      (fun state => state.absorbed config contract log) := by
    intro log
    exact (runsIff_dispatch log).congr
      (fun state => (accepts_iff_passable database null state log).symm) (fun _ _ => rfl)
  have logs := runsIff_forEach (chain.getLogs contract cursor toBlock) each
  have stored : (setLastProcessedBlock faults contract toBlock).RunsIff
      (fun _ => faults.writeCheckpoint contract toBlock = .none)
      (fun state => state.checkpointed contract toBlock) := by
    unfold setLastProcessedBlock
    exact (runsIff_request _).congr (fun _ => Iff.rfl) (fun _ _ => rfl)
  refine (logs.bind stored).congr ?_ (fun _ _ => rfl)
  intro state
  exact (and_iff_left (database.writeCheckpoint toBlock)).symm

/-- The loop runs to its end exactly when nothing is in its way; it has then
absorbed all logs from the cursor on and stored the safe head. -/
theorem runsIff_scanFrom (rounds cursor : Nat) (enough : safeHead + 1 ≤ cursor + rounds) :
    (scanFrom config chain faults contract safeHead rounds cursor).RunsIff
      (Unhindered config chain faults contract safeHead cursor)
      (fun state => if cursor ≤ safeHead then
        ((chain.getLogs contract cursor safeHead).foldl (State.absorbed config contract)
          state).checkpointed contract safeHead
        else state) := by
  induction rounds generalizing cursor with
  | zero =>
      have past : safeHead < cursor := by omega
      refine runsIff_pure.congr ?_ ?_
      · intro state
        exact iff_of_true (unhindered_past past state) trivial
      · intro state _
        exact if_neg (Nat.not_le_of_lt past)
  | succ rounds ih =>
      unfold scanFrom
      by_cases inside : cursor ≤ safeHead
      · rw [if_pos inside]
        have positive := config.chunkPositive
        obtain ⟨toBlock, chunk⟩ : ∃ toBlock, toBlock =
            min (cursor + config.blockRangeChunkSize - 1) safeHead := ⟨_, rfl⟩
        rw [← chunk]
        have rest := ih (toBlock + 1) (by omega)
        have first := @runsIff_scanChunk config chain faults contract database null cursor toBlock
        refine (first.bind rest).congr (unhindered_chunk inside chunk) ?_
        intro state _
        have whole := getLogs_append chain contract (show cursor ≤ toBlock + 1 by omega)
          (show toBlock ≤ safeHead by omega)
        simp only [if_pos inside]
        rw [← whole, List.foldl_append, foldl_absorbed_checkpointed, checkpointed_checkpointed]
        by_cases more : toBlock + 1 ≤ safeHead
        · rw [if_pos more]
        · have last : toBlock = safeHead := by omega
          have nothing := getLogs_past chain contract (Nat.lt_of_not_le more)
          rw [if_neg more, nothing, List.foldl_nil, last]
      · rw [if_neg inside]
        refine runsIff_pure.congr ?_ ?_
        · intro state
          exact iff_of_true (unhindered_past (Nat.lt_of_not_le inside) state) trivial
        · intro state _
          exact if_neg inside

end Scan

/-! ### The whole scan -/

/-- The scan finishes with the declared events of its range dispatched in log
order, every other log ignored, and the checkpoint at the safe head. -/
def ScansRange (config : Config) (chain : Chain) (faults : Faults) (contract : Contract)
    (currentHead : Nat) (state : State) : Prop :=
  (scanContract config chain faults contract currentHead state).Completed ∧
    (scanContract config chain faults contract currentHead state).state =
      (processLogs config contract
        (chain.getLogs contract (resumeBlock config contract state)
          (config.safeHead currentHead)) state).state.checkpointed contract
            (config.safeHead currentHead)

theorem healthyDatabase_none (contract : Contract) : HealthyDatabase Faults.none contract :=
  ⟨rfl, fun _ => rfl, fun _ => rfl, fun _ => rfl⟩

/-- Dispatching passable logs in order amounts to absorbing all of them. -/
theorem processLogs_absorbed {config : Config} (null : config.unknownTopic = .null)
    {contract : Contract} {logs : List Log} {state : State}
    (passed : Along (Passable config Faults.none contract) (State.absorbed config contract) logs
      state) :
    (processLogs config contract logs state).state =
      logs.foldl (State.absorbed config contract) state := by
  have declared : ∀ state log, Passable config Faults.none contract state log →
      parseLog contract log.emitted ≠ none := by
    rintro _ log ⟨⟨event, parsed, _⟩, _⟩
    rw [parsed]
    exact Option.some_ne_none event
  have all : logs.filter (fun log => parseLog contract log.emitted ≠ none) = logs :=
    List.filter_eq_self.mpr
      (fun log member => decide_eq_true (along_forall declared passed log member))
  have known := runsIff_forEach logs (@runsIff_dispatch config Faults.none contract)
  have accepted := along_mono (fun state log passable =>
    (accepts_iff_passable (healthyDatabase_none contract) null state log).mpr passable) passed
  unfold processLogs
  rw [all, known.runs state accepted]

/-- A scan with a healthy database does what it is for exactly when the provider
answers and either the checkpoint is at the safe head already, or there are
blocks to scan and every log in them is of a declared event, has values that the
database accepts and makes no report that throws. -/
theorem scansRange_iff (config : Config) (null : config.unknownTopic = .null) (chain : Chain)
    (faults : Faults) (contract : Contract) (database : HealthyDatabase faults contract)
    (currentHead : Nat) (state : State) :
    ScansRange config chain faults contract currentHead state ↔
      faults.blockNumber contract = .none ∧
        (state.checkpoints contract = some (config.safeHead currentHead) ∨
          (resumeBlock config contract state ≤ config.safeHead currentHead ∧
            Unhindered config chain faults contract (config.safeHead currentHead)
              (resumeBlock config contract state) state)) := by
  unfold ScansRange
  by_cases answered : faults.blockNumber contract = .none
  · rw [and_iff_right answered, scanContract_eq answered database.readCheckpoint]
    have known := @runsIff_scanFrom config chain faults contract (config.safeHead currentHead)
      database null (config.safeHead currentHead + 1 - resumeBlock config contract state)
      (resumeBlock config contract state) (by omega)
    by_cases inside : resumeBlock config contract state ≤ config.safeHead currentHead
    · constructor
      · rintro ⟨completed, _⟩
        exact Or.inr ⟨inside, (known.completed_iff state).mp completed⟩
      · rintro (stored | ⟨_, free⟩)
        · rw [resumeBlock, stored] at inside
          exact absurd inside (Nat.not_succ_le_self _)
        · refine ⟨(known.completed_iff state).mpr free, ?_⟩
          have passed := along_mono (fun _ _ passable => passable.unfailing) free.passed
          rw [known.runs state free, if_pos inside, processLogs_absorbed null passed]
    · have free := @unhindered_past config chain faults contract _ _
        (Nat.lt_of_not_le inside) state
      have nothing : (processLogs config contract [] state).state = state := rfl
      rw [known.runs state free, if_neg inside,
        getLogs_past chain contract (Nat.lt_of_not_le inside), nothing]
      constructor
      · rintro ⟨_, same⟩
        have stored := congrFun (congrArg State.checkpoints same) contract
        exact Or.inl (stored.trans (Function.update_self ..))
      · rintro (stored | ⟨impossible, _⟩)
        · refine ⟨nofun, ?_⟩
          rw [State.checkpointed, ← stored, Function.update_eq_self]
        · exact absurd impossible inside
  · constructor
    · rintro ⟨completed, _⟩
      exact absurd completed (scanContract_unanswered answered currentHead state)
    · rintro ⟨impossible, _⟩
      exact absurd impossible answered

section Sample

theorem scansRange_iff_sample :
    ScansRange sampleConfig sampleChain Faults.none .claimRegistry 20 State.empty :=
  (scansRange_iff sampleConfig rfl sampleChain Faults.none .claimRegistry
    (healthyDatabase_none .claimRegistry) 20 State.empty).mpr
    ⟨rfl, Or.inr ⟨by decide, fun _ _ => rfl,
      ⟨⟨_, rfl, by decide, fun _ => by decide⟩, fun _ _ => rfl⟩, trivial⟩⟩

def grantLog : Log :=
  { transactionHash := 76
    index := 0
    blockNumber := 2
    emitted := .registry (.roleChanged (.grantRole .underwriter 0xD1)) }

/-- A role is granted one block before the first claim. -/
def grantChain : Chain where
  logs contract :=
    match contract with
    | .insurancePolicy => []
    | .claimRegistry => [grantLog, sampleLog]
  ordered contract := by
    cases contract with
    | insurancePolicy => exact List.Pairwise.nil
    | claimRegistry => decide
  identified := by decide

def decisionLog : Log :=
  { transactionHash := 78
    index := 0
    blockNumber := 4
    emitted := .registry (.claimStatusChanged 1 .approved) }

/-- The claim is approved one block later. -/
def decisionChain : Chain where
  logs contract :=
    match contract with
    | .insurancePolicy => []
    | .claimRegistry => [sampleLog, decisionLog]
  ordered contract := by
    cases contract with
    | insurancePolicy => exact List.Pairwise.nil
    | claimRegistry => decide
  identified := by decide

/-- The grant ends the scan, and so does the approval; the checkpoint is not
stored. -/
theorem role_grant_and_decision_stop_scan :
    (¬(scanContract sampleConfig grantChain Faults.none .claimRegistry 20 State.empty).Completed ∧
      (scanContract sampleConfig grantChain Faults.none .claimRegistry 20
        State.empty).state.checkpoints .claimRegistry = none ∧
      ¬ScansRange sampleConfig grantChain Faults.none .claimRegistry 20 State.empty) ∧
    (¬(scanContract sampleConfig decisionChain Faults.none .claimRegistry 20
        State.empty).Completed ∧
      (scanContract sampleConfig decisionChain Faults.none .claimRegistry 20
        State.empty).state.checkpoints .claimRegistry = none ∧
      ¬ScansRange sampleConfig decisionChain Faults.none .claimRegistry 20 State.empty) := by
  have granted : ¬(scanContract sampleConfig grantChain Faults.none .claimRegistry 20
      State.empty).Completed := by decide
  have decided : ¬(scanContract sampleConfig decisionChain Faults.none .claimRegistry 20
      State.empty).Completed := by decide
  exact ⟨⟨granted, by decide, fun scans => granted scans.1⟩,
    ⟨decided, by decide, fun scans => decided scans.1⟩⟩

end Sample

end Dics.Indexer
