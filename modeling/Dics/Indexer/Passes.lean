/-
Whole histories of scans.

The provider's head may grow, stand still or fall back between two scans, and
the scans of the two contracts may alternate in any way.  Scans that run to
their end ask for every block from the deploy block on exactly once.
-/

import Dics.Indexer.Scan
import Dics.Lib.Tilings

open Scripts Tilings

namespace Dics.Indexer

/-! ### The ranges a scan asks for -/

/-- The ranges of the `while` loop, round by round. -/
def chunkRanges (config : Config) (safeHead : Nat) : Nat → Nat → List Range
  | 0, _ => []
  | rounds + 1, cursor =>
      if cursor ≤ safeHead then
        let toBlock := min (cursor + config.blockRangeChunkSize - 1) safeHead
        (cursor, toBlock) :: chunkRanges config safeHead rounds (toBlock + 1)
      else []

/-- The ranges of a scan that starts in the given state. -/
def scanRanges (config : Config) (contract : Contract) (currentHead : Nat) (state : State) :
    List Range :=
  chunkRanges config (config.safeHead currentHead)
    (config.safeHead currentHead + 1 - resumeBlock config contract state)
    (resumeBlock config contract state)

section Ranges

variable (config : Config) (chain : Chain) (faults : Faults) (contract : Contract)

/-- The loop is its chunks, one after the other. -/
theorem scanFrom_eq_forEach (safeHead rounds cursor : Nat) :
    scanFrom config chain faults contract safeHead rounds cursor =
      forEach (fun range => scanChunk config chain faults contract range.1 range.2)
        (chunkRanges config safeHead rounds cursor) := by
  induction rounds generalizing cursor with
  | zero => rfl
  | succ rounds ih =>
      unfold scanFrom chunkRanges
      by_cases inside : cursor ≤ safeHead
      · rw [if_pos inside, if_pos inside]
        dsimp only
        rw [ih]
        rfl
      · rw [if_neg inside, if_neg inside]
        rfl

/-- Enough rounds tile everything up to the safe head. -/
theorem chunkRanges_tiles {safeHead rounds cursor : Nat}
    (enough : safeHead + 1 ≤ cursor + rounds) :
    Tiles cursor (max cursor (safeHead + 1)) (chunkRanges config safeHead rounds cursor) := by
  have positive := config.chunkPositive
  induction rounds generalizing cursor with
  | zero =>
      rw [Nat.max_eq_left (by omega)]
      exact .nil cursor
  | succ rounds ih =>
      unfold chunkRanges
      by_cases inside : cursor ≤ safeHead
      · rw [if_pos inside]
        obtain ⟨toBlock, chunk⟩ : ∃ toBlock, toBlock =
            min (cursor + config.blockRangeChunkSize - 1) safeHead := ⟨_, rfl⟩
        have rest := @ih (toBlock + 1) (by omega)
        rw [Nat.max_eq_right (show toBlock + 1 ≤ safeHead + 1 by omega)] at rest
        rw [Nat.max_eq_right (show cursor ≤ safeHead + 1 by omega), ← chunk]
        exact .cons (by omega) rest
      · rw [if_neg inside, Nat.max_eq_left (by omega)]
        exact .nil cursor

/-- Further rounds find nothing to do: the loop has ended by its own condition. -/
theorem chunkRanges_more {safeHead rounds cursor : Nat}
    (enough : safeHead + 1 ≤ cursor + rounds) (more : Nat) :
    chunkRanges config safeHead (rounds + more) cursor =
      chunkRanges config safeHead rounds cursor := by
  have positive := config.chunkPositive
  induction rounds generalizing cursor with
  | zero =>
      cases more with
      | zero => rfl
      | succ more =>
          have past : ¬cursor ≤ safeHead := by omega
          rw [Nat.zero_add, chunkRanges, chunkRanges, if_neg past]
  | succ rounds ih =>
      rw [Nat.succ_add, chunkRanges, chunkRanges]
      by_cases inside : cursor ≤ safeHead
      · rw [if_pos inside, if_pos inside]
        dsimp only
        rw [ih (by omega)]
      · rw [if_neg inside, if_neg inside]

end Ranges

/-! ### What a scan has done when it ran to its end -/

/-- A log the loop gets past when no request of its handler fails. -/
def Harmless (config : Config) (contract : Contract) (log : Log) : Prop :=
  Known config contract log ∧ Acceptable contract log

theorem Harmless.accepts {config : Config} {contract : Contract} {log : Log}
    (harmless : Harmless config contract log) (state : State) :
    Accepts config Faults.none contract state log := by
  refine ⟨harmless.1, ?_⟩
  intro event parsed
  obtain ⟨recordable, fits⟩ := harmless.2 event parsed
  exact ⟨onRawInsert_none recordable,
    fun _ => ⟨onStateWrite_none recordable fits, fun _ _ => rfl⟩⟩

/-- Every log with a stored raw event is acceptable. -/
def Vetted (chain : Chain) (contract : Contract) (state : State) : Prop :=
  ∀ log ∈ chain.logs contract, state.events log.key ≠ none → Acceptable contract log

theorem Accepts.harmless {config : Config} {chain : Chain} {faults : Faults}
    {contract : Contract} {state : State} {log : Log} (vetted : Vetted chain contract state)
    (member : log ∈ chain.logs contract) (accepts : Accepts config faults contract state log) :
    Harmless config contract log := by
  refine ⟨accepts.1, ?_⟩
  by_cases seen : state.events log.key = none
  · intro event parsed
    obtain ⟨inserted, written⟩ := accepts.2 event parsed
    have recordable := (onRawInsert_eq_none_iff.mp inserted).1
    exact ⟨recordable, ((onStateWrite_eq_none_iff recordable.2.2).mp (written seen).1).1⟩
  · exact vetted log member seen

section Chunks

variable {config : Config} {chain : Chain} {faults : Faults} {contract : Contract}

/-- A chunk absorbs its logs and stores its last block. -/
def State.chunkScanned (config : Config) (chain : Chain) (contract : Contract) (state : State)
    (range : Range) : State :=
  ((chain.getLogs contract range.1 range.2).foldl (State.absorbed config contract)
    state).checkpointed contract range.2

def ChunkAccepts (config : Config) (chain : Chain) (faults : Faults) (contract : Contract)
    (state : State) (range : Range) : Prop :=
  faults.getLogs contract range.1 = .none ∧
    Along (Accepts config faults contract) (State.absorbed config contract)
      (chain.getLogs contract range.1 range.2) state ∧
    faults.writeCheckpoint contract range.2 = .none

theorem runsIff_scanChunk_accepts (range : Range) :
    (scanChunk config chain faults contract range.1 range.2).RunsIff
      (fun state => ChunkAccepts config chain faults contract state range)
      (fun state => state.chunkScanned config chain contract range) := by
  unfold scanChunk
  apply runsIff_read
  have logs := @runsIff_forEach State Log (Accepts config faults contract)
    (State.absorbed config contract) (dispatch config faults contract)
    (chain.getLogs contract range.1 range.2) runsIff_dispatch
  have stored : (setLastProcessedBlock faults contract range.2).RunsIff
      (fun _ => faults.writeCheckpoint contract range.2 = .none)
      (fun state => state.checkpointed contract range.2) := by
    unfold setLastProcessedBlock
    exact (runsIff_request _).congr (fun _ => Iff.rfl) (fun _ _ => rfl)
  exact logs.bind stored

theorem chunkScanned_chunkScanned {first middle last : Nat} (filled : first ≤ middle)
    (behind : middle ≤ last) (state : State) :
    (state.chunkScanned config chain contract (first, middle)).chunkScanned config chain contract
        (middle + 1, last) =
      state.chunkScanned config chain contract (first, last) := by
  have whole := getLogs_append chain contract (show first ≤ middle + 1 by omega) behind
  simp only [State.chunkScanned]
  rw [foldl_absorbed_checkpointed, checkpointed_checkpointed, ← whole, List.foldl_append]

/-- The chunks of a tiling amount to one. -/
theorem foldl_chunkScanned {start stop : Nat} {ranges : List Range}
    (tiles : Tiles start (stop + 1) ranges) (blocks : start ≤ stop) (state : State) :
    ranges.foldl (State.chunkScanned config chain contract) state =
      state.chunkScanned config chain contract (start, stop) := by
  obtain ⟨beyond, last⟩ : ∃ beyond, beyond = stop + 1 := ⟨_, rfl⟩
  rw [← last] at tiles
  induction tiles generalizing state with
  | nil start => omega
  | @cons first middle beyond rest filled tail ih =>
      rw [List.foldl_cons]
      have behind := tail.le
      by_cases more : middle + 1 ≤ stop
      · rw [ih more _ last]
        exact chunkScanned_chunkScanned filled (by omega) state
      · -- Nothing is left behind the first range.
        have same : middle = stop := by omega
        rw [last, same] at tail
        cases tail with
        | nil => rw [same, List.foldl_nil]
        | cons impossible after =>
            have past := after.le
            omega

theorem foldl_chunkScanned_max {start safeHead : Nat} {ranges : List Range}
    (tiles : Tiles start (max start (safeHead + 1)) ranges) (state : State) :
    ranges.foldl (State.chunkScanned config chain contract) state =
      if start ≤ safeHead then state.chunkScanned config chain contract (start, safeHead)
      else state := by
  by_cases inside : start ≤ safeHead
  · rw [if_pos inside]
    rw [Nat.max_eq_right (by omega)] at tiles
    exact foldl_chunkScanned tiles inside state
  · rw [if_neg inside]
    rw [Nat.max_eq_left (by omega)] at tiles
    cases tiles with
    | nil => rfl
    | cons filled tail =>
        have behind := tail.le
        omega

end Chunks

/-! ### One scan -/

section Scan

variable {config : Config} {chain : Chain} {faults : Faults} {contract : Contract}
  {currentHead : Nat}

/-- The state a scan leaves that ran to its end. -/
def State.scanned (config : Config) (chain : Chain) (contract : Contract) (currentHead : Nat)
    (state : State) : State :=
  if resumeBlock config contract state ≤ config.safeHead currentHead then
    state.chunkScanned config chain contract
      (resumeBlock config contract state, config.safeHead currentHead)
  else state

theorem scanRanges_tiles (config : Config) (contract : Contract) (currentHead : Nat)
    (state : State) :
    Tiles (resumeBlock config contract state)
      (max (resumeBlock config contract state) (config.safeHead currentHead + 1))
      (scanRanges config contract currentHead state) :=
  chunkRanges_tiles config (by omega)

theorem foldl_scanRanges (state : State) :
    (scanRanges config contract currentHead state).foldl
        (State.chunkScanned config chain contract) state =
      state.scanned config chain contract currentHead :=
  foldl_chunkScanned_max (scanRanges_tiles config contract currentHead state) state

/-- A scan asks for its ranges one after the other. -/
theorem scanContract_eq_forEach (answered : faults.blockNumber contract = .none)
    (read : faults.readCheckpoint contract = .none) (state : State) :
    scanContract config chain faults contract currentHead state =
      forEach (fun range => scanChunk config chain faults contract range.1 range.2)
        (scanRanges config contract currentHead state) state := by
  rw [scanContract_eq answered read, scanFrom_eq_forEach]
  rfl

theorem scanContract_unread (unread : faults.readCheckpoint contract ≠ .none) (state : State) :
    ¬(scanContract config chain faults contract currentHead state).Completed := by
  by_cases answered : faults.blockNumber contract = .none
  · unfold scanContract getLastProcessedBlock
    rw [answered]
    cases fault : faults.readCheckpoint contract with
    | none => exact absurd fault unread
    | lost => exact fun completed => completed rfl
    | late => exact fun completed => completed rfl
  · exact scanContract_unanswered answered currentHead state

structure ScanCompleted (config : Config) (chain : Chain) (faults : Faults)
    (contract : Contract) (currentHead : Nat) (state : State) : Prop where
  answered : faults.blockNumber contract = .none
  read : faults.readCheckpoint contract = .none
  after : (scanContract config chain faults contract currentHead state).state =
    state.scanned config chain contract currentHead
  passed : Along (ChunkAccepts config chain faults contract)
    (State.chunkScanned config chain contract) (scanRanges config contract currentHead state) state

theorem scanContract_completed {state : State}
    (completed : (scanContract config chain faults contract currentHead state).Completed) :
    ScanCompleted config chain faults contract currentHead state := by
  have answered : faults.blockNumber contract = .none := by
    by_contra unanswered
    exact scanContract_unanswered unanswered currentHead state completed
  have read : faults.readCheckpoint contract = .none := by
    by_contra unread
    exact scanContract_unread unread state completed
  have asks := @scanContract_eq_forEach config chain faults contract currentHead answered read
    state
  have ranges := @runsIff_forEach State Range (ChunkAccepts config chain faults contract)
    (State.chunkScanned config chain contract) _
    (scanRanges config contract currentHead state) runsIff_scanChunk_accepts
  rw [asks] at completed
  have accepted := (ranges.completed_iff state).mp completed
  refine ⟨answered, read, ?_, accepted⟩
  rw [asks, ranges.runs state accepted]
  exact foldl_scanRanges state

/-- Nothing but a log stops a scan whose requests all succeed. -/
theorem scanContract_none {state : State}
    (harmless : ∀ range ∈ scanRanges config contract currentHead state,
      ∀ log ∈ chain.getLogs contract range.1 range.2, Harmless config contract log) :
    scanContract config chain Faults.none contract currentHead state =
      ⟨state.scanned config chain contract currentHead, some ()⟩ := by
  have ranges := @runsIff_forEach State Range (ChunkAccepts config chain Faults.none contract)
    (State.chunkScanned config chain contract) _
    (scanRanges config contract currentHead state) runsIff_scanChunk_accepts
  have accepted : Along (ChunkAccepts config chain Faults.none contract)
      (State.chunkScanned config chain contract)
      (scanRanges config contract currentHead state) state := by
    apply along_of_forall
    intro range member before
    refine ⟨rfl, ?_, rfl⟩
    apply along_of_forall
    intro log fetched middle
    exact (harmless range member log fetched).accepts middle
  rw [scanContract_eq_forEach rfl rfl, ranges.runs state accepted, foldl_scanRanges]

theorem checkpoints_foldl_absorbed (logs : List Log) (state : State) :
    (logs.foldl (State.absorbed config contract) state).checkpoints = state.checkpoints := by
  induction logs generalizing state with
  | nil => rfl
  | cons log rest ih =>
      rw [List.foldl_cons, ih]
      unfold State.absorbed
      cases parseLog contract log.emitted with
      | none => rfl
      | some event =>
          cases state.events log.key with
          | some raw => rfl
          | none =>
              simp only [State.notified]
              cases (event.query log state.tables).2 with
              | none => rfl
              | some notification =>
                  by_cases backend : config.backendUrl = true
                  · simp only [if_pos backend]
                    rfl
                  · simp only [if_neg backend]
                    rfl

theorem checkpoints_chunkScanned (range : Range) (state : State) :
    (state.chunkScanned config chain contract range).checkpoints =
      Function.update state.checkpoints contract (some range.2) := by
  simp only [State.chunkScanned, State.checkpointed, checkpoints_foldl_absorbed]

theorem resumeBlock_scanned (state : State) :
    resumeBlock config contract (state.scanned config chain contract currentHead) =
      max (resumeBlock config contract state) (config.safeHead currentHead + 1) := by
  unfold State.scanned
  by_cases inside : resumeBlock config contract state ≤ config.safeHead currentHead
  · rw [if_pos inside, Nat.max_eq_right (by omega)]
    simp only [resumeBlock, checkpoints_chunkScanned, Function.update_self]
  · rw [if_neg inside, Nat.max_eq_left (by omega)]

theorem checkpoints_scanned_other {other : Contract} (distinct : other ≠ contract)
    (state : State) :
    (state.scanned config chain contract currentHead).checkpoints other =
      state.checkpoints other := by
  unfold State.scanned
  by_cases inside : resumeBlock config contract state ≤ config.safeHead currentHead
  · rw [if_pos inside, checkpoints_chunkScanned, Function.update_of_ne distinct]
  · rw [if_neg inside]

theorem checkpoint_grows (other : Contract) (state : State) {block : Nat}
    (stored : state.checkpoints other = some block) :
    ∃ later, block ≤ later ∧
      (state.scanned config chain contract currentHead).checkpoints other = some later := by
  by_cases same : other = contract
  · rw [same] at stored ⊢
    unfold State.scanned
    have resumes : resumeBlock config contract state = block + 1 := by
      simp only [resumeBlock, stored]
    by_cases inside : resumeBlock config contract state ≤ config.safeHead currentHead
    · rw [if_pos inside, checkpoints_chunkScanned, Function.update_self]
      exact ⟨_, by omega, rfl⟩
    · rw [if_neg inside]
      exact ⟨block, Nat.le_refl _, stored⟩
  · rw [checkpoints_scanned_other same]
    exact ⟨block, Nat.le_refl _, stored⟩

end Scan

/-! ### Histories of scans -/

/-- One call of `scanContract`, with the head it sees and what happens to its
requests. -/
structure Scan where
  contract : Contract
  head : Nat
  faults : Faults

def Scan.run (config : Config) (chain : Chain) (scan : Scan) : Script State Unit :=
  scanContract config chain scan.faults scan.contract scan.head

def afterScan (config : Config) (chain : Chain) (state : State) (scan : Scan) : State :=
  (scan.run config chain state).state

def runScans (config : Config) (chain : Chain) (scans : List Scan) (state : State) : State :=
  scans.foldl (afterScan config chain) state

/-- Every scan of the history runs to its end. -/
def AllComplete (config : Config) (chain : Chain) (scans : List Scan) (state : State) : Prop :=
  Along (fun state scan => (scan.run config chain state).Completed) (afterScan config chain)
    scans state

/-- The ranges the history asks for in the logs of one contract. -/
def requested (config : Config) (chain : Chain) (contract : Contract) :
    List Scan → State → List Range
  | [], _ => []
  | scan :: rest, state =>
      (if scan.contract = contract then scanRanges config contract scan.head state else []) ++
        requested config chain contract rest (afterScan config chain state scan)

/-- The rows one contract's logs lead to are the same in both states. -/
structure SameShare (chain : Chain) (contract : Contract) (left right : State) : Prop where
  events : ∀ log ∈ chain.logs contract, left.events log.key = right.events log.key
  tables : left.tables.part contract = right.tables.part contract

section Share

variable {config : Config} {chain : Chain} {contract other : Contract} {left right : State}

theorem events_notified (notification : Option Notification) (state : State) :
    (state.notified config notification).events = state.events := by
  unfold State.notified
  cases notification with
  | none => rfl
  | some notification =>
      dsimp only
      split <;> rfl

theorem tables_notified (notification : Option Notification) (state : State) :
    (state.notified config notification).tables = state.tables := by
  unfold State.notified
  cases notification with
  | none => rfl
  | some notification =>
      dsimp only
      split <;> rfl

theorem sameShare_absorbed {log : Log} (member : log ∈ chain.logs contract)
    (same : SameShare chain contract left right) :
    SameShare chain contract (left.absorbed config contract log)
      (right.absorbed config contract log) := by
  unfold State.absorbed
  cases parsed : parseLog contract log.emitted with
  | none => exact same
  | some event =>
      rw [same.events log member]
      cases right.events log.key with
      | some raw => exact same
      | none =>
          constructor
          · intro item listed
            simp only [events_notified, State.mirrored, State.recorded]
            by_cases here : item.key = log.key
            · rw [here, Function.update_self, Function.update_self]
            · rw [Function.update_of_ne here, Function.update_of_ne here]
              exact same.events item listed
          · simp only [tables_notified, State.mirrored]
            rw [query_part, same.tables, ← query_part]

theorem sameShare_absorbed_other (distinct : other ≠ contract) {log : Log}
    (member : log ∈ chain.logs other) (same : SameShare chain contract left right) :
    SameShare chain contract (left.absorbed config other log) right := by
  unfold State.absorbed
  cases parsed : parseLog other log.emitted with
  | none => exact same
  | some event =>
      cases left.events log.key with
      | some raw => exact same
      | none =>
          constructor
          · intro item listed
            have apart := key_ne_of_other distinct member listed
            simp only [events_notified, State.mirrored, State.recorded]
            rw [Function.update_of_ne apart]
            exact same.events item listed
          · simp only [tables_notified, State.mirrored]
            rw [query_part_other distinct log parsed]
            exact same.tables

theorem mem_logs_of_mem_getLogs {first last : Nat} {log : Log}
    (fetched : log ∈ chain.getLogs contract first last) : log ∈ chain.logs contract :=
  (List.mem_filter.mp fetched).1

theorem sameShare_chunkScanned (range : Range) (same : SameShare chain contract left right) :
    SameShare chain contract (left.chunkScanned config chain contract range)
      (right.chunkScanned config chain contract range) := by
  have after : SameShare chain contract
      ((chain.getLogs contract range.1 range.2).foldl (State.absorbed config contract) left)
      ((chain.getLogs contract range.1 range.2).foldl (State.absorbed config contract) right) :=
    List.foldl_rel same (fun _ fetched _ _ before =>
      sameShare_absorbed (mem_logs_of_mem_getLogs fetched) before)
  exact ⟨after.events, after.tables⟩

theorem sameShare_chunkScanned_other (distinct : other ≠ contract) (range : Range)
    (same : SameShare chain contract left right) :
    SameShare chain contract (left.chunkScanned config chain other range) right := by
  have after : SameShare chain contract
      ((chain.getLogs other range.1 range.2).foldl (State.absorbed config other) left) right := by
    refine @List.foldlRecOn _ _ (fun state => SameShare chain contract state right) _ _ _ same ?_
    intro state before log fetched
    exact sameShare_absorbed_other distinct (mem_logs_of_mem_getLogs fetched) before
  exact ⟨after.events, after.tables⟩

theorem sameShare_foldl_chunkScanned (ranges : List Range)
    (same : SameShare chain contract left right) :
    SameShare chain contract
      (ranges.foldl (State.chunkScanned config chain contract) left)
      (ranges.foldl (State.chunkScanned config chain contract) right) :=
  List.foldl_rel same (fun range _ _ _ before => sameShare_chunkScanned range before)

theorem sameShare_scanned_other (distinct : other ≠ contract) (currentHead : Nat)
    (same : SameShare chain contract left right) :
    SameShare chain contract (left.scanned config chain other currentHead) right := by
  unfold State.scanned
  split
  · exact sameShare_chunkScanned_other distinct _ same
  · exact same

theorem vetted_absorbed {state : State} {log : Log} (member : log ∈ chain.logs contract)
    (acceptable : Acceptable contract log) (vetted : Vetted chain contract state) :
    Vetted chain contract (state.absorbed config contract log) := by
  intro item listed seen
  by_cases here : item.key = log.key
  · have same := List.inj_on_of_nodup_map (keys_nodup chain contract) listed member here
    rw [same]
    exact acceptable
  · apply vetted item listed
    unfold State.absorbed at seen
    cases parsed : parseLog contract log.emitted with
    | none =>
        rw [parsed] at seen
        exact seen
    | some event =>
        rw [parsed] at seen
        cases stored : state.events log.key with
        | some raw =>
            rw [stored] at seen
            exact seen
        | none =>
            simp only [stored, events_notified, State.mirrored, State.recorded,
              Function.update_of_ne here] at seen
            exact seen

theorem Vetted.of_sameShare (vetted : Vetted chain contract right)
    (same : SameShare chain contract left right) : Vetted chain contract left := by
  intro log listed seen
  rw [same.events log listed] at seen
  exact vetted log listed seen

/-- A scan that runs to its end has met harmless logs only. -/
theorem ScanCompleted.harmless {faults : Faults} {currentHead : Nat} {state : State}
    (done : ScanCompleted config chain faults contract currentHead state)
    (vetted : Vetted chain contract state) :
    (∀ range ∈ scanRanges config contract currentHead state,
      ∀ log ∈ chain.getLogs contract range.1 range.2, Harmless config contract log) ∧
      Vetted chain contract (state.scanned config chain contract currentHead) := by
  rw [← foldl_scanRanges]
  apply along_keeps done.passed vetted
  intro range _ before vetted accepts
  refine along_keeps accepts.2.1 vetted ?_
  intro log fetched middle held accepted
  have member := mem_logs_of_mem_getLogs fetched
  have harmless := accepted.harmless held member
  exact ⟨harmless, vetted_absorbed member harmless.2 held⟩

end Share

section History

variable {config : Config} {chain : Chain} {contract : Contract}

theorem afterScan_completed {scan : Scan} {state : State}
    (completed : (scan.run config chain state).Completed) :
    afterScan config chain state scan =
      state.scanned config chain scan.contract scan.head :=
  (scanContract_completed completed).after

theorem resumeBlock_afterScan {scan : Scan} {state : State}
    (completed : (scan.run config chain state).Completed) :
    resumeBlock config contract (afterScan config chain state scan) =
      if scan.contract = contract then
        max (resumeBlock config contract state) (config.safeHead scan.head + 1)
      else resumeBlock config contract state := by
  rw [afterScan_completed completed]
  by_cases same : scan.contract = contract
  · rw [if_pos same, same, resumeBlock_scanned]
  · rw [if_neg same]
    unfold resumeBlock
    rw [checkpoints_scanned_other (Ne.symm same)]

/-- The ranges of the history lie end to end, from the first block to scan to the
next one. -/
theorem requested_tiles {scans : List Scan} {state : State}
    (completes : AllComplete config chain scans state) :
    Tiles (resumeBlock config contract state)
      (resumeBlock config contract (runScans config chain scans state))
      (requested config chain contract scans state) := by
  induction scans generalizing state with
  | nil => exact .nil _
  | cons scan rest ih =>
      have later := ih completes.2
      rw [resumeBlock_afterScan completes.1] at later
      unfold requested
      by_cases same : scan.contract = contract
      · rw [if_pos same] at later ⊢
        exact (scanRanges_tiles config contract scan.head state).append later
      · rw [if_neg same] at later ⊢
        exact later

theorem lt_resumeBlock_runScans {scans : List Scan} {state : State}
    (completes : AllComplete config chain scans state) (block : Nat) :
    block < resumeBlock config contract (runScans config chain scans state) ↔
      block < resumeBlock config contract state ∨
        ∃ scan ∈ scans, scan.contract = contract ∧ block ≤ config.safeHead scan.head := by
  induction scans generalizing state with
  | nil => simp [runScans]
  | cons scan rest ih =>
      have later := ih completes.2
      rw [resumeBlock_afterScan completes.1] at later
      refine later.trans ?_
      simp only [List.mem_cons, or_and_right, exists_or, exists_eq_left]
      by_cases same : scan.contract = contract
      · rw [if_pos same, lt_max_iff, Nat.lt_succ_iff, or_assoc, and_iff_right same]
      · rw [if_neg same]
        simp only [same, false_and, false_or]

/-- Every log the history asked for is one a scan gets past. -/
theorem harmless_requested {scans : List Scan} {state : State}
    (completes : AllComplete config chain scans state) (vetted : Vetted chain contract state) :
    ∀ range ∈ requested config chain contract scans state,
      ∀ log ∈ chain.getLogs contract range.1 range.2, Harmless config contract log := by
  induction scans generalizing state with
  | nil => exact List.forall_mem_nil _
  | cons scan rest ih =>
      intro range member
      have done := scanContract_completed completes.1
      unfold requested at member
      by_cases same : scan.contract = contract
      · rw [same] at done
        obtain ⟨harmless, kept⟩ := done.harmless vetted
        rw [if_pos same] at member
        rcases List.mem_append.mp member with here | later
        · exact harmless range here
        · apply ih completes.2 ?_ range later
          rw [afterScan_completed completes.1, same]
          exact kept
      · rw [if_neg same, List.nil_append] at member
        apply ih completes.2 ?_ range member
        rw [afterScan_completed completes.1]
        exact vetted.of_sameShare
          (sameShare_scanned_other same scan.head ⟨fun _ _ => rfl, rfl⟩)

/-- For one contract's rows the history is its ranges, chunk after chunk. -/
theorem sameShare_runScans {scans : List Scan} {left right : State}
    (completes : AllComplete config chain scans left)
    (same : SameShare chain contract left right) :
    SameShare chain contract (runScans config chain scans left)
      ((requested config chain contract scans left).foldl
        (State.chunkScanned config chain contract) right) := by
  induction scans generalizing left right with
  | nil => exact same
  | cons scan rest ih =>
      unfold requested
      rw [List.foldl_append]
      apply ih completes.2
      rw [afterScan_completed completes.1]
      by_cases own : scan.contract = contract
      · rw [if_pos own, own, ← foldl_scanRanges]
        exact sameShare_foldl_chunkScanned _ same
      · rw [if_neg own]
        exact sameShare_scanned_other own scan.head same

/-- No row of `onchain_events` is of anything but a log. -/
def OnlyLogs (chain : Chain) (state : State) : Prop :=
  ∀ key, (∀ contract, ∀ log ∈ chain.logs contract, log.key ≠ key) → state.events key = none

theorem onlyLogs_absorbed {log : Log} {state : State} (member : log ∈ chain.logs contract)
    (only : OnlyLogs chain state) :
    OnlyLogs chain (state.absorbed config contract log) := by
  unfold State.absorbed
  cases parseLog contract log.emitted with
  | none => exact only
  | some event =>
      cases state.events log.key with
      | some raw => exact only
      | none =>
          intro key stranger
          have apart : key ≠ log.key := fun same => stranger contract log member same.symm
          simp only [events_notified, State.mirrored, State.recorded]
          rw [Function.update_of_ne apart]
          exact only key stranger

theorem onlyLogs_scanned {currentHead : Nat} {state : State} (only : OnlyLogs chain state) :
    OnlyLogs chain (state.scanned config chain contract currentHead) := by
  unfold State.scanned
  split
  · exact @List.foldlRecOn _ _ (OnlyLogs chain) _ _ _ only
      (fun _ before _ fetched => onlyLogs_absorbed (mem_logs_of_mem_getLogs fetched) before)
  · exact only

theorem onlyLogs_runScans {scans : List Scan} {state : State}
    (completes : AllComplete config chain scans state) (only : OnlyLogs chain state) :
    OnlyLogs chain (runScans config chain scans state) := by
  induction scans generalizing state with
  | nil => exact only
  | cons scan rest ih =>
      apply ih completes.2
      rw [afterScan_completed completes.1]
      exact onlyLogs_scanned only

/-- The same configuration with chunks of another size. -/
def Config.chunked (config : Config) (size : Nat) (positive : 0 < size) : Config :=
  { config with blockRangeChunkSize := size, chunkPositive := positive }

theorem scanRanges_single {size : Nat} (positive : 0 < size) {currentHead : Nat} (state : State)
    (whole : config.safeHead currentHead < size) :
    (scanRanges (config.chunked size positive) contract currentHead state).length ≤ 1 := by
  have past : ∀ rounds, chunkRanges (config.chunked size positive) (config.safeHead currentHead)
      rounds (config.safeHead currentHead + 1) = [] := by
    intro rounds
    cases rounds with
    | zero => rfl
    | succ rounds =>
        unfold chunkRanges
        exact if_neg (by omega)
  change (chunkRanges (config.chunked size positive) (config.safeHead currentHead)
    (config.safeHead currentHead + 1 - resumeBlock config contract state)
    (resumeBlock config contract state)).length ≤ 1
  cases config.safeHead currentHead + 1 - resumeBlock config contract state with
  | zero => exact Nat.zero_le 1
  | succ rounds =>
      unfold chunkRanges
      split
      · have last : min (resumeBlock config contract state + size - 1)
            (config.safeHead currentHead) = config.safeHead currentHead := by omega
        change (_ :: chunkRanges (config.chunked size positive) (config.safeHead currentHead)
          rounds (min (resumeBlock config contract state + size - 1)
            (config.safeHead currentHead) + 1)).length ≤ 1
        rw [last, past, List.length_singleton]
      · exact Nat.zero_le 1

end History

/-- What holds of one contract in a history of completed scans from an empty
database. -/
structure ScannedOnce (config : Config) (chain : Chain) (scans : List Scan)
    (contract : Contract) : Prop where
  /-- Each scan asks for its ranges, one after the other. -/
  asked : ∀ before scan after, scans = before ++ scan :: after → scan.contract = contract →
    scan.run config chain (runScans config chain before State.empty) =
      forEach (fun range => scanChunk config chain scan.faults contract range.1 range.2)
        (scanRanges config contract scan.head (runScans config chain before State.empty))
        (runScans config chain before State.empty)
  nonempty : ∀ range ∈ requested config chain contract scans State.empty, range.1 ≤ range.2
  increasing : (requested config chain contract scans State.empty).Pairwise
    fun earlier later => earlier.2 < later.1
  covered : ∀ block,
    (∃ range ∈ requested config chain contract scans State.empty,
        range.1 ≤ block ∧ block ≤ range.2) ↔
      config.deployBlock contract ≤ block ∧
        ∃ scan ∈ scans, scan.contract = contract ∧ block ≤ config.safeHead scan.head
  withinHead : ∀ before scan after, scans = before ++ scan :: after →
    ∀ range ∈ scanRanges config scan.contract scan.head
      (runScans config chain before State.empty), range.2 ≤ config.safeHead scan.head
  checkpoint : ∀ before scan after, scans = before ++ scan :: after →
    ∀ block, (runScans config chain before State.empty).checkpoints contract = some block →
      ∃ later, block ≤ later ∧
        (runScans config chain (before ++ [scan]) State.empty).checkpoints contract = some later
  /-- The loop ends by its own condition: more rounds change nothing. -/
  ends : ∀ scan ∈ scans, ∀ state more,
    scanFrom config chain scan.faults scan.contract (config.safeHead scan.head)
        (config.safeHead scan.head + 1 - resumeBlock config scan.contract state + more)
        (resumeBlock config scan.contract state) =
      scanFrom config chain scan.faults scan.contract (config.safeHead scan.head)
        (config.safeHead scan.head + 1 - resumeBlock config scan.contract state)
        (resumeBlock config scan.contract state)
  /-- One scan to the largest head, in a single chunk, leads to the same rows. -/
  single : ∀ head, (∃ scan ∈ scans, scan.contract = contract ∧ scan.head = head) →
    (∀ scan ∈ scans, scan.contract = contract → scan.head ≤ head) →
    ∀ size (positive : 0 < size), config.safeHead head < size →
      (scanRanges (config.chunked size positive) contract head State.empty).length ≤ 1 ∧
      (scanContract (config.chunked size positive) chain Faults.none contract head
        State.empty).Completed ∧
      SameShare chain contract (runScans config chain scans State.empty)
        (scanContract (config.chunked size positive) chain Faults.none contract head
          State.empty).state
  onlyLogs : OnlyLogs chain (runScans config chain scans State.empty)

theorem safeHead_reached {config : Config} {scans : List Scan} {contract : Contract} {head : Nat}
    (seen : ∃ scan ∈ scans, scan.contract = contract ∧ scan.head = head)
    (largest : ∀ scan ∈ scans, scan.contract = contract → scan.head ≤ head) (block : Nat) :
    (∃ scan ∈ scans, scan.contract = contract ∧ block ≤ config.safeHead scan.head) ↔
      block ≤ config.safeHead head := by
  constructor
  · rintro ⟨scan, member, own, below⟩
    have lower := largest scan member own
    unfold Config.safeHead at below ⊢
    omega
  · intro below
    obtain ⟨scan, member, own, same⟩ := seen
    rw [← same] at below
    exact ⟨scan, member, own, below⟩

section ScannedOnce

variable {config : Config} {chain : Chain} {scans : List Scan}
  (completes : AllComplete config chain scans State.empty)
include completes

theorem allComplete_at {before after : List Scan} {scan : Scan}
    (split : scans = before ++ scan :: after) :
    (scan.run config chain (runScans config chain before State.empty)).Completed := by
  rw [split, AllComplete, along_append] at completes
  exact completes.2.1

theorem covered_iff (contract : Contract) (block : Nat) :
    (∃ range ∈ requested config chain contract scans State.empty,
        range.1 ≤ block ∧ block ≤ range.2) ↔
      config.deployBlock contract ≤ block ∧
        ∃ scan ∈ scans, scan.contract = contract ∧ block ≤ config.safeHead scan.head := by
  rw [(requested_tiles completes).covers block, lt_resumeBlock_runScans completes]
  change config.deployBlock contract ≤ block ∧ (block < config.deployBlock contract ∨ _) ↔ _
  constructor
  · rintro ⟨deployed, before | scanned⟩
    · omega
    · exact ⟨deployed, scanned⟩
  · rintro ⟨deployed, scanned⟩
    exact ⟨deployed, Or.inr scanned⟩

/-- The next block to ask for follows the largest safe head. -/
theorem resumeBlock_of_largest {contract : Contract} {head : Nat}
    (seen : ∃ scan ∈ scans, scan.contract = contract ∧ scan.head = head)
    (largest : ∀ scan ∈ scans, scan.contract = contract → scan.head ≤ head) :
    resumeBlock config contract (runScans config chain scans State.empty) =
      max (config.deployBlock contract) (config.safeHead head + 1) := by
  have below := @lt_resumeBlock_runScans config chain contract scans State.empty completes
  simp only [safeHead_reached seen largest] at below
  change ∀ block, block < _ ↔ block < config.deployBlock contract ∨ _ at below
  apply Nat.le_antisymm
  · by_contra above
    have inside := (below _).mp (Nat.lt_of_not_le above)
    omega
  · by_contra above
    have outside := (below _).not.mp (Nat.lt_irrefl _)
    omega

theorem requested_tiles_of_largest {contract : Contract} {head : Nat}
    (seen : ∃ scan ∈ scans, scan.contract = contract ∧ scan.head = head)
    (largest : ∀ scan ∈ scans, scan.contract = contract → scan.head ≤ head) :
    Tiles (config.deployBlock contract)
      (max (config.deployBlock contract) (config.safeHead head + 1))
      (requested config chain contract scans State.empty) := by
  have tiles := @requested_tiles config chain contract scans State.empty completes
  rw [resumeBlock_of_largest completes seen largest] at tiles
  exact tiles

/-- One scan with other chunks meets only logs that the history has met. -/
theorem harmless_single {contract : Contract} {head : Nat}
    (seen : ∃ scan ∈ scans, scan.contract = contract ∧ scan.head = head)
    (largest : ∀ scan ∈ scans, scan.contract = contract → scan.head ≤ head) {size : Nat}
    (positive : 0 < size) :
    ∀ range ∈ scanRanges (config.chunked size positive) contract head State.empty,
      ∀ log ∈ chain.getLogs contract range.1 range.2,
        Harmless (config.chunked size positive) contract log := by
  intro range member log fetched
  have bounds := (scanRanges_tiles (config.chunked size positive) contract head
    State.empty).bounds range member
  change config.deployBlock contract ≤ range.1 ∧ _ ∧ range.2 < max (config.deployBlock contract)
    (config.safeHead head + 1) at bounds
  obtain ⟨listed, within⟩ := List.mem_filter.mp fetched
  rw [decide_eq_true_eq] at within
  obtain ⟨asked, member, first, last⟩ :=
    ((requested_tiles_of_largest completes seen largest).covers log.blockNumber).mpr
      ⟨by omega, by omega⟩
  apply harmless_requested completes (fun _ _ seen => absurd rfl seen) asked member
  exact List.mem_filter.mpr ⟨listed, decide_eq_true ⟨first, last⟩⟩

theorem sameShare_single {contract : Contract} {head : Nat}
    (seen : ∃ scan ∈ scans, scan.contract = contract ∧ scan.head = head)
    (largest : ∀ scan ∈ scans, scan.contract = contract → scan.head ≤ head) {size : Nat}
    (positive : 0 < size) :
    (scanContract (config.chunked size positive) chain Faults.none contract head
        State.empty).Completed ∧
      SameShare chain contract (runScans config chain scans State.empty)
        (scanContract (config.chunked size positive) chain Faults.none contract head
          State.empty).state := by
  have scanned : (requested config chain contract scans State.empty).foldl
      (State.chunkScanned config chain contract) State.empty =
        State.empty.scanned config chain contract head :=
    foldl_chunkScanned_max (requested_tiles_of_largest completes seen largest) State.empty
  have same := sameShare_runScans completes
    (⟨fun _ _ => rfl, rfl⟩ : SameShare chain contract State.empty State.empty)
  rw [scanned] at same
  rw [scanContract_none (harmless_single completes seen largest positive)]
  exact ⟨nofun, same⟩

end ScannedOnce

/-- The head falls back and grows again, and the policy contract is scanned in
between. -/
def sampleScans : List Scan :=
  [{ contract := .claimRegistry, head := 20, faults := Faults.none },
    { contract := .insurancePolicy, head := 21, faults := Faults.none },
    { contract := .claimRegistry, head := 12, faults := Faults.none },
    { contract := .claimRegistry, head := 40, faults := Faults.none }]

theorem sampleScans_complete :
    AllComplete sampleConfig sampleChain sampleScans State.empty :=
  ⟨by decide, by decide, by decide, by decide, trivial⟩

end Dics.Indexer
