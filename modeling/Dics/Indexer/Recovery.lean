/-
Abandoned passes and what they leave in the mirror tables.

The raw event row doubles as the mark that an event was handled.  If the query
after it is lost, the mark stays and every later pass skips the event.  As long
as that never happens, each contract's table is at every moment exactly what a
first part of its logs amounts to, and a pass that completes makes it the whole.
-/

import Dics.Indexer.Listener
import Dics.Lib.Replay
import Mathlib.Data.List.Nodup

open Scripts Replay

namespace Dics.Indexer

section Progress

variable (config : Config) (chain : Chain)

/-- The logs a contract's scans can come across. -/
def scannable (contract : Contract) : List Log :=
  (chain.logs contract).filter fun log => config.deployBlock contract ≤ log.blockNumber

def below (contract : Contract) (block : Nat) : Nat :=
  ((scannable config chain contract).filter fun log => log.blockNumber < block).length

/-- The raw event marks a log as handled; the contract's own mirror table is
what the handled logs amount to. -/
def ledger (contract : Contract) : Ledger State Log Tables where
  marked state log := state.events log.key ≠ none
  table state := state.tables.part contract
  write tables log :=
    match parseLog contract log.emitted with
    | some event => (event.query log tables).1.part contract
    | none => tables
  initial := Tables.empty

/-- A log that is stored and mirrored unless a request fails. -/
def Acceptable (contract : Contract) (log : Log) : Prop :=
  ∀ event, parseLog contract log.emitted = some event → Recordable log event ∧ event.Fits

/-- `count` logs of the contract are handled, and the checkpoint is behind all
the others. -/
structure Handled (contract : Contract) (count : Nat) (state : State) : Prop where
  upto : Upto (ledger contract) (scannable config chain contract) count state
  acceptable : ∀ position log, (scannable config chain contract)[position]? = some log →
    position < count → Acceptable contract log
  resumes : ∀ block, state.checkpoints contract = some block →
    config.deployBlock contract ≤ block + 1 ∧
      ∀ position log, (scannable config chain contract)[position]? = some log →
        count ≤ position → block < log.blockNumber

end Progress

/-- An event that gets its raw row gets its state write too: the raw insert never
takes effect and throws, and the state write never throws without effect. -/
def WritesBoth (faults : Faults) (log : Log) (event : Parsed) : Prop :=
  faults.onRawInsert log event ≠ .late ∧
    (faults.onRawInsert log event = .none → faults.onStateWrite log event ≠ .lost)

instance (faults : Faults) (log : Log) (event : Parsed) :
    Decidable (WritesBoth faults log event) :=
  inferInstanceAs (Decidable (_ ∧ _))

/-- So does every event of the contract up to a block. -/
def AtomicUpto (config : Config) (chain : Chain) (faults : Faults) (contract : Contract)
    (block : Nat) : Prop :=
  ∀ log ∈ scannable config chain contract, log.blockNumber ≤ block →
    ∀ event, parseLog contract log.emitted = some event → WritesBoth faults log event

/-- No event in reach of the pass loses its state write once its raw row is in. -/
def Atomic (config : Config) (chain : Chain) (pass : Pass) : Prop :=
  ∀ contract,
    AtomicUpto config chain pass.faults contract (config.safeHead (pass.head contract))

/-! ### Logs and their order -/

variable {config : Config} {chain : Chain} {contract : Contract}

theorem scannable_ordered (contract : Contract) :
    (scannable config chain contract).Pairwise fun first second =>
      first.blockNumber ≤ second.blockNumber :=
  (chain.ordered contract).filter _

theorem mem_scannable {log : Log} (member : log ∈ scannable config chain contract) :
    log ∈ chain.logs contract :=
  (List.mem_filter.mp member).1

theorem scannable_split (contract : Contract) (block : Nat) :
    (scannable config chain contract).filter (fun log => log.blockNumber < block) ++
      (scannable config chain contract).filter (fun log => block ≤ log.blockNumber) =
        scannable config chain contract :=
  filter_lt_append_filter_ge (scannable_ordered contract) block

theorem below_le_of_le {low high : Nat} (ordered : low ≤ high) :
    below config chain contract low ≤ below config chain contract high := by
  unfold below
  apply List.Sublist.length_le
  apply List.monotone_filter_right
  intro log
  simp only [decide_eq_true_eq]
  omega

theorem le_blockNumber {block position : Nat} {log : Log}
    (found : (scannable config chain contract)[position]? = some log)
    (past : below config chain contract block ≤ position) : block ≤ log.blockNumber := by
  rw [← scannable_split contract block, List.getElem?_append_right past] at found
  have member := List.mem_of_getElem? found
  exact of_decide_eq_true (List.mem_filter.mp member).2

theorem blockNumber_lt {block position : Nat} {log : Log}
    (found : (scannable config chain contract)[position]? = some log)
    (within : position < below config chain contract block) : log.blockNumber < block := by
  rw [← scannable_split contract block, List.getElem?_append_left within] at found
  have member := List.mem_of_getElem? found
  exact of_decide_eq_true (List.mem_filter.mp member).2

/-! ### Keys -/

theorem keys_nodup (chain : Chain) (contract : Contract) :
    ((chain.logs contract).map Log.key).Nodup := by
  have identified := chain.identified
  rw [List.map_append] at identified
  cases contract with
  | insurancePolicy => exact identified.of_append_left
  | claimRegistry => exact identified.of_append_right

theorem position_of_key {first second : Nat} {left right : Log}
    (foundLeft : (scannable config chain contract)[first]? = some left)
    (foundRight : (scannable config chain contract)[second]? = some right)
    (same : left.key = right.key) : first = second := by
  have distinct : ((scannable config chain contract).map Log.key).Nodup :=
    (keys_nodup chain contract).sublist (List.filter_sublist.map Log.key)
  have inside := (List.getElem?_eq_some_iff.mp foundLeft).1
  rw [← List.length_map Log.key] at inside
  apply (List.getElem?_inj inside distinct).mp
  rw [List.getElem?_map, List.getElem?_map, foundLeft, foundRight, Option.map_some,
    Option.map_some, same]

theorem key_ne_of_other {other : Contract} (distinct : contract ≠ other) {left right : Log}
    (leftLog : left ∈ chain.logs contract) (rightLog : right ∈ chain.logs other) :
    right.key ≠ left.key := by
  have identified := chain.identified
  rw [List.map_append] at identified
  have apart := List.disjoint_of_nodup_append identified
  have leftKey := List.mem_map_of_mem (f := Log.key) leftLog
  have rightKey := List.mem_map_of_mem (f := Log.key) rightLog
  intro same
  rw [same] at rightKey
  cases contract with
  | insurancePolicy =>
      cases other with
      | insurancePolicy => exact distinct rfl
      | claimRegistry => exact apart leftKey rightKey
  | claimRegistry =>
      cases other with
      | insurancePolicy => exact apart rightKey leftKey
      | claimRegistry => exact distinct rfl

/-! ### One event -/

def State.mirrored (state : State) (contract : Contract) (log : Log) (event : Parsed) : State :=
  { state.recorded contract log event with tables := (event.query log state.tables).1 }

theorem marked_mirrored {state : State} {log other : Log} {event : Parsed} :
    (state.mirrored contract log event).events other.key ≠ none ↔
      state.events other.key ≠ none ∨ other.key = log.key := by
  unfold State.mirrored State.recorded
  by_cases same : other.key = log.key
  · simp only [same, Function.update_self, ne_eq, reduceCtorEq, not_false_eq_true, or_true]
  · simp only [Function.update_of_ne same, same, or_false]

theorem handled_mirrored {count : Nat} {state : State} {log : Log} {event : Parsed}
    (handled : Handled config chain contract count state)
    (here : (scannable config chain contract)[count]? = some log)
    (declared : parseLog contract log.emitted = some event) (recordable : Recordable log event)
    (fits : event.Fits) :
    Handled config chain contract (count + 1) (state.mirrored contract log event) := by
  refine ⟨handled.upto.advance here ?_ ?_, ?_, ?_⟩
  · intro position other found
    rw [show (ledger contract).marked (state.mirrored contract log event) other ↔ _
      from marked_mirrored]
    constructor
    · rintro (before | same)
      · exact Or.inl before
      · exact Or.inr (position_of_key found here same)
    · rintro (before | same)
      · exact Or.inl before
      · subst same
        rw [here] at found
        cases found
        exact Or.inr rfl
  · simp only [ledger, declared]
    exact query_part contract log event state.tables
  · intro position other found below
    by_cases earlier : position < count
    · exact handled.acceptable position other found earlier
    · have last : position = count := by omega
      rw [last, here] at found
      cases found
      intro parsed same
      rw [declared] at same
      cases same
      exact ⟨recordable, fits⟩
  · intro block stored
    obtain ⟨deployed, others⟩ := handled.resumes block stored
    exact ⟨deployed, fun position other found later =>
      others position other found (Nat.le_of_succ_le later)⟩

theorem Handled.reported {count : Nat} {state : State}
    (handled : Handled config chain contract count state) (reported : List Notification) :
    Handled config chain contract count { state with reported } :=
  ⟨⟨handled.upto.bounded, handled.upto.marked, handled.upto.table⟩, handled.acceptable,
    handled.resumes⟩

theorem keeps_reportIfAny (faults : Faults) (log : Log) (notification : Option Notification)
    (count : Nat) :
    (reportIfAny config faults log notification).Keeps (Handled config chain contract count) :=
  reportIfAny_keeps config faults log notification
    (fun _ reported handled => handled.reported reported)

theorem reportIfAny_state (config : Config) (faults : Faults) (log : Log)
    (notification : Option Notification) (state : State) :
    ∃ reported, (reportIfAny config faults log notification state).state =
      { state with reported } := by
  refine @reportIfAny_keeps (fun after => ∃ reported, after = { state with reported }) config faults
    log notification ?_ state ⟨state.reported, rfl⟩
  rintro _ reported ⟨_, rfl⟩
  exact ⟨reported, rfl⟩

/-- An event that gets both of its writes is skipped, refused or mirrored. -/
theorem dispatch_cases {faults : Faults} {log : Log} {event : Parsed} (state : State)
    (parsed : parseLog contract log.emitted = some event)
    (atomic : WritesBoth faults log event) :
    (state.events log.key ≠ none ∧ (dispatch config faults contract log state).state = state) ∨
    (state.events log.key = none ∧ dispatch config faults contract log state = ⟨state, none⟩) ∨
    (state.events log.key = none ∧ Recordable log event ∧ event.Fits ∧
      ∃ reported, (dispatch config faults contract log state).state =
        { state.mirrored contract log event with reported }) := by
  rw [dispatch_declared config faults parsed]
  by_cases seen : state.events log.key = none
  · right
    cases raw : faults.onRawInsert log event with
    | lost => exact Or.inl ⟨seen, handleOnce_lost raw state _⟩
    | late => exact absurd raw atomic.1
    | none =>
        have written := atomic.2 raw
        have recordable := (onRawInsert_eq_none_iff.mp raw).1
        have fits := (parameters_accepted_iff recordable.2.2 event).mp
          (accepted_of_refused written)
        refine Or.inr ⟨seen, recordable, fits, ?_⟩
        rw [handleOnce_new seen raw, bind_run]
        cases write : faults.onStateWrite log event with
        | lost => exact absurd write written
        | late => exact ⟨state.reported, rfl⟩
        | none => exact reportIfAny_state config faults log _ (state.mirrored contract log event)
  · exact Or.inl ⟨seen, handleOnce_seen seen faults event (event.query log)⟩

theorem handles_dispatch {faults : Faults} {position : Nat} {log : Log} {event : Parsed}
    (here : (scannable config chain contract)[position]? = some log)
    (parsed : parseLog contract log.emitted = some event)
    (atomic : WritesBoth faults log event) :
    Handles (Handled config chain contract) position (dispatch config faults contract log) := by
  intro count state ready handled
  have marked := handled.upto.marked position log here
  rcases @dispatch_cases config contract faults log event state parsed atomic with
    ⟨seen, unchanged⟩ | ⟨new, stopped⟩ | ⟨new, recordable, fits, reported, done⟩
  · refine ⟨count, advanced_idle ?_ (marked.mp seen)⟩
    rw [unchanged]
    exact handled
  · rw [stopped]
    exact ⟨count, advanced_stopped handled rfl⟩
  · have later : ¬position < count := fun earlier => marked.mpr earlier new
    have now : position = count := Nat.le_antisymm ready (Nat.le_of_not_lt later)
    subst now
    -- From here on the event counts as handled, wherever the script stops.
    refine ⟨position + 1, ?_, Nat.le_succ _, Nat.le_max_right _ _, fun _ => Nat.le_refl _⟩
    rw [done]
    exact (handled_mirrored handled here parsed recordable fits).reported reported

/-! ### The other contract -/

section Other

variable {other : Contract} {count : Nat}

theorem keeps_dispatch_other (distinct : contract ≠ other) (faults : Faults) {log : Log}
    (member : log ∈ chain.logs contract) :
    (dispatch config faults contract log).Keeps (Handled config chain other count) := by
  cases parsed : parseLog contract log.emitted with
  | none =>
      unfold dispatch
      rw [parsed]
      cases config.unknownTopic with
      | null => exact keeps_interrupt _
      | throws => exact keeps_pure _ ()
  | some event =>
      rw [dispatch_declared config faults parsed]
      apply Script.Keeps.bind
      · apply keeps_request
        intro state before
        cases new : state.events log.key with
        | some raw => simpa only [insertRawEvent, new] using before
        | none =>
            rw [insertRawEvent_new new]
            refine ⟨before.upto.congr ?_ rfl, before.acceptable, before.resumes⟩
            intro item scanned
            have apart := key_ne_of_other distinct member (mem_scannable scanned)
            simp only [ledger, State.recorded, Function.update_of_ne apart]
      · intro isNew
        split
        · apply Script.Keeps.bind
          · apply keeps_request
            intro state before
            refine ⟨before.upto.congr (fun _ _ => Iff.rfl) ?_, before.acceptable, before.resumes⟩
            exact query_part_other distinct log parsed state.tables
          · intro notification
            exact keeps_reportIfAny faults log notification count
        · exact keeps_pure _ ()

theorem keeps_scanChunk_other (distinct : contract ≠ other) (faults : Faults)
    (cursor toBlock : Nat) :
    (scanChunk config chain faults contract cursor toBlock).Keeps
      (Handled config chain other count) := by
  apply keeps_read
  intro state before
  refine Script.Keeps.bind ?_ ?_ state before
  · apply keeps_forEach
    intro log fetched
    exact keeps_dispatch_other distinct faults (List.mem_filter.mp fetched).1
  · intro _
    apply keeps_request
    intro state before
    refine ⟨⟨before.upto.bounded, before.upto.marked, before.upto.table⟩, before.acceptable, ?_⟩
    intro block stored
    change Function.update state.checkpoints contract (some toBlock) other = some block at stored
    rw [Function.update_of_ne (Ne.symm distinct)] at stored
    exact before.resumes block stored

theorem keeps_scanFrom_other (distinct : contract ≠ other) (faults : Faults)
    (safeHead rounds cursor : Nat) :
    (scanFrom config chain faults contract safeHead rounds cursor).Keeps
      (Handled config chain other count) := by
  induction rounds generalizing cursor with
  | zero => exact keeps_pure _ ()
  | succ rounds ih =>
      unfold scanFrom
      split
      · exact (keeps_scanChunk_other distinct faults _ _).bind (fun _ => ih _)
      · exact keeps_pure _ ()

theorem keeps_scanContract_other (distinct : contract ≠ other) (faults : Faults)
    (currentHead : Nat) :
    (scanContract config chain faults contract currentHead).Keeps
      (Handled config chain other count) := by
  apply keeps_read
  intro state before
  refine keeps_read _ ?_ state before
  intro state before
  exact keeps_scanFrom_other distinct faults _ _ _ state before

end Other

/-! ### One chunk, one scan -/

/-- The requested logs are a stretch of the scannable ones. -/
theorem scannable_stretch {cursor toBlock : Nat} (deployed : config.deployBlock contract ≤ cursor)
    (forward : cursor ≤ toBlock + 1) :
    (scannable config chain contract).filter (fun log => log.blockNumber < cursor) ++
        chain.getLogs contract cursor toBlock ++
        (scannable config chain contract).filter (fun log => toBlock + 1 ≤ log.blockNumber) =
      scannable config chain contract ∧
    below config chain contract cursor + (chain.getLogs contract cursor toBlock).length =
      below config chain contract (toBlock + 1) := by
  have fetched : chain.getLogs contract cursor toBlock =
      ((scannable config chain contract).filter fun log => cursor ≤ log.blockNumber).filter
        fun log => log.blockNumber < toBlock + 1 := by
    unfold Chain.getLogs scannable
    rw [List.filter_filter, List.filter_filter]
    apply List.filter_congr
    intro log _
    rw [← Bool.decide_and, ← Bool.decide_and, decide_eq_decide]
    omega
  have rest : ((scannable config chain contract).filter fun log => cursor ≤ log.blockNumber).filter
        (fun log => toBlock + 1 ≤ log.blockNumber) =
      (scannable config chain contract).filter fun log => toBlock + 1 ≤ log.blockNumber := by
    rw [List.filter_filter]
    apply List.filter_congr
    intro log _
    rw [← Bool.decide_and, decide_eq_decide]
    omega
  have joined : chain.getLogs contract cursor toBlock ++
        (scannable config chain contract).filter (fun log => toBlock + 1 ≤ log.blockNumber) =
      (scannable config chain contract).filter fun log => cursor ≤ log.blockNumber := by
    have inner := filter_lt_append_filter_ge
      ((@scannable_ordered config chain contract).filter
        fun log => cursor ≤ log.blockNumber) (toBlock + 1)
    rw [fetched, ← rest]
    exact inner
  have whole : (scannable config chain contract).filter (fun log => log.blockNumber < cursor) ++
        chain.getLogs contract cursor toBlock ++
        (scannable config chain contract).filter (fun log => toBlock + 1 ≤ log.blockNumber) =
      scannable config chain contract := by
    rw [List.append_assoc, joined]
    exact scannable_split contract cursor
  refine ⟨whole, ?_⟩
  have lengths := congrArg List.length whole
  have cut := congrArg List.length
    (@scannable_split config chain contract (toBlock + 1))
  unfold below
  simp only [List.length_append] at lengths cut
  omega

private theorem advanced_checkpoint {faults : Faults} {count toBlock : Nat} {state : State}
    (deployed : config.deployBlock contract ≤ toBlock + 1)
    (reached : below config chain contract (toBlock + 1) ≤ count)
    (handled : Handled config chain contract count state) :
    Advanced (Handled config chain contract) count (below config chain contract (toBlock + 1))
      count (setLastProcessedBlock faults contract toBlock state) := by
  have stored : Handled config chain contract count
      { state with
        checkpoints := Function.update state.checkpoints contract (some toBlock) } := by
    refine ⟨⟨handled.upto.bounded, handled.upto.marked, handled.upto.table⟩,
      handled.acceptable, ?_⟩
    intro block now
    change Function.update state.checkpoints contract (some toBlock) contract = some block at now
    rw [Function.update_self] at now
    cases now
    refine ⟨deployed, ?_⟩
    intro position log found later
    exact le_blockNumber found (Nat.le_trans reached later)
  apply advanced_idle _ reached
  unfold setLastProcessedBlock
  cases faults.writeCheckpoint contract toBlock with
  | none => exact stored
  | lost => exact handled
  | late => exact stored

section Scan

variable {faults : Faults} {limit : Nat} (atomic : AtomicUpto config chain faults contract limit)
  (declared : ∀ log ∈ chain.logs contract, parseLog contract log.emitted ≠ none)
include atomic declared

theorem advanced_scanChunk {cursor toBlock count : Nat} {state : State}
    (deployed : config.deployBlock contract ≤ cursor) (forward : cursor ≤ toBlock + 1)
    (within : toBlock ≤ limit) (ready : below config chain contract cursor ≤ count)
    (handled : Handled config chain contract count state) :
    ∃ after, Advanced (Handled config chain contract) count
      (below config chain contract (toBlock + 1)) after
      (scanChunk config chain faults contract cursor toBlock state) := by
  obtain ⟨whole, lengths⟩ := @scannable_stretch config chain contract _ _ deployed forward
  apply advanced_read handled
  have handles : ∀ position log,
      ((scannable config chain contract).filter (fun log => log.blockNumber < cursor) ++
        chain.getLogs contract cursor toBlock ++
        (scannable config chain contract).filter
          (fun log => toBlock + 1 ≤ log.blockNumber))[position]? = some log →
      log ∈ chain.getLogs contract cursor toBlock →
      Handles (Handled config chain contract) position (dispatch config faults contract log) := by
    intro position log found fetched
    rw [whole] at found
    have member := List.mem_of_getElem? found
    have asked := of_decide_eq_true (List.mem_filter.mp fetched).2
    obtain ⟨event, parsed⟩ := Option.ne_none_iff_exists'.mp
      (declared log (mem_scannable member))
    exact handles_dispatch found parsed
      (atomic log member (Nat.le_trans asked.2 within) event parsed)
  obtain ⟨middle, looped⟩ := advanced_forEach _ _ _ handles ready handled
  change Advanced _ _ (below config chain contract cursor + _) _ _ at looped
  rw [lengths] at looped
  apply advanced_bind (Nat.le_refl _) looped
  intro next _ _ reached middleHandled
  exact ⟨middle, advanced_checkpoint (Nat.le_trans deployed forward) reached middleHandled⟩

theorem advanced_scanFrom {safeHead rounds cursor count : Nat} {state : State}
    (deployed : config.deployBlock contract ≤ cursor) (enough : safeHead + 1 ≤ cursor + rounds)
    (within : safeHead ≤ limit) (ready : below config chain contract cursor ≤ count)
    (handled : Handled config chain contract count state) :
    ∃ after, Advanced (Handled config chain contract) count
      (below config chain contract (safeHead + 1)) after
      (scanFrom config chain faults contract safeHead rounds cursor state) := by
  induction rounds generalizing cursor count state with
  | zero =>
      have done := Nat.le_trans (below_le_of_le enough) ready
      exact ⟨count, advanced_idle handled done⟩
  | succ rounds ih =>
      unfold scanFrom
      split
      · rename_i inside
        have positive := config.chunkPositive
        have forward : cursor ≤
            min (cursor + config.blockRangeChunkSize - 1) safeHead + 1 := by omega
        obtain ⟨middle, chunk⟩ :=
          advanced_scanChunk atomic declared deployed forward
            (Nat.le_trans (Nat.min_le_right _ _) within) ready handled
        refine advanced_bind ?_ chunk ?_
        · apply below_le_of_le
          omega
        · intro next _ _ reached middleHandled
          refine ih ?_ ?_ reached middleHandled
          · omega
          · omega
      · rename_i outside
        have done : below config chain contract (safeHead + 1) ≤ count :=
          Nat.le_trans (below_le_of_le (by omega)) ready
        exact ⟨count, advanced_idle handled done⟩

theorem advanced_scanContract {currentHead count : Nat} {state : State}
    (within : config.safeHead currentHead ≤ limit)
    (handled : Handled config chain contract count state) :
    ∃ after, Advanced (Handled config chain contract) count
      (below config chain contract (config.safeHead currentHead + 1)) after
      (scanContract config chain faults contract currentHead state) := by
  apply advanced_read handled
  apply advanced_read handled
  cases stored : state.checkpoints contract with
  | none =>
      refine advanced_scanFrom atomic declared (Nat.le_refl _) (by omega) within ?_ handled
      have nothing : (scannable config chain contract).filter
          (fun log => log.blockNumber < config.deployBlock contract) = [] := by
        apply List.filter_eq_nil_iff.mpr
        intro log member
        have deployed := of_decide_eq_true (List.mem_filter.mp member).2
        simp only [decide_eq_true_eq]
        omega
      rw [below, nothing]
      exact Nat.zero_le _
  | some block =>
      obtain ⟨deployed, others⟩ := handled.resumes block stored
      have ready : below config chain contract (block + 1) ≤ count := by
        by_contra missing
        have bounded : below config chain contract (block + 1) ≤
            (scannable config chain contract).length := List.length_filter_le _ _
        have inside : count < (scannable config chain contract).length := by omega
        have found := List.getElem?_eq_getElem inside
        have behind := blockNumber_lt found (Nat.lt_of_not_le missing)
        have ahead := others count _ found (Nat.le_refl _)
        omega
      exact advanced_scanFrom atomic declared deployed (by omega) within ready handled

end Scan

/-! ### Passes -/

/-- Every log is one of the declared events of its contract. -/
def Declared (chain : Chain) : Prop :=
  ∀ contract, ∀ log ∈ chain.logs contract, parseLog contract log.emitted ≠ none

/-- Both contracts have made progress, and neither past its block. -/
def WithinBlock (config : Config) (chain : Chain) (block : Contract → Nat) (state : State) :
    Prop :=
  ∀ contract, ∃ count, count ≤ below config chain contract (block contract + 1) ∧
    Handled config chain contract count state

theorem handled_empty (contract : Contract) : Handled config chain contract 0 State.empty := by
  refine ⟨⟨Nat.zero_le _, ?_, ?_⟩, ?_, ?_⟩
  · intro position log _found
    constructor
    · intro marked
      exact absurd rfl marked
    · intro impossible
      exact absurd impossible (Nat.not_lt_zero _)
  · cases contract <;> rfl
  · intro position log _found impossible
    exact absurd impossible (Nat.not_lt_zero _)
  · intro block stored
    cases stored

theorem withinBlock_empty (block : Contract → Nat) :
    WithinBlock config chain block State.empty :=
  fun contract => ⟨0, Nat.zero_le _, handled_empty contract⟩

def AtBlock (config : Config) (chain : Chain) (block : Contract → Nat) (state : State) : Prop :=
  ∀ contract,
    Handled config chain contract (below config chain contract (block contract + 1)) state

section Pass

variable {block : Contract → Nat} {state : State} {faults : Faults} {currentHead : Nat}

theorem scanContract_within
    (atomic : AtomicUpto config chain faults contract (config.safeHead currentHead))
    (declared : Declared chain) (head : config.safeHead currentHead ≤ block contract)
    (before : WithinBlock config chain block state) :
    WithinBlock config chain block
      (scanContract config chain faults contract currentHead state).state := by
  intro other
  obtain ⟨count, within, handled⟩ := before other
  by_cases same : contract = other
  · subst same
    obtain ⟨after, scanned⟩ := @advanced_scanContract config chain contract faults _ atomic
      (declared contract) currentHead count state (Nat.le_refl _) handled
    have bound := scanned.within
    have limit : below config chain contract (config.safeHead currentHead + 1) ≤
        below config chain contract (block contract + 1) := by
      apply below_le_of_le
      omega
    exact ⟨after, by omega, scanned.handled⟩
  · exact ⟨count, within, keeps_scanContract_other same faults currentHead state handled⟩

theorem scanContract_reaches
    (atomic : AtomicUpto config chain faults contract (config.safeHead currentHead))
    (declared : Declared chain) (head : config.safeHead currentHead = block contract)
    (before : WithinBlock config chain block state)
    (completed : (scanContract config chain faults contract currentHead state).Completed) :
    Handled config chain contract (below config chain contract (block contract + 1))
      (scanContract config chain faults contract currentHead state).state := by
  obtain ⟨count, within, handled⟩ := before contract
  obtain ⟨after, scanned⟩ := @advanced_scanContract config chain contract faults _ atomic
    (declared contract) currentHead count state (Nat.le_refl _) handled
  have bound := scanned.within
  have reached := scanned.reached completed
  rw [head] at bound reached
  have exactly : after = below config chain contract (block contract + 1) := by omega
  rw [← exactly]
  exact scanned.handled

end Pass

/-- A pass stays within the blocks, and reaches them if it completes and they are
its safe heads. -/
theorem runOnePass_step {pass : Pass} {block : Contract → Nat} {state : State}
    (atomic : Atomic config chain pass) (declared : Declared chain)
    (heads : ∀ contract, config.safeHead (pass.head contract) ≤ block contract)
    (before : WithinBlock config chain block state) :
    WithinBlock config chain block (runOnePass config chain pass state).state ∧
      ((∀ contract, config.safeHead (pass.head contract) = block contract) →
        (runOnePass config chain pass state).Completed →
        AtBlock config chain block (runOnePass config chain pass state).state) := by
  have first := scanContract_within (atomic .insurancePolicy) declared (heads .insurancePolicy)
    before
  cases outcome : scanContract config chain pass.faults .insurancePolicy
      (pass.head .insurancePolicy) state with
  | mk middle value =>
      rw [outcome] at first
      cases value with
      | none =>
          have stopped : runOnePass config chain pass state = ⟨middle, none⟩ :=
            bind_of_none outcome _
          rw [stopped]
          exact ⟨first, fun _ completed => absurd rfl completed⟩
      | some value =>
          have continued : runOnePass config chain pass state =
              scanContract config chain pass.faults .claimRegistry (pass.head .claimRegistry)
                middle := bind_of_some outcome _
          rw [continued]
          refine ⟨scanContract_within (atomic .claimRegistry) declared (heads .claimRegistry)
            first, ?_⟩
          intro same completed contract
          cases contract with
          | insurancePolicy =>
              have reached := scanContract_reaches (atomic .insurancePolicy) declared
                (same .insurancePolicy) before
              rw [outcome] at reached
              exact @keeps_scanContract_other config chain .claimRegistry .insurancePolicy _
                nofun pass.faults _ middle (reached nofun)
          | claimRegistry =>
              exact scanContract_reaches (atomic .claimRegistry) declared
                (same .claimRegistry) first completed

theorem mainLoop_withinBlock {passes : List Pass} {block : Contract → Nat} {state : State}
    (atomic : ∀ pass ∈ passes, Atomic config chain pass) (declared : Declared chain)
    (heads : ∀ pass ∈ passes, ∀ contract, config.safeHead (pass.head contract) ≤ block contract)
    (before : WithinBlock config chain block state) :
    WithinBlock config chain block (mainLoop config chain passes state) := by
  induction passes generalizing state with
  | nil => exact before
  | cons pass rest ih =>
      have first := (runOnePass_step (atomic pass List.mem_cons_self) declared
        (heads pass List.mem_cons_self) before).1
      exact ih (fun other member => atomic other (List.mem_cons_of_mem _ member))
        (fun other member => heads other (List.mem_cons_of_mem _ member)) first

/-! ### The failure-free scan -/

def failureFree (config : Config) (chain : Chain) (head : Contract → Nat) : Outcome State Unit :=
  runOnePass config chain { head, faults := Faults.none } State.empty

theorem onRawInsert_none {log : Log} {event : Parsed} (recordable : Recordable log event) :
    Faults.none.onRawInsert log event = .none :=
  onRawInsert_eq_none_iff.mpr ⟨recordable, rfl⟩

theorem onStateWrite_none {log : Log} {event : Parsed} (recordable : Recordable log event)
    (fits : event.Fits) : Faults.none.onStateWrite log event = .none :=
  (onStateWrite_eq_none_iff recordable.2.2).mpr ⟨fits, rfl⟩

theorem handleOnce_finishes {log : Log} {event : Parsed} (recordable : Recordable log event)
    (fits : event.Fits) (query : Tables → Tables × Option Notification) :
    (handleOnce config Faults.none contract log event query).Finishes := by
  apply (finishes_request (onRawInsert_none recordable) _).bind
  intro isNew
  split
  · apply (finishes_request (onStateWrite_none recordable fits) _).bind
    intro notification
    cases notification with
    | none => exact finishes_pure ()
    | some notification =>
        unfold reportIfAny reportClaimEvent
        dsimp only
        split
        · exact finishes_request rfl _
        · exact finishes_pure ()
  · exact finishes_pure ()

/-- The contract's logs up to a block are declared and acceptable. -/
def AcceptableUpto (config : Config) (chain : Chain) (contract : Contract) (block : Nat) : Prop :=
  ∀ log ∈ scannable config chain contract, log.blockNumber ≤ block →
    parseLog contract log.emitted ≠ none ∧ Acceptable contract log

theorem scanFrom_finishes {safeHead rounds cursor : Nat}
    (acceptable : AcceptableUpto config chain contract safeHead)
    (deployed : config.deployBlock contract ≤ cursor) :
    (scanFrom config chain Faults.none contract safeHead rounds cursor).Finishes := by
  induction rounds generalizing cursor with
  | zero => exact finishes_pure ()
  | succ rounds ih =>
      unfold scanFrom
      split
      · have positive := config.chunkPositive
        refine Script.Finishes.bind ?_ (fun _ => ih ?_)
        · intro state
          refine Script.Finishes.bind ?_ (fun _ => finishes_request rfl _) state
          apply finishes_forEach
          intro log fetched
          obtain ⟨listed, asked⟩ := List.mem_filter.mp fetched
          rw [decide_eq_true_eq] at asked
          have member : log ∈ scannable config chain contract :=
            List.mem_filter.mpr ⟨listed, decide_eq_true (Nat.le_trans deployed asked.1)⟩
          obtain ⟨declared, accepted⟩ := acceptable log member (by omega)
          obtain ⟨event, parsed⟩ := Option.ne_none_iff_exists'.mp declared
          rw [dispatch_declared config Faults.none parsed]
          exact handleOnce_finishes (accepted event parsed).1 (accepted event parsed).2 _
        · omega
      · exact finishes_pure ()

theorem scanContract_finishes {currentHead count : Nat} {state : State}
    (acceptable : AcceptableUpto config chain contract (config.safeHead currentHead))
    (handled : Handled config chain contract count state) :
    (scanContract config chain Faults.none contract currentHead state).Completed := by
  rw [scanContract_eq rfl rfl]
  apply scanFrom_finishes acceptable
  unfold resumeBlock
  cases stored : state.checkpoints contract with
  | none => exact Nat.le_refl _
  | some block => exact (handled.resumes block stored).1

theorem failureFree_completes {head : Contract → Nat}
    (acceptable : ∀ contract,
      AcceptableUpto config chain contract (config.safeHead (head contract))) :
    (failureFree config chain head).Completed := by
  have first := scanContract_finishes (acceptable .insurancePolicy)
    (handled_empty .insurancePolicy)
  have untouched := @keeps_scanContract_other config chain .insurancePolicy .claimRegistry 0
    nofun Faults.none (head .insurancePolicy) State.empty (handled_empty .claimRegistry)
  unfold failureFree runOnePass
  cases outcome : scanContract config chain Faults.none .insurancePolicy (head .insurancePolicy)
      State.empty with
  | mk middle value =>
      rw [outcome] at first untouched
      cases value with
      | none => exact absurd rfl first
      | some value =>
          rw [bind_of_some outcome]
          exact scanContract_finishes (acceptable .claimRegistry) untouched

/-- Logs that were handled are acceptable. -/
theorem AtBlock.acceptable {block : Contract → Nat} {state : State} (declared : Declared chain)
    (reached : AtBlock config chain block state) (contract : Contract) :
    AcceptableUpto config chain contract (block contract) := by
  intro log member within
  refine ⟨declared contract log (mem_scannable member), ?_⟩
  obtain ⟨position, found⟩ := List.mem_iff_getElem?.mp member
  apply (reached contract).acceptable position log found
  by_contra beyond
  have behind := le_blockNumber found (Nat.le_of_not_lt beyond)
  omega

theorem AcceptableUpto.atomic {block : Nat}
    (acceptable : AcceptableUpto config chain contract block) :
    AtomicUpto config chain Faults.none contract block := by
  intro log member within event parsed
  obtain ⟨recordable, fits⟩ := (acceptable log member within).2 event parsed
  constructor
  · rw [onRawInsert_none recordable]
    intro impossible
    cases impossible
  · intro _
    rw [onStateWrite_none recordable fits]
    intro impossible
    cases impossible

/-! ### Retries -/

theorem tables_of_atBlock {block : Contract → Nat} {left right : State}
    (first : AtBlock config chain block left) (second : AtBlock config chain block right) :
    left.tables = right.tables := by
  have parts : ∀ contract, left.tables.part contract = right.tables.part contract := by
    intro contract
    exact (first contract).upto.table.trans (second contract).upto.table.symm
  have claims := congrArg Tables.claims (parts .claimRegistry)
  have policies := congrArg Tables.policies (parts .insurancePolicy)
  change left.tables.claims = right.tables.claims at claims
  change left.tables.policies = right.tables.policies at policies
  cases leftTables : left.tables
  cases rightTables : right.tables
  rw [leftTables, rightTables] at claims policies
  dsimp only at claims policies
  rw [claims, policies]

/-- However often earlier passes were abandoned, once a pass completes the two
mirror tables are those of a scan in which nothing failed, provided no event
ever lost its state write after its raw row. -/
theorem retries_reach_failureFree_tables (config : Config) (chain : Chain)
    (declared : Declared chain) (passes : List Pass) (last : Pass)
    (heads : ∀ pass ∈ passes, ∀ contract,
      config.safeHead (pass.head contract) ≤ config.safeHead (last.head contract))
    (completed : (runOnePass config chain last
      (mainLoop config chain passes State.empty)).Completed)
    (atomic : ∀ pass ∈ passes ++ [last], Atomic config chain pass) :
    (runOnePass config chain last (mainLoop config chain passes State.empty)).state.tables =
      (failureFree config chain last.head).state.tables := by
  let block := fun contract => config.safeHead (last.head contract)
  have bounded : ∀ contract, config.safeHead (last.head contract) ≤ block contract :=
    fun contract => Nat.le_refl _
  have earlier := mainLoop_withinBlock
    (fun pass member => atomic pass (List.mem_append_left _ member)) declared heads
    (withinBlock_empty block)
  have lastAtomic := atomic last (List.mem_append_right _ List.mem_cons_self)
  have retried := (runOnePass_step lastAtomic declared bounded earlier).2 (fun _ => rfl) completed
  have acceptable := retried.acceptable declared
  have clean := (@runOnePass_step config chain { head := last.head, faults := Faults.none } block
    State.empty (fun contract => (acceptable contract).atomic) declared bounded
    (withinBlock_empty block)).2 (fun _ => rfl) (failureFree_completes acceptable)
  exact tables_of_atBlock retried clean

section Sample

def sampleLog : Log :=
  { transactionHash := 77
    index := 0
    blockNumber := 3
    emitted := .registry (.claimSubmitted 1 4 9 5 300 1000) }

def sampleChain : Chain where
  logs contract :=
    match contract with
    | .insurancePolicy => []
    | .claimRegistry => [sampleLog]
  ordered contract := by
    cases contract with
    | insurancePolicy => exact List.Pairwise.nil
    | claimRegistry => exact List.pairwise_singleton _ _
  identified := List.nodup_singleton _

theorem sampleChain_only {contract : Contract} {log : Log}
    (member : log ∈ sampleChain.logs contract) : contract = .claimRegistry ∧ log = sampleLog := by
  cases contract with
  | insurancePolicy => cases member
  | claimRegistry => exact ⟨rfl, List.mem_singleton.mp member⟩

theorem sampleChain_declared : Declared sampleChain := by
  intro contract log member
  obtain ⟨rfl, rfl⟩ := sampleChain_only member
  decide

def healthyPass : Pass :=
  { head := fun _ => 20, faults := Faults.none }

def unreportedPass : Pass :=
  { head := fun _ => 15, faults := { Faults.none with webhook := fun _ => .lost } }

/-- The connection drops between the raw event and the claim's row. -/
def droppedPass : Pass :=
  { head := fun _ => 15, faults := { Faults.none with stateWrite := fun _ => .lost } }

/-- The first pass is abandoned at the webhook, the second one completes. -/
theorem retries_reach_failureFree_tables_sample :
    ¬(runOnePass sampleConfig sampleChain unreportedPass State.empty).Completed ∧
      (runOnePass sampleConfig sampleChain healthyPass
        (mainLoop sampleConfig sampleChain [unreportedPass] State.empty)).state.tables =
        (failureFree sampleConfig sampleChain healthyPass.head).state.tables := by
  refine ⟨by decide, ?_⟩
  apply retries_reach_failureFree_tables sampleConfig sampleChain sampleChain_declared
    [unreportedPass] healthyPass
  · intro pass member contract
    rw [List.mem_singleton.mp member]
    change 15 - 5 ≤ 20 - 5
    omega
  · decide
  · intro pass member contract log scanned _ event parsed
    obtain ⟨rfl, rfl⟩ := sampleChain_only (mem_scannable scanned)
    cases parsed
    rcases List.mem_cons.mp member with first | second
    · rw [first]
      decide
    · rw [List.mem_singleton.mp second]
      decide

/-- After a state write is lost the claim never gets its row, although the next
pass completes. -/
theorem dropped_claim_never_mirrored :
    (runOnePass sampleConfig sampleChain healthyPass
        (mainLoop sampleConfig sampleChain [droppedPass] State.empty)).Completed ∧
      (runOnePass sampleConfig sampleChain healthyPass
        (mainLoop sampleConfig sampleChain [droppedPass] State.empty)).state.tables ≠
        (failureFree sampleConfig sampleChain healthyPass.head).state.tables := by
  refine ⟨by decide, ?_⟩
  intro same
  have claim := congrFun (congrArg Tables.claims same) 1
  revert claim
  decide

end Sample

end Dics.Indexer
