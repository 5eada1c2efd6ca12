/-
Scanning again.

The checkpoint can be set back, or its row deleted, and old blocks are then
scanned a second time.  Every declared log in them has its raw event stored, so
its handler does nothing.
-/

import Dics.Indexer.Passes

open Scripts Tilings

namespace Dics.Indexer

/-- A scan before which the checkpoint's row may be deleted, or set to another
block. -/
structure Rescan where
  rewind : Option (Option Nat)
  scan : Scan

def Rescan.rewound (rescan : Rescan) (state : State) : State :=
  match rescan.rewind with
  | none => state
  | some checkpoint =>
      { state with
        checkpoints := Function.update state.checkpoints rescan.scan.contract checkpoint }

def Rescan.run (config : Config) (chain : Chain) (rescan : Rescan) : Script State Unit :=
  fun state => rescan.scan.run config chain (rescan.rewound state)

def afterRescan (config : Config) (chain : Chain) (state : State) (rescan : Rescan) : State :=
  (rescan.run config chain state).state

def runRescans (config : Config) (chain : Chain) (rescans : List Rescan) (state : State) :
    State :=
  rescans.foldl (afterRescan config chain) state

/-- The blocks a scan asks for in the given state. -/
def Rescan.Asks (config : Config) (rescan : Rescan) (state : State) (contract : Contract)
    (block : Nat) : Prop :=
  rescan.scan.contract = contract ∧
    resumeBlock config contract (rescan.rewound state) ≤ block ∧
    block ≤ config.safeHead rescan.scan.head

/-- The blocks of a contract that a history has asked for. -/
def AskedBefore (config : Config) (chain : Chain) (contract : Contract) (block : Nat) :
    List Rescan → State → Prop
  | [], _ => False
  | rescan :: rest, state =>
      rescan.Asks config state contract block ∨
        AskedBefore config chain contract block rest (afterRescan config chain state rescan)

/-- What a scan must not change when it only meets logs from before. -/
structure SameRows (left right : State) : Prop where
  events : left.events = right.events
  tables : left.tables = right.tables
  reported : left.reported = right.reported

section Rescans

variable {config : Config} {chain : Chain} {contract : Contract}

/-- A log that is not declared, or has its raw event stored. -/
def Settled (state : State) (contract : Contract) (log : Log) : Prop :=
  parseLog contract log.emitted ≠ none → state.events log.key ≠ none

theorem settled_absorbed_self (state : State) (log : Log) :
    Settled (state.absorbed config contract log) contract log := by
  intro declared
  unfold State.absorbed
  cases parsed : parseLog contract log.emitted with
  | none => exact absurd parsed declared
  | some event =>
      cases seen : state.events log.key with
      | some raw =>
          dsimp only
          rw [seen]
          exact Option.some_ne_none raw
      | none =>
          simp only [events_notified, State.mirrored, State.recorded, Function.update_self]
          exact Option.some_ne_none _

theorem events_absorbed (state : State) (log : Log) {key : Bytes32 × Nat}
    (seen : state.events key ≠ none) :
    (state.absorbed config contract log).events key ≠ none := by
  unfold State.absorbed
  cases parseLog contract log.emitted with
  | none => exact seen
  | some event =>
      cases new : state.events log.key with
      | some raw => exact seen
      | none =>
          have apart : key ≠ log.key := by
            intro same
            rw [same] at seen
            exact seen new
          simp only [events_notified, State.mirrored, State.recorded]
          rw [Function.update_of_ne apart]
          exact seen

theorem events_foldl_absorbed (logs : List Log) {state : State} {key : Bytes32 × Nat}
    (seen : state.events key ≠ none) :
    (logs.foldl (State.absorbed config contract) state).events key ≠ none :=
  @List.foldlRecOn _ _ (fun state => state.events key ≠ none) logs _ _ seen
    (fun state before log _ => events_absorbed state log before)

theorem settled_foldl_absorbed {logs : List Log} {log : Log} (member : log ∈ logs)
    (state : State) :
    Settled (logs.foldl (State.absorbed config contract) state) contract log := by
  induction logs generalizing state with
  | nil => cases member
  | cons first rest ih =>
      rcases List.mem_cons.mp member with here | later
      · intro declared
        rw [List.foldl_cons, ← here]
        exact events_foldl_absorbed rest (settled_absorbed_self state log declared)
      · exact ih later (state.absorbed config contract first)

theorem events_scanned {currentHead : Nat} {state : State} {key : Bytes32 × Nat}
    (seen : state.events key ≠ none) :
    (state.scanned config chain contract currentHead).events key ≠ none := by
  unfold State.scanned
  split
  · exact events_foldl_absorbed _ seen
  · exact seen

theorem settled_scanned {currentHead : Nat} {state : State} {log : Log}
    (listed : log ∈ chain.logs contract)
    (first : resumeBlock config contract state ≤ log.blockNumber)
    (last : log.blockNumber ≤ config.safeHead currentHead) :
    Settled (state.scanned config chain contract currentHead) contract log := by
  unfold State.scanned
  rw [if_pos (by omega)]
  apply settled_foldl_absorbed
  exact List.mem_filter.mpr ⟨listed, decide_eq_true ⟨first, last⟩⟩

theorem events_rewound (rescan : Rescan) (state : State) :
    (rescan.rewound state).events = state.events := by
  unfold Rescan.rewound
  split <;> rfl

theorem afterRescan_completed {rescan : Rescan} {state : State}
    (completed : (rescan.run config chain state).Completed) :
    afterRescan config chain state rescan =
      (rescan.rewound state).scanned config chain rescan.scan.contract rescan.scan.head :=
  (scanContract_completed completed).after

/-- Scans that run to their end leave every log they asked for settled. -/
theorem settled_runRescans {rescans : List Rescan} {state : State}
    (completes : Along (fun state rescan => (rescan.run config chain state).Completed)
      (afterRescan config chain) rescans state)
    {log : Log} (listed : log ∈ chain.logs contract)
    (asked : Settled state contract log ∨
      AskedBefore config chain contract log.blockNumber rescans state) :
    Settled (runRescans config chain rescans state) contract log := by
  induction rescans generalizing state with
  | nil =>
      rcases asked with settled | impossible
      · exact settled
      · exact absurd impossible id
  | cons rescan rest ih =>
      apply ih completes.2
      rcases asked with settled | here | later
      · left
        intro declared
        rw [afterRescan_completed completes.1]
        apply events_scanned
        rw [events_rewound]
        exact settled declared
      · left
        obtain ⟨own, first, last⟩ := here
        rw [afterRescan_completed completes.1, own]
        exact settled_scanned listed first last
      · exact Or.inr later

section Again

variable {base : State} {faults : Faults}

theorem keeps_dispatch_settled {log : Log} (settled : Settled base contract log) :
    (dispatch config faults contract log).Keeps (SameRows · base) := by
  intro state same
  cases parsed : parseLog contract log.emitted with
  | none =>
      unfold dispatch
      rw [parsed]
      cases config.unknownTopic with
      | null => exact same
      | throws => exact same
  | some event =>
      have stored : state.events log.key ≠ none := by
        rw [same.events]
        apply settled
        rw [parsed]
        exact Option.some_ne_none event
      rw [dispatch_declared config faults parsed, handleOnce_seen stored]
      exact same

theorem keeps_scanChunk_settled {first last : Nat}
    (settled : ∀ log ∈ chain.getLogs contract first last, Settled base contract log) :
    (scanChunk config chain faults contract first last).Keeps (SameRows · base) := by
  apply keeps_read
  intro state before
  refine @Script.Keeps.bind _ _ _ (SameRows · base) _ _ ?_ ?_ state before
  · apply keeps_forEach
    intro log fetched
    exact keeps_dispatch_settled (settled log fetched)
  · intro _
    apply keeps_request
    intro state same
    exact ⟨same.events, same.tables, same.reported⟩

theorem keeps_scanFrom_settled {safeHead rounds cursor : Nat}
    (enough : safeHead + 1 ≤ cursor + rounds)
    (settled : ∀ log ∈ chain.getLogs contract cursor safeHead, Settled base contract log) :
    (scanFrom config chain faults contract safeHead rounds cursor).Keeps (SameRows · base) := by
  rw [scanFrom_eq_forEach]
  apply keeps_forEach
  intro range member
  obtain ⟨start, filled, stop⟩ := (chunkRanges_tiles config enough).bounds range member
  apply keeps_scanChunk_settled
  intro log fetched
  obtain ⟨listed, within⟩ := List.mem_filter.mp fetched
  rw [decide_eq_true_eq] at within
  apply settled
  exact List.mem_filter.mpr ⟨listed, decide_eq_true (by omega)⟩

theorem sameRows_scanContract {currentHead : Nat} {state : State} (same : SameRows state base)
    (settled : ∀ log ∈ chain.getLogs contract (resumeBlock config contract state)
      (config.safeHead currentHead), Settled base contract log) :
    SameRows (scanContract config chain faults contract currentHead state).state base := by
  by_cases answered : faults.blockNumber contract = .none
  · by_cases read : faults.readCheckpoint contract = .none
    · rw [scanContract_eq answered read]
      exact keeps_scanFrom_settled (by omega) settled state same
    · unfold scanContract getLastProcessedBlock
      rw [answered]
      cases fault : faults.readCheckpoint contract with
      | none => exact absurd fault read
      | lost => exact same
      | late => exact same
  · unfold scanContract
    cases fault : faults.blockNumber contract with
    | none => exact absurd fault answered
    | lost => exact same
    | late => exact same

theorem sameRows_rewound {state : State} (rescan : Rescan) (same : SameRows state base) :
    SameRows (rescan.rewound state) base := by
  unfold Rescan.rewound
  split
  · exact same
  · exact ⟨same.events, same.tables, same.reported⟩

theorem sameRows_runRescans {rescans : List Rescan} {state : State}
    (same : SameRows state base)
    (settled : Along (fun state rescan => ∀ log ∈ chain.logs rescan.scan.contract,
        rescan.Asks config state rescan.scan.contract log.blockNumber →
          Settled base rescan.scan.contract log)
      (afterRescan config chain) rescans state) :
    SameRows (runRescans config chain rescans state) base := by
  induction rescans generalizing state with
  | nil => exact same
  | cons rescan rest ih =>
      apply ih ?_ settled.2
      apply sameRows_scanContract (sameRows_rewound rescan same)
      intro log fetched
      obtain ⟨listed, within⟩ := List.mem_filter.mp fetched
      rw [decide_eq_true_eq] at within
      exact settled.1 log listed ⟨rfl, within⟩

end Again

end Rescans

/-- After any history of scans that ran to their end, with the checkpoints moved
in between in any way, scans of blocks already asked for change no row and send
no report, wherever they start and whatever fails in them. -/
theorem rescans_change_nothing {config : Config} {chain : Chain} {history : List Rescan}
    (completes : Along (fun state rescan => (rescan.run config chain state).Completed)
      (afterRescan config chain) history State.empty)
    {rescans : List Rescan}
    (again : Along (fun state rescan => ∀ log ∈ chain.logs rescan.scan.contract,
        rescan.Asks config state rescan.scan.contract log.blockNumber →
          AskedBefore config chain rescan.scan.contract log.blockNumber history State.empty)
      (afterRescan config chain) rescans (runRescans config chain history State.empty)) :
    SameRows
      (runRescans config chain rescans (runRescans config chain history State.empty))
      (runRescans config chain history State.empty) := by
  apply sameRows_runRescans ⟨rfl, rfl, rfl⟩
  refine along_mono ?_ again
  intro state rescan asked log listed asks
  exact settled_runRescans completes listed (Or.inr (asked log listed asks))

def sampleHistory : List Rescan :=
  sampleScans.map fun scan => { rewind := none, scan }

/-- The checkpoint is deleted, then set back to block 5 twice. -/
def sampleRescans : List Rescan :=
  [⟨some none, .claimRegistry, 20, Faults.none⟩,
    ⟨some (some 5), .claimRegistry, 12, unreportedPass.faults⟩,
    ⟨some (some 5), .claimRegistry, 40, Faults.none⟩]

theorem rescans_change_nothing_sample :
    (runRescans sampleConfig sampleChain sampleHistory State.empty).reported.length = 1 ∧
      SameRows
        (runRescans sampleConfig sampleChain sampleRescans
          (runRescans sampleConfig sampleChain sampleHistory State.empty))
        (runRescans sampleConfig sampleChain sampleHistory State.empty) := by
  have completes : Along
      (fun state rescan => (rescan.run sampleConfig sampleChain state).Completed)
      (afterRescan sampleConfig sampleChain) sampleHistory State.empty :=
    ⟨by decide, by decide, by decide, by decide, trivial⟩
  refine ⟨by decide, rescans_change_nothing completes ?_⟩
  have first : AskedBefore sampleConfig sampleChain .claimRegistry 3 sampleHistory State.empty :=
    Or.inl ⟨rfl, by decide, by decide⟩
  have only : ∀ log ∈ sampleChain.logs .claimRegistry,
      AskedBefore sampleConfig sampleChain .claimRegistry log.blockNumber sampleHistory
        State.empty := by
    intro log member
    rw [List.mem_singleton.mp member]
    exact first
  exact ⟨fun log member _ => only log member, fun log member _ => only log member,
    fun log member _ => only log member, trivial⟩

end Dics.Indexer
