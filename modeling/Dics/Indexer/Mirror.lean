/-
The claims table as a mirror of the ClaimRegistry.

Processing acceptable logs without failures amounts to folding the handlers'
queries over them.  Of the registry's five status writers two emit an event whose
handler always throws, so the table follows the registry only as long as every
claim is as it was submitted; and a submission reports the amount and the policy
id before they are narrowed to their storage width.
-/

import Dics.Indexer.Recovery
import Dics.Chain.RegistryRuns

open Transactions Scripts

namespace Dics.Indexer

/-! ### Processing logs without failures -/

def mirror (contract : Contract) (tables : Tables) (log : Log) : Tables :=
  match parseLog contract log.emitted with
  | some event => (event.query log tables).1
  | none => tables

/-- Every log in order, those of undeclared events skipped. -/
def processLogs (config : Config) (contract : Contract) (logs : List Log) : Script State Unit :=
  forEach (dispatch config Faults.none contract)
    (logs.filter fun log => parseLog contract log.emitted ≠ none)

section Process

variable {config : Config} {contract : Contract}

/-- Whatever fails on the way, a log changes the tables as its handler's query does,
or not at all. -/
theorem dispatch_tables (faults : Faults) (log : Log) (state : State) :
    (dispatch config faults contract log state).state.tables = state.tables ∨
      (dispatch config faults contract log state).state.tables =
        mirror contract state.tables log := by
  cases parsed : parseLog contract log.emitted with
  | none =>
      left
      rw [dispatch, parsed]
      cases config.unknownTopic with
      | null => rfl
      | throws => rfl
  | some event =>
      rw [dispatch_declared config faults parsed, mirror, parsed]
      by_cases new : state.events log.key = none
      · cases raw : faults.onRawInsert log event with
        | lost =>
            left
            rw [handleOnce_lost raw]
        | late =>
            left
            unfold handleOnce persistRawEventOnce
            rw [bind_run, raw, request_late, insertRawEvent_new new]
            rfl
        | none =>
            rw [handleOnce_new new raw, bind_run]
            cases faults.onStateWrite log event with
            | lost => exact Or.inl rfl
            | late => exact Or.inr rfl
            | none =>
                obtain ⟨reported, done⟩ := reportIfAny_state config faults log
                  (event.query log state.tables).2 (state.mirrored contract log event)
                exact Or.inr (congrArg State.tables done)
      · left
        rw [handleOnce_seen new]

theorem dispatch_new {log : Log} {state : State} (new : state.events log.key = none)
    (declared : parseLog contract log.emitted ≠ none) (acceptable : Acceptable contract log) :
    ∃ next, dispatch config Faults.none contract log state = ⟨next, some ()⟩ ∧
      next.tables = mirror contract state.tables log ∧
      ∀ key, key ≠ log.key → next.events key = state.events key := by
  obtain ⟨event, parsed⟩ := Option.ne_none_iff_exists'.mp declared
  obtain ⟨recordable, fits⟩ := acceptable event parsed
  rw [dispatch_declared config Faults.none parsed,
    handleOnce_new new (onRawInsert_none recordable), onStateWrite_none recordable fits, mirror,
    parsed]
  change ∃ next, reportIfAny config Faults.none log (event.query log state.tables).2
    { state.recorded contract log event with tables := (event.query log state.tables).1 } = _ ∧ _
  have others : ∀ key, key ≠ log.key →
      (state.recorded contract log event).events key = state.events key :=
    fun key different => Function.update_of_ne different _ _
  cases (event.query log state.tables).2 with
  | none => exact ⟨_, rfl, rfl, others⟩
  | some notification =>
      unfold reportIfAny reportClaimEvent
      dsimp only
      split
      · exact ⟨_, rfl, rfl, others⟩
      · exact ⟨_, rfl, rfl, others⟩

theorem foldl_mirror_filter (logs : List Log) (tables : Tables) :
    (logs.filter fun log => parseLog contract log.emitted ≠ none).foldl (mirror contract) tables =
      logs.foldl (mirror contract) tables := by
  induction logs generalizing tables with
  | nil => rfl
  | cons log rest ih =>
      cases parsed : parseLog contract log.emitted with
      | none =>
          have same : mirror contract tables log = tables := by rw [mirror, parsed]
          rw [List.filter_cons_of_neg (by rw [parsed]; decide), List.foldl_cons, same]
          exact ih tables
      | some event =>
          rw [List.filter_cons_of_pos (by rw [parsed]; rfl), List.foldl_cons, List.foldl_cons]
          exact ih _

theorem forEach_dispatch_new {logs : List Log} {state : State}
    (declared : ∀ log ∈ logs, parseLog contract log.emitted ≠ none)
    (acceptable : ∀ log ∈ logs, Acceptable contract log)
    (identified : (logs.map Log.key).Nodup)
    (new : ∀ log ∈ logs, state.events log.key = none) :
    (forEach (dispatch config Faults.none contract) logs state).Completed ∧
      (forEach (dispatch config Faults.none contract) logs state).state.tables =
        logs.foldl (mirror contract) state.tables := by
  induction logs generalizing state with
  | nil => exact ⟨nofun, rfl⟩
  | cons log rest ih =>
      obtain ⟨unrepeated, distinct⟩ := List.nodup_cons.mp identified
      obtain ⟨next, done, tables, others⟩ := @dispatch_new config contract log state
        (new log List.mem_cons_self) (declared log List.mem_cons_self)
        (acceptable log List.mem_cons_self)
      have continued : forEach (dispatch config Faults.none contract) (log :: rest) state =
          forEach (dispatch config Faults.none contract) rest next := bind_of_some done _
      rw [continued, List.foldl_cons, ← tables]
      apply ih (fun other member => declared other (List.mem_cons_of_mem _ member))
        (fun other member => acceptable other (List.mem_cons_of_mem _ member)) distinct
      intro other member
      have different : other.key ≠ log.key := by
        intro same
        exact unrepeated (same ▸ List.mem_map_of_mem member)
      rw [others other.key different]
      exact new other (List.mem_cons_of_mem _ member)

/-- Processing acceptable logs from an empty database completes and leaves their
fold. -/
theorem processLogs_tables (config : Config) (contract : Contract) {logs : List Log}
    (acceptable : ∀ log ∈ logs, Acceptable contract log)
    (identified : (logs.map Log.key).Nodup) :
    (processLogs config contract logs State.empty).Completed ∧
      (processLogs config contract logs State.empty).state.tables =
        logs.foldl (mirror contract) Tables.empty := by
  have distinct : ((logs.filter fun log => parseLog contract log.emitted ≠ none).map
      Log.key).Nodup := identified.sublist (List.filter_sublist.map Log.key)
  obtain ⟨completed, tables⟩ := @forEach_dispatch_new config contract _ State.empty
    (fun log member => of_decide_eq_true (List.mem_filter.mp member).2)
    (fun log member => acceptable log (List.mem_filter.mp member).1) distinct
    (fun _ _ => rfl)
  rw [foldl_mirror_filter] at tables
  exact ⟨completed, tables⟩

/-- Logs of events that are not declared fold to nothing. -/
theorem foldl_mirror_undeclared {logs : List Log}
    (undeclared : ∀ log ∈ logs, parseLog contract log.emitted = none) (tables : Tables) :
    logs.foldl (mirror contract) tables = tables := by
  induction logs generalizing tables with
  | nil => rfl
  | cons log rest ih =>
      have same : mirror contract tables log = tables := by
        rw [mirror, undeclared log List.mem_cons_self]
      rw [List.foldl_cons, same]
      exact ih (fun other member => undeclared other (List.mem_cons_of_mem _ member)) tables

theorem undeclared_of_emitted {Event : Type} {wrap : Event → Emitted} {logs : List Log}
    {events : List Event} (emitted : logs.map Log.emitted = events.map wrap)
    (quiet : ∀ event ∈ events, parseLog contract (wrap event) = none) :
    ∀ log ∈ logs, parseLog contract log.emitted = none := by
  intro log member
  have shown := List.mem_map_of_mem (f := Log.emitted) member
  rw [emitted] at shown
  obtain ⟨event, among, same⟩ := List.mem_map.mp shown
  rw [← same]
  exact quiet event among

/-- The place of a declared log in the chain fits the columns of the raw event. -/
def Placed (contract : Contract) (log : Log) : Prop :=
  parseLog contract log.emitted ≠ none → log.index < 2 ^ 31 ∧ log.blockNumber < 2 ^ 63

instance (contract : Contract) (log : Log) : Decidable (Placed contract log) :=
  inferInstanceAs (Decidable (_ → _))

theorem acceptable_of_undeclared {log : Log} (unknown : parseLog contract log.emitted = none) :
    Acceptable contract log := by
  intro event parsed
  rw [unknown] at parsed
  cases parsed

theorem acceptable_of_declared {log : Log} {event : Parsed} (placed : Placed contract log)
    (declared : parseLog contract log.emitted = some event)
    (noStatusChange : event.isStatusChange = false) (fits : event.Fits) :
    Acceptable contract log := by
  have known : parseLog contract log.emitted ≠ none := by
    rw [declared]
    exact Option.some_ne_none event
  intro other parsed
  rw [declared] at parsed
  cases parsed
  exact ⟨⟨noStatusChange, placed known⟩, fits⟩

/-- The induction rule for a run and the fold of its logs: if the logs of one
commit are acceptable and keep a fact, so do the logs of the whole run. -/
theorem mirror_run {World Call Output Error : Type}
    {exec : World → Call → Except Error (World × Output)} {start : World}
    {shows : Transactions.Commit World Call Output → List Emitted}
    {Holds : World → Tables → Prop} {Allowed : Transactions.Commit World Call Output → Prop}
    (initial : Holds start Tables.empty)
    (step : ∀ world call next output, exec world call = .ok (next, output) →
      Allowed ⟨world, call, output, next⟩ →
      ∀ (tables : Tables) (logs : List Log), Holds world tables →
      logs.map Log.emitted = shows ⟨world, call, output, next⟩ →
      (∀ log ∈ logs, Placed contract log) →
      Holds next (logs.foldl (mirror contract) tables) ∧ ∀ log ∈ logs, Acceptable contract log)
    (calls : List Call) (allowed : ∀ commit ∈ history exec start calls, Allowed commit)
    {logs : List Log} (emitted : logs.map Log.emitted = (history exec start calls).flatMap shows)
    (placed : ∀ log ∈ logs, Placed contract log) :
    Holds (run exec start calls) (logs.foldl (mirror contract) Tables.empty) ∧
      ∀ log ∈ logs, Acceptable contract log := by
  refine @run_induction _ _ _ _ exec
    (fun world past => ∀ logs : List Log, logs.map Log.emitted = past.flatMap shows →
      (∀ log ∈ logs, Placed contract log) →
      Holds world (logs.foldl (mirror contract) Tables.empty) ∧
        ∀ log ∈ logs, Acceptable contract log)
    Allowed start ?_ ?_ calls allowed logs emitted placed
  · intro logs nothing _
    rw [List.map_eq_nil_iff.mp nothing]
    exact ⟨initial, List.forall_mem_nil _⟩
  · intro world past call next output before done permitted logs emitted placed
    rw [List.flatMap_append, List.flatMap_singleton] at emitted
    obtain ⟨earlier, latest, rfl, earlierEmitted, latestEmitted⟩ :=
      List.map_eq_append_iff.mp emitted
    rw [List.forall_mem_append] at placed
    obtain ⟨held, first⟩ := before earlier earlierEmitted placed.1
    obtain ⟨kept, second⟩ :=
      step world call next output done permitted _ latest held latestEmitted placed.2
    rw [List.foldl_append]
    exact ⟨kept, List.forall_mem_append.mpr ⟨first, second⟩⟩

end Process

/-! ### Rows and records -/

section Rows

variable {Row Record : Type} {Agree : Row → Record → Prop} {rows : Nat → Option Row}
  {records : Nat → Record} {record : Record} {key id : Nat}

theorem agree_insertOnce {row : Row} (absent : rows key = none) (agrees : Agree row record)
    (others : id ≠ key → ∃ found, rows id = some found ∧ Agree found (records id)) :
    ∃ found, insertOnce rows key row id = some found ∧
      Agree found (Function.update records key record id) := by
  have inserted : insertOnce rows key row = Function.update rows key (some row) := by
    rw [insertOnce, absent]
  rw [inserted]
  by_cases same : id = key
  · rw [same, Function.update_self, Function.update_self]
    exact ⟨row, rfl, agrees⟩
  · rw [Function.update_of_ne same, Function.update_of_ne same]
    exact others same

theorem agree_updateRow {change : Row → Row}
    (agrees : ∀ row, Agree row (records key) → Agree (change row) record)
    (before : ∃ found, rows id = some found ∧ Agree found (records id)) :
    ∃ found, updateRow rows key change id = some found ∧
      Agree found (Function.update records key record id) := by
  obtain ⟨row, stored, matching⟩ := before
  rw [updateRow]
  by_cases same : id = key
  · subst same
    rw [Function.update_self, Function.update_self, stored]
    exact ⟨change row, rfl, agrees row matching⟩
  · rw [Function.update_of_ne same, Function.update_of_ne same]
    exact ⟨row, stored, matching⟩

theorem insertOnce_of_ne {row : Row} (other : id ≠ key) :
    insertOnce rows key row id = rows id := by
  rw [insertOnce]
  cases rows key with
  | some found => rfl
  | none => exact Function.update_of_ne other ..

theorem updateRow_of_absent {change : Row → Row} (absent : rows id = none) :
    updateRow rows key change id = none := by
  rw [updateRow]
  by_cases same : id = key
  · rw [same, Function.update_self, ← same, absent]
    rfl
  · rw [Function.update_of_ne same]
    exact absent

end Rows

/-! ### The claim registry -/

open ClaimRegistry (Deployment Fn World Call Commit)

structure RowMatches (row : ClaimRow) (claim : ClaimRegistry.Claim) : Prop where
  status : claimStatusNames[claim.status.index]? = some row.status
  policyId : row.policyId = claim.policyId.toNat
  claimantAddress : row.claimantAddress = claim.claimant
  merkleRoot : row.merkleRoot = claim.merkleRoot
  amount : row.amount = claim.amount.toNat

def MirrorsClaims (registry : ClaimRegistry.State) (rows : Nat → Option ClaimRow) : Prop :=
  ∀ id, 1 ≤ id → id < registry.nextClaimId →
    ∃ row, rows id = some row ∧ RowMatches row (registry.claims id)

def emittedBy (commits : List Commit) : List Emitted :=
  commits.flatMap fun commit => commit.output.events.map .registry

/-- A commit that the indexer follows: it decides no claim, and a submission fits
the columns of its row and the widths it is stored in. -/
def Reported (commit : Commit) : Prop :=
  match commit.call.target with
  | .registry (.submitClaim policyId _ amount) =>
      commit.before.registry.nextClaimId < 2 ^ 63 ∧ policyId < 2 ^ 63 ∧ amount < 2 ^ 96
  | .registry fn => fn.writes = none
  | .token _ _ => True

instance (commit : Commit) : Decidable (Reported commit) := by
  unfold Reported
  split <;> infer_instance

section Registry

variable {self : Address} {world next : World} {call : Call}
  {receipt : Receipt ClaimRegistry.Event}

/-- As long as every claim is as it was submitted, no payout commits. -/
theorem exec_reported (done : ClaimRegistry.exec self world call = .ok (next, receipt))
    (reported : Reported ⟨world, call, receipt, next⟩)
    (undecided : ∀ id, (world.registry.claims id).status = .submitted) :
    (∃ policyId merkleRoot amount policy consumedSoFar,
      (world.registry.nextClaimId < 2 ^ 63 ∧ policyId < 2 ^ 63 ∧ amount < 2 ^ 96) ∧
      ClaimRegistry.Submitted world call.msg call.registries policyId merkleRoot amount policy
        consumedSoFar next receipt) ∨
    (next.registry.claims = world.registry.claims ∧
      next.registry.nextClaimId = world.registry.nextClaimId ∧
      ∀ event ∈ receipt.events, event.concerns = none) := by
  unfold ClaimRegistry.exec at done
  unfold Reported at reported
  cases target : call.target with
  | token token act =>
      rw [target] at done
      obtain ⟨⟨_, _⟩, _, same⟩ := bind_eq_ok.mp done
      cases same
      exact Or.inr ⟨rfl, rfl, List.forall_mem_nil _⟩
  | registry fn =>
      rw [target] at done
      dsimp only at reported
      rw [target] at reported
      rcases ClaimRegistry.callFn_cases done with
        ⟨policyId, merkleRoot, amount, policy, consumedSoFar, rfl, submitted⟩ |
        ⟨claimId, status, writes, _⟩ | ⟨claimId, _, paid⟩ | ⟨_, _, administered⟩
      · exact Or.inl ⟨policyId, merkleRoot, amount, policy, consumedSoFar, reported, submitted⟩
      · cases fn with
        | submitClaim policyId merkleRoot amount => cases writes
        | _ =>
            rw [reported] at writes
            cases writes
      · have approved := paid.approved
        rw [undecided claimId] at approved
        cases approved
      · exact Or.inr ⟨administered.claims, administered.books.nextClaimId, administered.events⟩

/-- A receipt with one event leaves exactly one log. -/
theorem single_log {logs : List Log} {event : ClaimRegistry.Event}
    (emitted : logs.map Log.emitted = receipt.events.map .registry)
    (only : receipt.events = [event]) : ∃ log, logs = [log] ∧ log.emitted = .registry event := by
  rw [only] at emitted
  obtain ⟨log, rfl, shown⟩ := List.map_eq_singleton_iff.mp emitted
  exact ⟨log, rfl, shown⟩

/-- The registry and the folded rows agree, no row is ahead of the registry, and
no claim was decided. -/
structure InStep (registry : ClaimRegistry.State) (rows : Nat → Option ClaimRow) : Prop where
  mirrors : MirrorsClaims registry rows
  noneAhead : ∀ id, registry.nextClaimId ≤ id → rows id = none
  undecided : ∀ id, (registry.claims id).status = .submitted

theorem InStep.inserted {before after : ClaimRegistry.State} {rows : Nat → Option ClaimRow}
    (inStep : InStep before rows) (nextClaimId : after.nextClaimId = before.nextClaimId + 1)
    {claim : ClaimRegistry.Claim}
    (claims : after.claims = Function.update before.claims before.nextClaimId claim)
    (submitted : claim.status = .submitted) {row : ClaimRow} (agrees : RowMatches row claim) :
    InStep after (insertOnce rows before.nextClaimId row) := by
  have absent := inStep.noneAhead before.nextClaimId (Nat.le_refl _)
  constructor
  case mirrors =>
    intro id positive below
    rw [nextClaimId] at below
    rw [claims]
    apply agree_insertOnce absent agrees
    intro different
    exact inStep.mirrors id positive (by omega)
  case noneAhead =>
    intro id ahead
    rw [nextClaimId] at ahead
    rw [insertOnce_of_ne (by omega)]
    exact inStep.noneAhead id (by omega)
  case undecided =>
    intro id
    rw [claims]
    by_cases new : id = before.nextClaimId
    · rw [new, Function.update_self]
      exact submitted
    · rw [Function.update_of_ne new]
      exact inStep.undecided id

/-- Events about no claim are not declared. -/
theorem parseLog_of_quiet {event : ClaimRegistry.Event} (quiet : event.concerns = none) :
    parseLog .claimRegistry (.registry event) = none := by
  cases event <;> first | rfl | cases quiet

/-- The logs of one commit are acceptable and bring the rows to where the commit
brought the registry. -/
theorem inStep_step (done : ClaimRegistry.exec self world call = .ok (next, receipt))
    (reported : Reported ⟨world, call, receipt, next⟩) {tables : Tables}
    (inStep : InStep world.registry tables.claims) {logs : List Log}
    (emitted : logs.map Log.emitted = receipt.events.map .registry)
    (placed : ∀ log ∈ logs, Placed .claimRegistry log) :
    InStep next.registry (logs.foldl (mirror .claimRegistry) tables).claims ∧
      ∀ log ∈ logs, Acceptable .claimRegistry log := by
  rcases exec_reported done reported inStep.undecided with
    ⟨policyId, merkleRoot, amount, policy, consumedSoFar, ⟨idFits, policyFits, amountFits⟩,
      submitted⟩ | ⟨claims, nextClaimId, quiet⟩
  · obtain ⟨log, rfl, shown⟩ := single_log emitted (congrArg Receipt.events submitted.receipt)
    have declared : parseLog .claimRegistry log.emitted = some (.claimSubmitted
        world.registry.nextClaimId policyId call.msg.sender merkleRoot amount
        call.msg.timestamp) := by
      rw [shown]
      rfl
    rw [List.foldl_cons, List.foldl_nil, mirror, declared]
    refine ⟨inStep.inserted submitted.nextClaimId submitted.claims rfl ⟨rfl, ?_, rfl, rfl, ?_⟩, ?_⟩
    · exact ((BitVec.toNat_ofNat _ _).trans
        (Nat.mod_eq_of_lt (Nat.lt_trans policyFits (by decide)))).symm
    · exact ((BitVec.toNat_ofNat _ _).trans (Nat.mod_eq_of_lt amountFits)).symm
    · intro other member
      rw [List.mem_singleton.mp member]
      exact acceptable_of_declared (placed log List.mem_cons_self) declared rfl
        ⟨idFits, policyFits⟩
  · have undeclared := undeclared_of_emitted emitted
      (fun event member => parseLog_of_quiet (quiet event member))
    rw [foldl_mirror_undeclared undeclared]
    refine ⟨⟨?_, ?_, ?_⟩, fun log member => acceptable_of_undeclared (undeclared log member)⟩
    · intro id positive below
      rw [nextClaimId] at below
      rw [claims]
      exact inStep.mirrors id positive below
    · intro id ahead
      rw [nextClaimId] at ahead
      exact inStep.noneAhead id ahead
    · rw [claims]
      exact inStep.undecided

theorem inStep_run (deployment : Deployment) (calls : List Call)
    (reported : ∀ commit ∈ deployment.history calls, Reported commit) (logs : List Log)
    (emitted : logs.map Log.emitted = emittedBy (deployment.history calls))
    (placed : ∀ log ∈ logs, Placed .claimRegistry log) :
    InStep (deployment.run calls).registry
        (logs.foldl (mirror .claimRegistry) Tables.empty).claims ∧
      ∀ log ∈ logs, Acceptable .claimRegistry log := by
  refine @mirror_run .claimRegistry _ _ _ _ (ClaimRegistry.exec deployment.self)
    deployment.start (fun commit => commit.output.events.map .registry)
    (fun world tables => InStep world.registry tables.claims) Reported ?_ ?_ calls reported logs
    emitted placed
  · refine ⟨?_, fun _ _ => rfl, fun _ => rfl⟩
    intro id positive below
    exact absurd positive (Nat.not_le_of_lt below)
  · intro world call next receipt done allowed tables logs before emitted placed
    exact inStep_step done allowed before emitted placed

end Registry

/-- The logs of a run are processed to the end and the claims table then agrees
with the registry on every claim, provided no status change is committed and
every submission fits. -/
theorem rows_mirror_claims (config : Config) (deployment : Deployment) (calls : List Call)
    (logs : List Log) (emitted : logs.map Log.emitted = emittedBy (deployment.history calls))
    (identified : (logs.map Log.key).Nodup) (placed : ∀ log ∈ logs, Placed .claimRegistry log)
    (reported : ∀ commit ∈ deployment.history calls, Reported commit) :
    (processLogs config .claimRegistry logs State.empty).Completed ∧
      MirrorsClaims (deployment.run calls).registry
        (processLogs config .claimRegistry logs State.empty).state.tables.claims := by
  obtain ⟨inStep, acceptable⟩ := inStep_run deployment calls reported logs emitted placed
  obtain ⟨completed, tables⟩ := processLogs_tables config .claimRegistry acceptable identified
  refine ⟨completed, ?_⟩
  rw [tables]
  exact inStep.mirrors

section Sample

open ClaimRegistry (sampleDeployment sampleCall wideCall)

def logAt (index : Nat) (event : ClaimRegistry.Event) : Log :=
  { transactionHash := BitVec.ofNat 256 index
    index
    blockNumber := index
    emitted := .registry event }

/-- `0xA1` submits two claims, and the registry is paused. -/
def submittedCalls : List Call :=
  [sampleCall 0xAD (.changeRole (.grantRole .pauser 0xD1)),
   sampleCall 0xA1 (.submitClaim 7 0 500),
   sampleCall 0xA1 (.submitClaim 8 0x5E 300),
   sampleCall 0xD1 .pause]

def submittedLogs : List Log :=
  [logAt 1 (.roleChanged (.grantRole .pauser 0xD1)),
   logAt 2 (.claimSubmitted 1 7 0xA1 0 500 10),
   logAt 3 (.claimSubmitted 2 8 0xA1 0x5E 300 10),
   logAt 4 (.paused 0xD1)]

theorem rows_mirror_claims_submitted :
    (sampleDeployment.run submittedCalls).registry.nextClaimId = 3 ∧
      (processLogs sampleConfig .claimRegistry submittedLogs State.empty).Completed ∧
      MirrorsClaims (sampleDeployment.run submittedCalls).registry
        (processLogs sampleConfig .claimRegistry submittedLogs State.empty).state.tables.claims :=
  ⟨by decide, rows_mirror_claims sampleConfig sampleDeployment submittedCalls submittedLogs
    (by decide) (by decide) (by decide) (by decide)⟩

/-- The only claim is submitted and approved. -/
def approvedCalls : List Call :=
  [sampleCall 0xAD (.changeRole (.grantRole .underwriter 0xD1)),
   sampleCall 0xA1 (.submitClaim 7 0 500),
   sampleCall 0xD1 (.setClaimStatus 1 .approved)]

def approvedLogs : List Log :=
  [logAt 1 (.roleChanged (.grantRole .underwriter 0xD1)),
   logAt 2 (.claimSubmitted 1 7 0xA1 0 500 10),
   logAt 3 (.claimStatusChanged 1 .approved)]

def wideLogs : List Log :=
  [logAt 1 (.claimSubmitted 1 7 0xA1 0 (2 ^ 96) 10)]

/-- The handler throws on the approval and the row stays `submitted`; the row of a
claim for `2 ^ 96` does not have the stored amount `0`. -/
theorem approved_and_wide_claims_not_mirrored :
    (approvedLogs.map Log.emitted = emittedBy (sampleDeployment.history approvedCalls) ∧
      ¬(processLogs sampleConfig .claimRegistry approvedLogs State.empty).Completed ∧
      ¬MirrorsClaims (sampleDeployment.run approvedCalls).registry
        (processLogs sampleConfig .claimRegistry approvedLogs State.empty).state.tables.claims) ∧
    (wideLogs.map Log.emitted = emittedBy (sampleDeployment.history [wideCall]) ∧
      ¬MirrorsClaims (sampleDeployment.run [wideCall]).registry
        (processLogs sampleConfig .claimRegistry wideLogs State.empty).state.tables.claims) := by
  refine ⟨⟨by decide, by decide, ?_⟩, ⟨by decide, ?_⟩⟩
  · intro mirrors
    obtain ⟨row, stored, agrees⟩ := mirrors 1 (by decide) (by decide)
    have submitted : ((processLogs sampleConfig .claimRegistry approvedLogs
        State.empty).state.tables.claims 1).map ClaimRow.status = some .submitted := by decide
    have approved : ((sampleDeployment.run approvedCalls).registry.claims 1).status =
        .approved := by decide
    rw [stored] at submitted
    have status := agrees.status
    rw [approved, ← Option.map_some, submitted] at status
    revert status
    decide
  · intro mirrors
    obtain ⟨row, stored, agrees⟩ := mirrors 1 (by decide) (by decide)
    have emitted : ((processLogs sampleConfig .claimRegistry wideLogs
        State.empty).state.tables.claims 1).map ClaimRow.amount = some (2 ^ 96) := by decide
    have narrowed : ((sampleDeployment.run [wideCall]).registry.claims 1).amount.toNat = 0 := by
      decide
    rw [stored, Option.map_some, agrees.amount, narrowed] at emitted
    revert emitted
    decide

end Sample

end Dics.Indexer
