/-
The indexer's scan passes.

A pass scans the policy contract and then the claim registry, chunk by chunk
from the stored checkpoint up to the safe head, and stores the checkpoint after
each chunk.  A pass that throws is abandoned; the main loop starts the next one
from whatever the database then holds.
-/

import Dics.Indexer.Handlers

open Scripts

namespace Dics.Indexer

/-- All logs the two contracts ever emit, in the order the provider returns
them.  A transaction hash and a log index identify a log. -/
structure Chain where
  logs : Contract → List Log
  ordered : ∀ contract, (logs contract).Pairwise fun first second =>
    first.blockNumber ≤ second.blockNumber
  identified : ((logs .insurancePolicy ++ logs .claimRegistry).map Log.key).Nodup

def Chain.getLogs (chain : Chain) (contract : Contract) (fromBlock toBlock : Nat) : List Log :=
  (chain.logs contract).filter fun log =>
    fromBlock ≤ log.blockNumber ∧ log.blockNumber ≤ toBlock

def getLastProcessedBlock (faults : Faults) (contract : Contract) : Script State (Option Nat) :=
  request (faults.readCheckpoint contract) fun state => (state, state.checkpoints contract)

def setLastProcessedBlock (faults : Faults) (contract : Contract) (blockNumber : Nat) :
    Script State Unit :=
  request (faults.writeCheckpoint contract blockNumber) fun state =>
    ({ state with
        checkpoints := Function.update state.checkpoints contract (some blockNumber) },
      ())

/-- The body of the loop over the logs of a chunk.  A null from `parseLog`
passes the `try` and fails at `parsed.name`. -/
def dispatch (config : Config) (faults : Faults) (contract : Contract) (log : Log) :
    Script State Unit :=
  match parseLog contract log.emitted with
  | some event => handler config faults contract log event
  | none =>
      match config.unknownTopic with
      | .null => interrupt
      | .throws => pure ()

theorem dispatch_declared (config : Config) (faults : Faults) {contract : Contract} {log : Log}
    {event : Parsed} (parsed : parseLog contract log.emitted = some event) :
    dispatch config faults contract log =
      handleOnce config faults contract log event (event.query log) := by
  rw [dispatch, parsed, ← handler_eq]

def scanChunk (config : Config) (chain : Chain) (faults : Faults) (contract : Contract)
    (cursor toBlock : Nat) : Script State Unit := do
  let logs ← request (faults.getLogs contract cursor) fun state =>
    (state, chain.getLogs contract cursor toBlock)
  forEach (dispatch config faults contract) logs
  setLastProcessedBlock faults contract toBlock

/-- The `while` loop.  Every chunk has at least one block, so as many rounds as
there are blocks left are enough. -/
def scanFrom (config : Config) (chain : Chain) (faults : Faults) (contract : Contract)
    (safeHead : Nat) : Nat → Nat → Script State Unit
  | 0, _ => pure ()
  | rounds + 1, cursor =>
      if cursor ≤ safeHead then do
        let toBlock := min (cursor + config.blockRangeChunkSize - 1) safeHead
        scanChunk config chain faults contract cursor toBlock
        scanFrom config chain faults contract safeHead rounds (toBlock + 1)
      else pure ()

def Config.safeHead (config : Config) (currentHead : Nat) : Nat :=
  currentHead - config.reorgSafetyBlocks

def scanContract (config : Config) (chain : Chain) (faults : Faults) (contract : Contract)
    (currentHead : Nat) : Script State Unit := do
  let currentHead ← request (faults.blockNumber contract) fun state => (state, currentHead)
  let safeHead := config.safeHead currentHead
  let checkpoint ← getLastProcessedBlock faults contract
  let fromBlock := match checkpoint with
    | none => config.deployBlock contract
    | some block => block + 1
  scanFrom config chain faults contract safeHead (safeHead + 1 - fromBlock) fromBlock

/-- The block a scan starts from. -/
def resumeBlock (config : Config) (contract : Contract) (state : State) : Nat :=
  match state.checkpoints contract with
  | none => config.deployBlock contract
  | some block => block + 1

theorem scanContract_eq {config : Config} {chain : Chain} {faults : Faults}
    {contract : Contract} (answered : faults.blockNumber contract = .none)
    (read : faults.readCheckpoint contract = .none) (currentHead : Nat) (state : State) :
    scanContract config chain faults contract currentHead state =
      scanFrom config chain faults contract (config.safeHead currentHead)
        (config.safeHead currentHead + 1 - resumeBlock config contract state)
        (resumeBlock config contract state) state := by
  unfold scanContract getLastProcessedBlock
  rw [answered, read]
  rfl

theorem scanContract_unanswered {config : Config} {chain : Chain} {faults : Faults}
    {contract : Contract} (unanswered : faults.blockNumber contract ≠ .none)
    (currentHead : Nat) (state : State) :
    ¬(scanContract config chain faults contract currentHead state).Completed := by
  unfold scanContract
  rw [bind_run]
  cases fault : faults.blockNumber contract with
  | none => exact absurd fault unanswered
  | lost => exact fun completed => completed rfl
  | late => exact fun completed => completed rfl

/-- One turn of the main loop: the head each of the two scans sees, and what
happens to its requests. -/
structure Pass where
  head : Contract → Nat
  faults : Faults

def runOnePass (config : Config) (chain : Chain) (pass : Pass) : Script State Unit := do
  scanContract config chain pass.faults .insurancePolicy (pass.head .insurancePolicy)
  scanContract config chain pass.faults .claimRegistry (pass.head .claimRegistry)

def mainLoop (config : Config) (chain : Chain) (passes : List Pass) (state : State) : State :=
  passes.foldl (fun state pass => (runOnePass config chain pass state).state) state

def sampleConfig : Config :=
  { blockRangeChunkSize := 10
    chunkPositive := by decide
    reorgSafetyBlocks := 5
    deployBlock := fun _ => 1
    backendUrl := true
    unknownTopic := .null }

end Dics.Indexer
