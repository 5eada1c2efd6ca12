/-
The events no handler gets past.

With the database and the backend healthy it is the values of an event alone that
decide.  A status change is always among those that are refused: its handler
hands the status to the database as the big integer it was decoded to.
-/

import Dics.Indexer.Scan
import Dics.Indexer.PolicyMirror

open Scripts

namespace Dics.Indexer

theorem handlerPasses_none (config : Config) (log : Log) (event : Parsed) (state : State) :
    HandlerPasses config Faults.none log event state ↔
      Recordable log event ∧ (state.events log.key = none → event.Fits) := by
  constructor
  · rintro ⟨inserted, written⟩
    have recordable := (onRawInsert_eq_none_iff.mp inserted).1
    refine ⟨recordable, ?_⟩
    intro new
    exact ((onStateWrite_eq_none_iff recordable.2.2).mp (written new).1).1
  · rintro ⟨recordable, fits⟩
    refine ⟨onRawInsert_none recordable, ?_⟩
    intro new
    exact ⟨onStateWrite_none recordable (fits new), fun _ _ => rfl⟩

/-- With everything healthy a handler gets past an event exactly when it is not a
status change, its place in the chain fits the columns of the raw event, and,
unless it was seen before, its identifiers and dates fit theirs. -/
theorem handler_completes_iff (config : Config) (contract : Contract) (log : Log)
    (event : Parsed) (state : State) :
    (handler config Faults.none contract log event state).Completed ↔
      (event.isStatusChange = false ∧ log.index < 2 ^ 31 ∧ log.blockNumber < 2 ^ 63) ∧
        (state.events log.key = none → event.Fits) := by
  rw [(runsIff_handler log event).completed_iff]
  exact handlerPasses_none config log event state

section Sample

/-- The approval of the first claim and the registration of policy `2 ^ 63` are
emitted by the contracts and not handled. -/
theorem status_change_and_far_policy_not_handled :
    ((logAt 3 (.claimStatusChanged 1 .approved)).emitted ∈
        emittedBy (ClaimRegistry.sampleDeployment.history approvedCalls) ∧
      parseLog .claimRegistry (.registry (.claimStatusChanged 1 .approved)) =
        some (.claimStatusChanged 1 2) ∧
      ¬(handler sampleConfig Faults.none .claimRegistry
        (logAt 3 (.claimStatusChanged 1 .approved)) (.claimStatusChanged 1 2)
        State.empty).Completed) ∧
    ((policyLogAt 2 (.policyRegistered (2 ^ 63) 0xB1 0 1000 900 0)).emitted ∈
        policyEmittedBy
          (InsurancePolicy.sampleDeployment.history (registeredCalls (2 ^ 63) 1000)) ∧
      ¬(handler sampleConfig Faults.none .insurancePolicy
        (policyLogAt 2 (.policyRegistered (2 ^ 63) 0xB1 0 1000 900 0))
        (.policyRegistered (2 ^ 63) 0xB1 0 1000 900) State.empty).Completed) := by
  decide

end Sample

end Dics.Indexer
