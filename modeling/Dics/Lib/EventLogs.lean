/-
Event logs.

A reader who sees nothing but the events of a run keeps a view of the state and
brings it up to date event by event.  When the events of each committed call
take the view from the state before to the state after, the log of a whole run
takes it to the state the run has reached.
-/

import Dics.Lib.Transactions

open Transactions

namespace EventLogs

variable {State Call Output Error Event View : Type}

def log (events : Output → List Event) (commits : List (Commit State Call Output)) :
    List Event :=
  commits.flatMap fun commit => events commit.output

def replay (read : View → Event → View) (start : View) (events : List Event) : View :=
  events.foldl read start

theorem replay_append (read : View → Event → View) (start : View) (first second : List Event) :
    replay read start (first ++ second) = replay read (replay read start first) second :=
  List.foldl_append

theorem log_snoc (events : Output → List Event) (past : List (Commit State Call Output))
    (commit : Commit State Call Output) :
    log events (past ++ [commit]) = log events past ++ events commit.output := by
  simp only [log, List.flatMap_append, List.flatMap_cons, List.flatMap_nil, List.append_nil]

/-- The events of every committed call say all that the view has to know. -/
def Tells (exec : State → Call → Except Error (State × Output)) (events : Output → List Event)
    (view : State → View) (read : View → Event → View) : Prop :=
  ∀ state call next output, exec state call = .ok (next, output) →
    replay read (view state) (events output) = view next

variable {exec : State → Call → Except Error (State × Output)} {events : Output → List Event}
  {view : State → View} {read : View → Event → View}

theorem Tells.replay_run (tells : Tells exec events view read) (start : State)
    (calls : List Call) :
    replay read (view start) (log events (history exec start calls)) =
      view (run exec start calls) := by
  refine @run_induction _ _ _ _ exec
    (fun state past => replay read (view start) (log events past) = view state)
    (fun _ => True) start rfl ?_ calls (fun _ _ => trivial)
  intro state past call next output before done _
  rw [log_snoc, replay_append, before]
  exact tells state call next output done

end EventLogs
