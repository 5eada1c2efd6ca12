/-
Reverting transaction systems.

A call either reverts with an error or commits a new state together with an
output.  A reverted call is rolled back, so the state after a list of calls
depends on the committed ones only.  The history records these commits in
order; every rule below lets a fact about one commit reach a whole run.
-/

import Mathlib.Data.List.Induction

namespace Transactions

/-! ### Guards inside one call -/

def require {Error : Type} (condition : Prop) [Decidable condition] (error : Error) :
    Except Error Unit :=
  if condition then .ok () else .error error

def orRevert {Error Value : Type} (error : Error) : Option Value → Except Error Value
  | some value => .ok value
  | none => .error error

theorem bind_eq_ok {Error First Second : Type} {first : Except Error First}
    {rest : First → Except Error Second} {result : Second} :
    (first >>= rest) = .ok result ↔ ∃ value, first = .ok value ∧ rest value = .ok result := by
  cases first with
  | error error =>
      constructor
      · intro impossible
        cases impossible
      · rintro ⟨value, impossible, _⟩
        cases impossible
  | ok value =>
      constructor
      · intro continued
        exact ⟨value, rfl, continued⟩
      · rintro ⟨other, same, continued⟩
        cases same
        exact continued

theorem bind_eq_error {Error First Second : Type} {first : Except Error First}
    {rest : First → Except Error Second} {error : Error} :
    (first >>= rest) = .error error ↔
      first = .error error ∨ ∃ value, first = .ok value ∧ rest value = .error error := by
  cases first with
  | error other =>
      constructor
      · intro failed
        cases failed
        exact Or.inl rfl
      · rintro (failed | ⟨value, impossible, _⟩)
        · cases failed
          rfl
        · cases impossible
  | ok value =>
      constructor
      · intro failed
        exact Or.inr ⟨value, rfl, failed⟩
      · rintro (impossible | ⟨other, same, failed⟩)
        · cases impossible
        · cases same
          exact failed

@[simp]
theorem require_bind_eq_ok {Error Result : Type} {condition : Prop} [Decidable condition]
    {error : Error} {rest : Unit → Except Error Result} {result : Result} :
    (require condition error >>= rest) = .ok result ↔ condition ∧ rest () = .ok result := by
  unfold require
  by_cases holds : condition
  · rw [if_pos holds]
    exact (and_iff_right holds).symm
  · rw [if_neg holds]
    constructor
    · intro impossible
      cases impossible
    · intro both
      exact absurd both.1 holds

theorem require_bind_eq_error {Error Result : Type} {condition : Prop} [Decidable condition]
    {refusal error : Error} {rest : Unit → Except Error Result} (other : refusal ≠ error) :
    (require condition refusal >>= rest) = .error error ↔
      condition ∧ rest () = .error error := by
  unfold require
  by_cases holds : condition
  · rw [if_pos holds]
    exact (and_iff_right holds).symm
  · rw [if_neg holds]
    constructor
    · intro refused
      exact absurd (Except.error.inj refused) other
    · intro both
      exact absurd both.1 holds

@[simp]
theorem orRevert_bind_eq_ok {Error Value Result : Type} {error : Error}
    {value? : Option Value} {rest : Value → Except Error Result} {result : Result} :
    (orRevert error value? >>= rest) = .ok result ↔
      ∃ value, value? = some value ∧ rest value = .ok result := by
  cases value? with
  | none =>
      constructor
      · intro impossible
        cases impossible
      · rintro ⟨value, impossible, _⟩
        cases impossible
  | some value =>
      constructor
      · intro continued
        exact ⟨value, rfl, continued⟩
      · rintro ⟨other, same, continued⟩
        cases same
        exact continued

theorem orRevert_bind_eq_error {Error Value Result : Type} {refusal error : Error}
    {value? : Option Value} {rest : Value → Except Error Result} (other : refusal ≠ error) :
    (orRevert refusal value? >>= rest) = .error error ↔
      ∃ value, value? = some value ∧ rest value = .error error := by
  cases value? with
  | none =>
      constructor
      · intro refused
        exact absurd (Except.error.inj refused) other
      · rintro ⟨value, impossible, _⟩
        cases impossible
  | some value =>
      constructor
      · intro continued
        exact ⟨value, rfl, continued⟩
      · rintro ⟨present, same, continued⟩
        cases same
        exact continued

@[simp]
theorem mapError_eq_ok {Inner Error Value : Type} {wrap : Inner → Error}
    {first : Except Inner Value} {value : Value} :
    first.mapError wrap = .ok value ↔ first = .ok value := by
  cases first with
  | error error =>
      constructor
      · intro impossible
        cases impossible
      · intro impossible
        cases impossible
  | ok other =>
      constructor
      · intro same
        cases same
        rfl
      · intro same
        cases same
        rfl

@[simp]
theorem pure_eq_ok {Error Value : Type} {value result : Value} :
    ((pure value : Except Error Value) = .ok result) ↔ value = result := by
  constructor
  · intro same
    exact Except.ok.inj same
  · intro same
    rw [same]
    rfl

/-! ### Runs -/

/-- One committed call with the states around it. -/
structure Commit (State Call Output : Type) where
  before : State
  call : Call
  output : Output
  after : State

variable {State Call Output Error : Type}
variable (exec : State → Call → Except Error (State × Output))

/-- The state after one call.  A reverted call changes nothing. -/
def settle (state : State) (call : Call) : State :=
  match exec state call with
  | .ok (next, _) => next
  | .error _ => state

def run (start : State) (calls : List Call) : State :=
  calls.foldl (settle exec) start

def committed (state : State) (call : Call) : List (Commit State Call Output) :=
  match exec state call with
  | .ok (next, output) => [⟨state, call, output, next⟩]
  | .error _ => []

def history (start : State) : List Call → List (Commit State Call Output)
  | [] => []
  | call :: rest => committed exec start call ++ history (settle exec start call) rest

/-- Every call with the state it met, whether it committed or not. -/
def attempts (start : State) : List Call → List (State × Call)
  | [] => []
  | call :: rest => (start, call) :: attempts (settle exec start call) rest

variable {exec}

theorem settle_of_ok {state next : State} {call : Call} {output : Output}
    (done : exec state call = .ok (next, output)) : settle exec state call = next := by
  unfold settle
  rw [done]

theorem settle_of_error {state : State} {call : Call} {error : Error}
    (failed : exec state call = .error error) : settle exec state call = state := by
  unfold settle
  rw [failed]

theorem committed_of_ok {state next : State} {call : Call} {output : Output}
    (done : exec state call = .ok (next, output)) :
    committed exec state call = [⟨state, call, output, next⟩] := by
  unfold committed
  rw [done]

theorem committed_of_error {state : State} {call : Call} {error : Error}
    (failed : exec state call = .error error) : committed exec state call = [] := by
  unfold committed
  rw [failed]

theorem run_snoc (start : State) (calls : List Call) (call : Call) :
    run exec start (calls ++ [call]) = settle exec (run exec start calls) call := by
  simp only [run, List.foldl_append, List.foldl_cons, List.foldl_nil]

theorem history_snoc (start : State) (calls : List Call) (call : Call) :
    history exec start (calls ++ [call]) =
      history exec start calls ++ committed exec (run exec start calls) call := by
  induction calls generalizing start with
  | nil =>
      simp only [List.nil_append, history, run, List.foldl_nil, List.append_nil]
  | cons head rest ih =>
      simp only [List.cons_append, history, ih, List.append_assoc]
      rfl

/-- The induction rule for runs.  `Holds` relates the present state to the
commits made so far, and `Allowed` is what the run promises of each commit. -/
theorem run_induction {Holds : State → List (Commit State Call Output) → Prop}
    {Allowed : Commit State Call Output → Prop} {start : State}
    (initial : Holds start [])
    (step : ∀ state past call next output, Holds state past →
      exec state call = .ok (next, output) → Allowed ⟨state, call, output, next⟩ →
      Holds next (past ++ [⟨state, call, output, next⟩]))
    (calls : List Call) (allowed : ∀ commit ∈ history exec start calls, Allowed commit) :
    Holds (run exec start calls) (history exec start calls) := by
  induction calls using List.reverseRecOn with
  | nil => exact initial
  | append_singleton calls call ih =>
      rw [history_snoc] at allowed ⊢
      rw [run_snoc]
      have before := ih (fun commit member => allowed commit (List.mem_append_left _ member))
      cases outcome : exec (run exec start calls) call with
      | error error =>
          rw [settle_of_error outcome, committed_of_error outcome, List.append_nil]
          exact before
      | ok result =>
          rw [settle_of_ok outcome, committed_of_ok outcome]
          rw [committed_of_ok outcome] at allowed
          exact step _ _ _ _ _ before outcome
            (allowed _ (List.mem_append_right _ (List.mem_singleton.mpr rfl)))

/-- Cutting the history at a commit cuts the run at the state that commit
started from. -/
theorem history_split {start : State} {calls : List Call}
    {past future : List (Commit State Call Output)} {commit : Commit State Call Output}
    (cut : history exec start calls = past ++ commit :: future) :
    ∃ earlier, history exec start earlier = past ∧
      run exec start earlier = commit.before ∧
      exec commit.before commit.call = .ok (commit.after, commit.output) := by
  induction calls using List.reverseRecOn generalizing future with
  | nil =>
      exact absurd cut.symm (List.append_ne_nil_of_right_ne_nil _ (List.cons_ne_nil _ _))
  | append_singleton calls call ih =>
      rw [history_snoc] at cut
      cases outcome : exec (run exec start calls) call with
      | error error =>
          rw [committed_of_error outcome, List.append_nil] at cut
          exact ih cut
      | ok result =>
          rw [committed_of_ok outcome] at cut
          rcases List.eq_nil_or_concat future with rfl | ⟨front, last, rfl⟩
          · obtain ⟨samePast, sameLast⟩ := List.append_inj' cut rfl
            have sameCommit := List.head_eq_of_cons_eq sameLast
            subst sameCommit
            exact ⟨calls, samePast, rfl, outcome⟩
          · rw [List.concat_eq_append, ← List.cons_append, ← List.append_assoc] at cut
            exact ih (List.append_inj' cut rfl).1

theorem run_append (start : State) (calls later : List Call) :
    run exec start (calls ++ later) = run exec (run exec start calls) later :=
  List.foldl_append

theorem history_append (start : State) (calls later : List Call) :
    history exec start (calls ++ later) =
      history exec start calls ++ history exec (run exec start calls) later := by
  induction calls generalizing start with
  | nil => rfl
  | cons head rest ih =>
      simp only [List.cons_append, history, ih, List.append_assoc]
      rfl

/-- Two systems that treat the calls of a list alike run alike on it. -/
theorem run_congr {other : State → Call → Except Error (State × Output)} {calls : List Call}
    (same : ∀ call ∈ calls, ∀ state, exec state call = other state call) (start : State) :
    run exec start calls = run other start calls ∧
      history exec start calls = history other start calls := by
  induction calls generalizing start with
  | nil => exact ⟨rfl, rfl⟩
  | cons call rest ih =>
      have alike := same call List.mem_cons_self start
      have settles : settle exec start call = settle other start call := by
        rw [settle, settle, alike]
      have commits : committed exec start call = committed other start call := by
        rw [committed, committed, alike]
      obtain ⟨states, histories⟩ :=
        ih (fun later member => same later (List.mem_cons_of_mem _ member))
          (settle other start call)
      rw [run, run, List.foldl_cons, List.foldl_cons, history, history, settles, commits,
        histories]
      exact ⟨states, rfl⟩

/-! ### Front ends -/

/-- A front end makes a call of an input, or refuses it. -/
def behind {Input : Type} (read : Input → Option Call)
    (exec : State → Call → Except Error (State × Output)) (state : State) (input : Input) :
    Except (Option Error) (State × Output) :=
  match read input with
  | some call => (exec state call).mapError some
  | none => .error none

/-- Behind a front end a system does what it does on the calls that are read, and
outputs the same. -/
theorem run_behind {Input : Type} (read : Input → Option Call) (start : State)
    (inputs : List Input) :
    run (behind read exec) start inputs = run exec start (inputs.filterMap read) ∧
      (history (behind read exec) start inputs).map Commit.output =
        (history exec start (inputs.filterMap read)).map Commit.output := by
  induction inputs generalizing start with
  | nil => exact ⟨rfl, rfl⟩
  | cons input inputs ih =>
      cases found : read input with
      | none =>
          have refused : behind read exec start input = .error none := by
            rw [behind, found]
          rw [List.filterMap_cons_none found, run, List.foldl_cons, history,
            settle_of_error refused, committed_of_error refused, List.nil_append]
          exact ih start
      | some call =>
          have passed : behind read exec start input = (exec start call).mapError some := by
            rw [behind, found]
          rw [List.filterMap_cons_some found, run, List.foldl_cons, run, List.foldl_cons, history,
            history, List.map_append, List.map_append]
          cases outcome : exec start call with
          | error error =>
              rw [outcome] at passed
              have failed : behind read exec start input = .error (some error) := passed
              rw [settle_of_error failed, committed_of_error failed, settle_of_error outcome,
                committed_of_error outcome]
              exact ⟨(ih start).1, congrArg _ (ih start).2⟩
          | ok result =>
              rw [outcome] at passed
              have done : behind read exec start input = .ok result := passed
              rw [settle_of_ok done, committed_of_ok done, settle_of_ok outcome,
                committed_of_ok outcome]
              exact ⟨(ih result.1).1, congrArg _ (ih result.1).2⟩

end Transactions
