/-
Scripts that can be interrupted.

A script changes its state step by step and may stop anywhere.  What it did
before it stopped stays done: there is no roll-back.  A remote request can be
lost before it takes effect, or take effect and lose its answer.
-/

import Mathlib.Algebra.GroupWithZero.Nat

namespace Scripts

/-- The state a script leaves behind, and its value unless it was interrupted. -/
structure Outcome (State Value : Type) where
  state : State
  value : Option Value

def Script (State Value : Type) := State → Outcome State Value

variable {State Value Result Item : Type}

def Script.bind (first : Script State Value) (rest : Value → Script State Result) :
    Script State Result := fun state =>
  match (first state).value with
  | some value => rest value (first state).state
  | none => ⟨(first state).state, none⟩

instance : Monad (Script State) where
  pure value := fun state => ⟨state, some value⟩
  bind := Script.bind

def interrupt : Script State Value := fun state => ⟨state, none⟩

/-- What happens to one remote request. -/
inductive Fault where
  | none
  | lost
  | late
  deriving DecidableEq

def request (fault : Fault) (effect : State → State × Value) : Script State Value := fun state =>
  match fault with
  | .none => ⟨(effect state).1, some (effect state).2⟩
  | .lost => ⟨state, none⟩
  | .late => ⟨(effect state).1, none⟩

def forEach (body : Item → Script State Unit) : List Item → Script State Unit
  | [] => pure ()
  | item :: rest => do
      body item
      forEach body rest

/-! ### Running a script -/

def Outcome.Completed (outcome : Outcome State Value) : Prop := outcome.value ≠ none

instance (outcome : Outcome State Unit) : Decidable outcome.Completed :=
  inferInstanceAs (Decidable (outcome.value ≠ none))

theorem bind_run (first : Script State Value) (rest : Value → Script State Result)
    (state : State) :
    (first >>= rest) state =
      match (first state).value with
      | some value => rest value (first state).state
      | none => ⟨(first state).state, none⟩ := rfl

theorem bind_of_some {first : Script State Value} {state next : State} {value : Value}
    (done : first state = ⟨next, some value⟩) (rest : Value → Script State Result) :
    (first >>= rest) state = rest value next := by
  rw [bind_run, done]

theorem bind_of_none {first : Script State Value} {state next : State}
    (stopped : first state = ⟨next, none⟩) (rest : Value → Script State Result) :
    (first >>= rest) state = ⟨next, none⟩ := by
  rw [bind_run, stopped]

@[simp]
theorem request_none (effect : State → State × Value) (state : State) :
    request .none effect state = ⟨(effect state).1, some (effect state).2⟩ := rfl

@[simp]
theorem request_lost (effect : State → State × Value) (state : State) :
    request .lost effect state = ⟨state, none⟩ := rfl

@[simp]
theorem request_late (effect : State → State × Value) (state : State) :
    request .late effect state = ⟨(effect state).1, none⟩ := rfl

/-! ### What every step keeps -/

/-- The script keeps a fact about the state, wherever it stops. -/
def Script.Keeps (Holds : State → Prop) (script : Script State Value) : Prop :=
  ∀ state, Holds state → Holds (script state).state

theorem Script.Keeps.bind {Holds : State → Prop} {first : Script State Value}
    {rest : Value → Script State Result} (head : first.Keeps Holds)
    (tail : ∀ value, (rest value).Keeps Holds) : Script.Keeps Holds (first >>= rest) := by
  intro state before
  have middle := head state before
  rw [bind_run]
  cases (first state).value with
  | none => exact middle
  | some value => exact tail value _ middle

theorem keeps_pure (Holds : State → Prop) (value : Value) :
    Script.Keeps Holds (pure value : Script State Value) := fun _ before => before

theorem keeps_interrupt (Holds : State → Prop) :
    Script.Keeps Holds (interrupt : Script State Value) := fun _ before => before

theorem keeps_request {Holds : State → Prop} {effect : State → State × Value} (fault : Fault)
    (kept : ∀ state, Holds state → Holds (effect state).1) :
    (request fault effect).Keeps Holds := by
  intro state before
  cases fault with
  | none => exact kept state before
  | lost => exact before
  | late => exact kept state before

theorem keeps_read {Holds : State → Prop} {answer : State → Value}
    {rest : Value → Script State Result} (fault : Fault)
    (tail : ∀ state, Holds state → Holds (rest (answer state) state).state) :
    Script.Keeps Holds (request fault (fun state => (state, answer state)) >>= rest) := by
  intro state before
  cases fault with
  | none => exact tail state before
  | lost => exact before
  | late => exact before

theorem keeps_forEach {Holds : State → Prop} {body : Item → Script State Unit}
    {items : List Item} (kept : ∀ item ∈ items, (body item).Keeps Holds) :
    (forEach body items).Keeps Holds := by
  induction items with
  | nil => exact keeps_pure Holds ()
  | cons item rest ih =>
      have others := ih (fun other member => kept other (List.mem_cons_of_mem _ member))
      exact (kept item List.mem_cons_self).bind (fun _ => others)

/-! ### Scripts that are never interrupted -/

def Script.Finishes (script : Script State Value) : Prop :=
  ∀ state, (script state).Completed

theorem Script.Finishes.bind {first : Script State Value} {rest : Value → Script State Result}
    (head : first.Finishes) (tail : ∀ value, (rest value).Finishes) :
    Script.Finishes (first >>= rest) := by
  intro state
  have done := head state
  rw [bind_run]
  cases outcome : (first state).value with
  | none => exact absurd outcome done
  | some value => exact tail value _

theorem finishes_pure (value : Value) : Script.Finishes (pure value : Script State Value) :=
  fun _ => nofun

theorem finishes_request {fault : Fault} (healthy : fault = .none)
    (effect : State → State × Value) : (request fault effect).Finishes := by
  intro state
  rw [healthy]
  exact nofun

theorem finishes_forEach {body : Item → Script State Unit} {items : List Item}
    (each : ∀ item ∈ items, (body item).Finishes) : (forEach body items).Finishes := by
  induction items with
  | nil => exact finishes_pure ()
  | cons item rest ih =>
      have others := ih (fun other member => each other (List.mem_cons_of_mem _ member))
      exact (each item List.mem_cons_self).bind (fun _ => others)

/-! ### Scripts with a known effect -/

/-- The script runs to its end exactly under the condition, and then changes
the state as said. -/
structure Script.RunsIff (condition : State → Prop) (next : State → State)
    (script : Script State Unit) : Prop where
  runs : ∀ state, condition state → script state = ⟨next state, some ()⟩
  stops : ∀ state, ¬condition state → ¬(script state).Completed

theorem Script.RunsIff.completed_iff {condition : State → Prop} {next : State → State}
    {script : Script State Unit} (known : script.RunsIff condition next) (state : State) :
    (script state).Completed ↔ condition state := by
  constructor
  · intro completed
    apply Classical.byContradiction
    intro refused
    exact known.stops state refused completed
  · intro holds
    rw [known.runs state holds]
    exact nofun

theorem Script.RunsIff.congr {condition other : State → Prop} {next after : State → State}
    {script : Script State Unit} (known : script.RunsIff condition next)
    (same : ∀ state, other state ↔ condition state)
    (agree : ∀ state, condition state → after state = next state) :
    script.RunsIff other after where
  runs := by
    intro state holds
    have before := (same state).mp holds
    rw [known.runs state before, agree state before]
  stops := by
    intro state refused
    exact known.stops state (fun before => refused ((same state).mpr before))

theorem Script.RunsIff.bind {condition other : State → Prop} {next after : State → State}
    {first rest : Script State Unit} (head : first.RunsIff condition next)
    (tail : rest.RunsIff other after) :
    Script.RunsIff (fun state => condition state ∧ other (next state))
      (fun state => after (next state)) (first >>= fun _ => rest) where
  runs := by
    intro state holds
    rw [bind_of_some (head.runs state holds.1)]
    exact tail.runs (next state) holds.2
  stops := by
    intro state refused
    by_cases holds : condition state
    · rw [bind_of_some (head.runs state holds)]
      exact tail.stops (next state) (fun later => refused ⟨holds, later⟩)
    · have stopped := head.stops state holds
      rw [bind_run]
      cases value : (first state).value with
      | none => exact fun completed => completed rfl
      | some _ =>
          rw [Outcome.Completed, value] at stopped
          exact absurd nofun stopped

theorem runsIff_pure :
    Script.RunsIff (fun _ => True) (fun state => state) (pure () : Script State Unit) where
  runs := fun _ _ => rfl
  stops := fun _ refused => absurd trivial refused

theorem runsIff_request {effect : State → State × Unit} (fault : Fault) :
    Script.RunsIff (fun _ => fault = .none) (fun state => (effect state).1)
      (request fault effect) where
  runs := by
    intro state healthy
    rw [healthy]
    rfl
  stops := by
    intro state faulty
    cases fault with
    | none => exact absurd rfl faulty
    | lost => exact fun completed => completed rfl
    | late => exact fun completed => completed rfl

theorem runsIff_read {condition : State → Prop} {next : State → State} {answer : Value}
    {rest : Value → Script State Unit} (fault : Fault)
    (tail : (rest answer).RunsIff condition next) :
    Script.RunsIff (fun state => fault = .none ∧ condition state) next
      (request fault (fun state => (state, answer)) >>= rest) where
  runs := by
    intro state holds
    rw [holds.1]
    exact tail.runs state holds.2
  stops := by
    intro state refused
    cases fault with
    | none => exact tail.stops state (fun holds => refused ⟨rfl, holds⟩)
    | lost => exact fun completed => completed rfl
    | late => exact fun completed => completed rfl

/-- Each item is accepted in the state the items before it lead to. -/
def Along (accepts : State → Item → Prop) (next : State → Item → State) :
    List Item → State → Prop
  | [], _ => True
  | item :: rest, state => accepts state item ∧ Along accepts next rest (next state item)

theorem along_append {accepts : State → Item → Prop} {next : State → Item → State}
    (first second : List Item) (state : State) :
    Along accepts next (first ++ second) state ↔
      Along accepts next first state ∧ Along accepts next second (first.foldl next state) := by
  induction first generalizing state with
  | nil => exact (iff_of_eq (true_and _)).symm
  | cons item rest ih =>
      rw [List.cons_append, Along, Along, ih, and_assoc]
      rfl

/-- Every item is accepted where it stands. -/
theorem along_iff_split {accepts : State → Item → Prop} {next : State → Item → State}
    (items : List Item) (state : State) :
    Along accepts next items state ↔
      ∀ before item after, items = before ++ item :: after →
        accepts (before.foldl next state) item := by
  constructor
  · intro along before item after split
    rw [split, along_append] at along
    exact along.2.1
  · intro each
    induction items generalizing state with
    | nil => exact trivial
    | cons item rest ih =>
        refine ⟨each [] item rest rfl, ih _ ?_⟩
        intro before other after split
        exact each (item :: before) other after (by rw [split, List.cons_append])

theorem along_mono {accepts weaker : State → Item → Prop} {next : State → Item → State}
    (follows : ∀ state item, accepts state item → weaker state item) {items : List Item}
    {state : State} (along : Along accepts next items state) :
    Along weaker next items state := by
  induction items generalizing state with
  | nil => exact trivial
  | cons item rest ih => exact ⟨follows state item along.1, ih along.2⟩

/-- Whatever follows from acceptance in any state holds of every item. -/
theorem along_forall {always : Item → Prop} {accepts : State → Item → Prop}
    {next : State → Item → State} (follows : ∀ state item, accepts state item → always item)
    {items : List Item} {state : State} (along : Along accepts next items state) :
    ∀ item ∈ items, always item := by
  induction items generalizing state with
  | nil => exact List.forall_mem_nil _
  | cons item rest ih =>
      intro other member
      rcases List.mem_cons.mp member with here | later
      · rw [here]
        exact follows state item along.1
      · exact ih along.2 other later

/-- What each accepted item keeps holds at the end, and what follows on the way
holds of every item. -/
theorem along_keeps {Holds : State → Prop} {always : Item → Prop}
    {accepts : State → Item → Prop} {next : State → Item → State} {items : List Item}
    {state : State} (along : Along accepts next items state) (start : Holds state)
    (step : ∀ item ∈ items, ∀ state, Holds state → accepts state item →
      always item ∧ Holds (next state item)) :
    (∀ item ∈ items, always item) ∧ Holds (items.foldl next state) := by
  induction items generalizing state with
  | nil => exact ⟨List.forall_mem_nil _, start⟩
  | cons item rest ih =>
      obtain ⟨here, kept⟩ := step item List.mem_cons_self state start along.1
      obtain ⟨others, held⟩ := ih along.2 kept
        (fun other member => step other (List.mem_cons_of_mem _ member))
      exact ⟨List.forall_mem_cons.mpr ⟨here, others⟩, held⟩

theorem along_of_forall {accepts : State → Item → Prop} {next : State → Item → State}
    {items : List Item} (each : ∀ item ∈ items, ∀ state, accepts state item) (state : State) :
    Along accepts next items state := by
  induction items generalizing state with
  | nil => exact trivial
  | cons item rest ih =>
      exact ⟨each item List.mem_cons_self state,
        ih (fun other member => each other (List.mem_cons_of_mem _ member)) _⟩

theorem runsIff_forEach {accepts : State → Item → Prop} {next : State → Item → State}
    {body : Item → Script State Unit} (items : List Item)
    (each : ∀ item, (body item).RunsIff (fun state => accepts state item)
      (fun state => next state item)) :
    (forEach body items).RunsIff (Along accepts next items)
      (fun state => items.foldl next state) := by
  induction items with
  | nil => exact runsIff_pure
  | cons item rest ih => exact (each item).bind ih

end Scripts
