/-
Requests under one idempotency key.

Any number of requests for the same claim carry the same key, and their steps
interleave freely.  The key protects only once an answer is stored under it: a
request that looks the key up before that goes on to the oracle, whether another
one is on its way or has left a transaction without an answer.
-/

import Dics.Backend.Verification
import Dics.Lib.Transactions

open Scripts Transactions

namespace Dics.Backend

/-! ### The next step of a handler -/

/-- What a step meets: what happens to its database request, and what comes of
the oracle call, if it makes one. -/
structure Weather where
  database : Fault
  transaction : Bool
  reply : Option OracleService.Reply

def Weather.answer (weather : Weather) (phase : Phase) : Phase :=
  match weather.database with
  | .none => phase
  | .lost => .failed .internal
  | .late => .failed .internal

def Weather.write (weather : Weather) (before after : Database) : Database :=
  match weather.database with
  | .none => after
  | .lost => before
  | .late => after

structure Stepped where
  db : Database
  phase : Phase
  transaction : Bool

def nextStep (request : Request) (weather : Weather) (db : Database) : Phase → Stepped
  | .received => { db, phase := weather.answer (lookUp request db), transaction := false }
  | .missed => { db, phase := weather.answer (readClaim request db), transaction := false }
  | .loaded claim =>
      { db, phase := receiveReply claim weather.reply, transaction := weather.transaction }
  | .verified claim result =>
      { db := weather.write db (db.commitClaim claim (claim.decided result))
        phase := weather.answer (.committed (responseFor claim result))
        transaction := false }
  | .committed response =>
      { db := weather.write db (storeAnswer request db response)
        phase := weather.answer (.answered response)
        transaction := false }
  | .answered response => { db, phase := .answered response, transaction := false }
  | .failed error => { db, phase := .failed error, transaction := false }

def stepAlone (request : Request) (weather : Weather) : Nat → Database → Phase → Database × Phase
  | 0, db, phase => (db, phase)
  | rounds + 1, db, phase =>
      let stepped := nextStep request weather db phase
      stepAlone request weather rounds stepped.db stepped.phase

/-- Undisturbed, the five steps are the whole request. -/
theorem stepAlone_eq_triggerVerification (service : Service) (attempt : OracleService.Attempt)
    (fault : Fault) (request : Request) (system : System) {weather : Weather}
    (healthy : weather.database = .none)
    (called : ∀ claim, system.db.claims request.claimId = some claim →
      weather.reply = (service.call attempt fault claim system.oracle).reply) :
    stepAlone request weather 5 system.db .received =
      ((triggerVerification service attempt fault request system).system.db,
        (triggerVerification service attempt fault request system).phase) := by
  have answer : ∀ phase, weather.answer phase = phase := by
    intro phase
    rw [Weather.answer, healthy]
  have write : ∀ before after, weather.write before after = after := by
    intro before after
    rw [Weather.write, healthy]
  cases hit : request.cached system.db with
  | some record => simp only [stepAlone, nextStep, answer, lookUp, hit, triggerVerification]
  | none =>
      cases found : system.db.claims request.claimId with
      | none =>
          simp only [stepAlone, nextStep, answer, lookUp, hit, readClaim, found,
            triggerVerification]
      | some claim =>
          simp only [stepAlone, nextStep, answer, write, lookUp, hit, readClaim, found,
            receiveReply, called claim found, triggerVerification]
          cases requestVerification (service.call attempt fault claim system.oracle).reply with
          | error error => simp only [settle]
          | ok result => simp only [settle]

/-! ### Interleaved handlers -/

/-- The handlers by number, each where it stands, with the database they share
and the number of oracle calls that ended in a transaction. -/
structure Handlers where
  db : Database
  phases : Nat → Phase
  transactions : Nat

inductive Action where
  | advance (index : Nat) (weather : Weather)
  | elsewhere (db : Database)

def Handlers.advance (request : Request) (handlers : Handlers) (index : Nat)
    (weather : Weather) : Handlers :=
  let stepped := nextStep request weather handlers.db (handlers.phases index)
  { db := stepped.db
    phases := Function.update handlers.phases index stepped.phase
    transactions := handlers.transactions + if stepped.transaction = true then 1 else 0 }

/-- Everything in the database but one key's row is replaced. -/
def Database.replacedExcept (db other : Database) (key : String) : Database :=
  { other with
    idempotencyKeys := Function.update other.idempotencyKeys key (db.idempotencyKeys key) }

def Handlers.step (request : Request) (key : String) (handlers : Handlers) :
    Action → Handlers
  | .advance index weather => handlers.advance request index weather
  | .elsewhere db => { handlers with db := handlers.db.replacedExcept db key }

def exec (request : Request) (key : String) (handlers : Handlers) (action : Action) :
    Except Empty (Handlers × Unit) :=
  .ok (handlers.step request key action, ())

def Handlers.start (db : Database) : Handlers :=
  { db, phases := fun _ => .received, transactions := 0 }

def run (request : Request) (key : String) (db : Database) (actions : List Action) : Handlers :=
  Transactions.run (exec request key) (Handlers.start db) actions

abbrev Step := Transactions.Commit Handlers Action Unit

def steps (request : Request) (key : String) (db : Database) (actions : List Action) :
    List Step :=
  Transactions.history (exec request key) (Handlers.start db) actions

/-! ### At most one transaction -/

def Phase.inFlight : Phase → Bool
  | .missed => true
  | .loaded _ => true
  | .verified _ _ => true
  | .committed _ => true
  | _ => false

def Phase.quiet : Phase → Bool
  | .received => true
  | .failed _ => true
  | _ => false

/-- A step that leaves no gap in the protection: no lookup misses while another
request is under way, a call that made a transaction brings its reply back, and
the decision and the answer get written. -/
def GuardedStep (request : Request) (handlers : Handlers) (weather : Weather) : Phase → Prop
  | .received => weather.database = .none → request.cached handlers.db = none →
      ∀ other, (handlers.phases other).inFlight = false
  | .loaded _ => weather.transaction = true → ∃ body, weather.reply = some (.ok body)
  | .verified _ _ => weather.database = .none
  | .committed _ => weather.database ≠ .lost
  | _ => True

def Guarded (request : Request) (handlers : Handlers) : Action → Prop
  | .advance index weather => GuardedStep request handlers weather (handlers.phases index)
  | .elsewhere _ => True

/-- What a run can have come to: nothing has happened yet, one request is under
way, or an answer is stored. -/
inductive Stage (key : String) (handlers : Handlers) : Prop
  | before (row : handlers.db.idempotencyKeys key = none)
      (quiet : ∀ index, (handlers.phases index).quiet = true)
      (none : handlers.transactions = 0)
  | asking (row : handlers.db.idempotencyKeys key = none) (one : Nat)
      (others : ∀ index, index ≠ one → (handlers.phases index).quiet = true)
      (here : handlers.phases one = .missed ∨ ∃ claim, handlers.phases one = .loaded claim)
      (none : handlers.transactions = 0)
  | decided (row : handlers.db.idempotencyKeys key = none) (one : Nat)
      (others : ∀ index, index ≠ one → (handlers.phases index).quiet = true)
      (here : (∃ claim result, handlers.phases one = .verified claim result) ∨
        ∃ response, handlers.phases one = .committed response)
      (once : handlers.transactions ≤ 1)
  | stored (response : TriggerVerificationResponse)
      (row : handlers.db.idempotencyKeys key = some
        { endpoint := endpointName, responseStatus := 200, responseBody := response })
      (settled : ∀ index, (handlers.phases index).quiet = true ∨
        handlers.phases index = .answered response)
      (once : handlers.transactions ≤ 1)

section Steps

variable {request : Request} {key : String} {handlers : Handlers} {index one : Nat}
  {weather : Weather}

theorem cached_of_absent {db : Database} (carried : request.key = some key)
    (row : db.idempotencyKeys key = none) : request.cached db = none := by
  rw [Request.cached, carried, Option.bind_some, getCachedResponse, row]

theorem cached_of_stored {db : Database} {record : CachedResponse}
    (carried : request.key = some key) (row : db.idempotencyKeys key = some record)
    (same : record.endpoint = endpointName) : request.cached db = some record := by
  rw [Request.cached, carried, Option.bind_some, getCachedResponse, row]
  exact if_neg (fun different => different same)

theorem storeAnswer_row {db : Database} {response : TriggerVerificationResponse}
    (carried : request.key = some key) (row : db.idempotencyKeys key = none) :
    (storeAnswer request db response).idempotencyKeys key = some
      { endpoint := endpointName, responseStatus := 200, responseBody := response } := by
  simp only [storeAnswer, carried, storeResponse, row, Function.update_self]

theorem quiet_of_moved {phases : Nat → Phase} {phase : Phase}
    (others : ∀ other, other ≠ one → (phases other).quiet = true) :
    ∀ other, other ≠ one → (Function.update phases one phase other).quiet = true := by
  intro other different
  rw [Function.update_of_ne different]
  exact others other different

theorem quiet_of_failed {phases : Nat → Phase} {error : HttpError}
    (others : ∀ other, other ≠ one → (phases other).quiet = true) :
    ∀ other, (Function.update phases one (.failed error) other).quiet = true := by
  intro other
  by_cases same : other = one
  · rw [same, Function.update_self]
    rfl
  · exact quiet_of_moved others other same

theorem advance_at {phase : Phase} (stands : handlers.phases index = phase) :
    handlers.advance request index weather =
      { db := (nextStep request weather handlers.db phase).db
        phases := Function.update handlers.phases index
          (nextStep request weather handlers.db phase).phase
        transactions := handlers.transactions +
          if (nextStep request weather handlers.db phase).transaction = true then 1 else 0 } := by
  rw [Handlers.advance, stands]

theorem advance_unmoved
    (rests : nextStep request weather handlers.db (handlers.phases index) =
      { db := handlers.db, phase := handlers.phases index, transaction := false }) :
    handlers.advance request index weather = handlers := by
  rw [Handlers.advance, rests]
  dsimp only
  rw [Function.update_eq_self]
  rfl

theorem advance_failed {error : HttpError} (stands : handlers.phases index = .failed error) :
    handlers.advance request index weather = handlers := by
  apply advance_unmoved
  rw [stands]
  rfl

theorem advance_answered {response : TriggerVerificationResponse}
    (stands : handlers.phases index = .answered response) :
    handlers.advance request index weather = handlers := by
  apply advance_unmoved
  rw [stands]
  rfl

theorem quiet_cases {phase : Phase} (quiet : phase.quiet = true) :
    phase = .received ∨ ∃ error, phase = .failed error := by
  cases phase with
  | received => exact Or.inl rfl
  | failed error => exact Or.inr ⟨error, rfl⟩
  | _ => cases quiet

theorem answer_cases (weather : Weather) (phase : Phase) :
    (weather.database = .none ∧ weather.answer phase = phase) ∨
      weather.answer phase = .failed .internal := by
  unfold Weather.answer
  cases weather.database with
  | none => exact Or.inl ⟨rfl, rfl⟩
  | lost => exact Or.inr rfl
  | late => exact Or.inr rfl

theorem settled_answer (weather : Weather) (response : TriggerVerificationResponse) :
    (weather.answer (.answered response)).quiet = true ∨
      weather.answer (.answered response) = .answered response := by
  rcases answer_cases weather (.answered response) with ⟨_, moved⟩ | stopped
  · exact Or.inr moved
  · rw [stopped]
    exact Or.inl rfl

theorem ne_answered_of_quiet {phase : Phase} (quiet : phase.quiet = true)
    (response : TriggerVerificationResponse) : phase ≠ .answered response := by
  intro answered
  rw [answered] at quiet
  cases quiet

/-- While one request is under way and nothing is stored, a guarded step of
another one leads nowhere. -/
theorem advance_bystander (carried : request.key = some key)
    (row : handlers.db.idempotencyKeys key = none) (quiet : (handlers.phases index).quiet = true)
    (busy : (handlers.phases one).inFlight = true)
    (guarded : GuardedStep request handlers weather (handlers.phases index)) :
    ∃ phase, phase.quiet = true ∧ handlers.advance request index weather =
      { handlers with phases := Function.update handlers.phases index phase } := by
  rcases quiet_cases quiet with stands | ⟨error, stands⟩
  · rw [stands] at guarded
    rw [advance_at stands]
    refine ⟨weather.answer (lookUp request handlers.db), ?_, rfl⟩
    rcases answer_cases weather (lookUp request handlers.db) with ⟨healthy, _⟩ | stopped
    · have idle := guarded healthy (cached_of_absent carried row) one
      rw [busy] at idle
      cases idle
    · rw [stopped]
      rfl
  · refine ⟨.failed error, rfl, ?_⟩
    rw [advance_failed stands, ← stands, Function.update_eq_self]

theorem stage_before (carried : request.key = some key)
    (row : handlers.db.idempotencyKeys key = none)
    (quiet : ∀ other, (handlers.phases other).quiet = true) (none : handlers.transactions = 0) :
    Stage key (handlers.advance request index weather) := by
  have others : ∀ other, other ≠ index → (handlers.phases other).quiet = true :=
    fun other _ => quiet other
  rcases quiet_cases (quiet index) with stands | ⟨error, stands⟩
  · have looked : lookUp request handlers.db = .missed := by
      rw [lookUp, cached_of_absent carried row]
    rw [advance_at stands, nextStep, looked]
    rcases answer_cases weather .missed with ⟨_, moved⟩ | stopped
    · rw [moved]
      exact .asking row index (quiet_of_moved others) (Or.inl (Function.update_self ..)) none
    · rw [stopped]
      exact .before row (quiet_of_failed others) none
  · rw [advance_failed stands]
    exact .before row quiet none

theorem stage_asking (row : handlers.db.idempotencyKeys key = none)
    (others : ∀ other, other ≠ one → (handlers.phases other).quiet = true)
    (here : handlers.phases one = .missed ∨ ∃ claim, handlers.phases one = .loaded claim)
    (none : handlers.transactions = 0)
    (guarded : GuardedStep request handlers weather (handlers.phases one)) :
    Stage key (handlers.advance request one weather) := by
  rcases here with stands | ⟨claim, stands⟩
  · rw [advance_at stands, nextStep]
    rcases answer_cases weather (readClaim request handlers.db) with ⟨_, moved⟩ | stopped
    · rw [moved, readClaim]
      cases handlers.db.claims request.claimId with
      | none => exact .before row (quiet_of_failed others) none
      | some claim =>
          refine .asking row one (quiet_of_moved others) (Or.inr ⟨claim, ?_⟩) none
          exact Function.update_self ..
    · rw [stopped]
      exact .before row (quiet_of_failed others) none
  · rw [stands] at guarded
    rw [advance_at stands, nextStep, receiveReply]
    cases outcome : requestVerification weather.reply with
    | error error =>
        have untouched : weather.transaction = false := by
          cases made : weather.transaction with
          | false => rfl
          | true =>
              obtain ⟨body, reply⟩ := guarded made
              rw [reply] at outcome
              cases outcome
        refine .before row (quiet_of_failed others) ?_
        rw [untouched, none]
        rfl
    | ok result =>
        refine .decided row one (quiet_of_moved others) (Or.inl ⟨claim, result, ?_⟩) ?_
        · exact Function.update_self ..
        · dsimp only
          rw [none]
          split
          · exact Nat.le_refl 1
          · exact Nat.zero_le 1

theorem stage_decided (carried : request.key = some key)
    (row : handlers.db.idempotencyKeys key = none)
    (others : ∀ other, other ≠ one → (handlers.phases other).quiet = true)
    (here : (∃ claim result, handlers.phases one = .verified claim result) ∨
      ∃ response, handlers.phases one = .committed response)
    (once : handlers.transactions ≤ 1)
    (guarded : GuardedStep request handlers weather (handlers.phases one)) :
    Stage key (handlers.advance request one weather) := by
  rcases here with ⟨claim, result, stands⟩ | ⟨response, stands⟩
  · rw [stands] at guarded
    have healthy : weather.database = .none := guarded
    rw [advance_at stands, nextStep, Weather.answer, Weather.write, healthy]
    refine .decided row one (quiet_of_moved others)
      (Or.inr ⟨responseFor claim result, ?_⟩) once
    exact Function.update_self ..
  · rw [stands] at guarded
    have written : weather.write handlers.db (storeAnswer request handlers.db response) =
        storeAnswer request handlers.db response := by
      unfold Weather.write
      cases fault : weather.database with
      | none => rfl
      | lost => exact absurd fault guarded
      | late => rfl
    rw [advance_at stands, nextStep, written]
    refine .stored response (storeAnswer_row carried row) ?_ once
    intro other
    by_cases same : other = one
    · dsimp only
      rw [same, Function.update_self]
      exact settled_answer weather response
    · exact Or.inl (quiet_of_moved others other same)

theorem stage_stored (carried : request.key = some key) {response : TriggerVerificationResponse}
    (row : handlers.db.idempotencyKeys key = some
      { endpoint := endpointName, responseStatus := 200, responseBody := response })
    (settled : ∀ other, (handlers.phases other).quiet = true ∨
      handlers.phases other = .answered response)
    (once : handlers.transactions ≤ 1) :
    Stage key (handlers.advance request index weather) := by
  rcases settled index with quiet | stands
  · rcases quiet_cases quiet with stands | ⟨error, stands⟩
    · have looked : lookUp request handlers.db = .answered response := by
        rw [lookUp, cached_of_stored carried row rfl]
      rw [advance_at stands, nextStep, looked]
      refine .stored response row ?_ once
      intro other
      dsimp only
      by_cases same : other = index
      · rw [same, Function.update_self]
        exact settled_answer weather response
      · rw [Function.update_of_ne same]
        exact settled other
    · rw [advance_failed stands]
      exact .stored response row settled once
  · rw [advance_answered stands]
    exact .stored response row settled once

theorem quiet_of_bystander {phases : Nat → Phase} {phase : Phase} (quiet : phase.quiet = true)
    (others : ∀ other, other ≠ one → (phases other).quiet = true) :
    ∀ other, other ≠ one → (Function.update phases index phase other).quiet = true := by
  intro other different
  by_cases same : other = index
  · rw [same, Function.update_self]
    exact quiet
  · rw [Function.update_of_ne same]
    exact others other different

/-- Every guarded step of a handler leads from one stage to another. -/
theorem stage_advance (carried : request.key = some key) (stage : Stage key handlers)
    (guarded : GuardedStep request handlers weather (handlers.phases index)) :
    Stage key (handlers.advance request index weather) := by
  cases stage with
  | before row quiet none => exact stage_before carried row quiet none
  | asking row one others here none =>
      by_cases same : index = one
      · subst same
        exact stage_asking row others here none guarded
      · have busy : (handlers.phases one).inFlight = true := by
          rcases here with stands | ⟨claim, stands⟩
          · rw [stands]
            rfl
          · rw [stands]
            rfl
        obtain ⟨phase, quiet, advanced⟩ :=
          advance_bystander carried row (others index same) busy guarded
        rw [advanced]
        refine .asking row one (quiet_of_bystander quiet others) ?_ none
        dsimp only
        rw [Function.update_of_ne (Ne.symm same)]
        exact here
  | decided row one others here once =>
      by_cases same : index = one
      · subst same
        exact stage_decided carried row others here once guarded
      · have busy : (handlers.phases one).inFlight = true := by
          rcases here with ⟨claim, result, stands⟩ | ⟨response, stands⟩
          · rw [stands]
            rfl
          · rw [stands]
            rfl
        obtain ⟨phase, quiet, advanced⟩ :=
          advance_bystander carried row (others index same) busy guarded
        rw [advanced]
        refine .decided row one (quiet_of_bystander quiet others) ?_ once
        dsimp only
        rw [Function.update_of_ne (Ne.symm same)]
        exact here
  | stored response row settled once => exact stage_stored carried row settled once

theorem stage_elsewhere (stage : Stage key handlers) (db : Database) :
    Stage key { handlers with db := handlers.db.replacedExcept db key } := by
  have kept : (handlers.db.replacedExcept db key).idempotencyKeys key =
      handlers.db.idempotencyKeys key := Function.update_self ..
  cases stage with
  | before row quiet none => exact .before (kept.trans row) quiet none
  | asking row one others here none => exact .asking (kept.trans row) one others here none
  | decided row one others here once => exact .decided (kept.trans row) one others here once
  | stored response row settled once => exact .stored response (kept.trans row) settled once

theorem Stage.once (stage : Stage key handlers) : handlers.transactions ≤ 1 := by
  cases stage with
  | before _ _ none => omega
  | asking _ _ _ _ none => omega
  | decided _ _ _ _ once => exact once
  | stored _ _ _ once => exact once

/-- An answer given is the answer stored. -/
theorem Stage.answers (stage : Stage key handlers) {response : TriggerVerificationResponse}
    (answered : handlers.phases index = .answered response) :
    handlers.db.idempotencyKeys key = some
      { endpoint := endpointName, responseStatus := 200, responseBody := response } := by
  cases stage with
  | before _ quiet _ => exact absurd answered (ne_answered_of_quiet (quiet index) response)
  | asking _ one others here _ =>
      by_cases same : index = one
      · subst same
        rw [answered] at here
        rcases here with impossible | ⟨_, impossible⟩
        · cases impossible
        · cases impossible
      · exact absurd answered (ne_answered_of_quiet (others index same) response)
  | decided _ one others here _ =>
      by_cases same : index = one
      · subst same
        rw [answered] at here
        rcases here with ⟨_, _, impossible⟩ | ⟨_, impossible⟩
        · cases impossible
        · cases impossible
      · exact absurd answered (ne_answered_of_quiet (others index same) response)
  | stored stored row settled _ =>
      rcases settled index with quiet | same
      · exact absurd answered (ne_answered_of_quiet quiet response)
      · rw [answered] at same
        cases same
        exact row

end Steps

theorem stage_run {request : Request} {key : String} (carried : request.key = some key)
    {db : Database} (unused : db.idempotencyKeys key = none) (actions : List Action)
    (guarded : ∀ step ∈ steps request key db actions, Guarded request step.before step.call) :
    Stage key (run request key db actions) := by
  refine @run_induction _ _ _ _ (exec request key) (fun handlers _ => Stage key handlers)
    (fun step => Guarded request step.before step.call) (Handlers.start db) ?_ ?_ actions guarded
  · exact .before unused (fun _ => rfl) rfl
  · intro handlers past action next output stage done allowed
    cases done
    cases action with
    | advance index weather => exact stage_advance carried stage allowed
    | elsewhere other => exact stage_elsewhere stage other

/-- Requests under one key make at most one transaction and all get the same
answer, in every run whose steps leave no gap in the protection. -/
theorem verified_at_most_once (request : Request) (key : String)
    (carried : request.idempotencyKey = some key) (nonempty : key ≠ "") (db : Database)
    (unused : db.idempotencyKeys key = none) (actions : List Action)
    (guarded : ∀ step ∈ steps request key db actions, Guarded request step.before step.call) :
    (run request key db actions).transactions ≤ 1 ∧
      ∀ first second response other,
        (run request key db actions).phases first = .answered response →
        (run request key db actions).phases second = .answered other → response = other := by
  have present : request.key = some key := by
    rw [Request.key, carried]
    exact if_pos (decide_eq_true nonempty)
  have stage := stage_run present unused actions guarded
  refine ⟨stage.once, ?_⟩
  intro first second response other answered answeredToo
  have stored := stage.answers answered
  rw [stage.answers answeredToo] at stored
  cases stored
  rfl

section Sample

def keyedRequest : Request := { claimId := 1, idempotencyKey := some "retry-key" }

def goodReply (txHash : Bytes32) : OracleService.Reply :=
  .ok
    { claimId := 1
      requestId := txHash
      approved := true
      reason := .withinThreshold
      txHash
      blockNumber := 3 }

def calmStep (index : Nat) (txHash : Bytes32) : Action :=
  .advance index { database := .none, transaction := true, reply := some (goodReply txHash) }

def retriedSteps : List Action :=
  [calmStep 0 0x99, calmStep 0 0x99, calmStep 0 0x99, calmStep 0 0x99, calmStep 0 0x99,
   calmStep 1 0xAA]

theorem retriedSteps_guarded :
    ∀ step ∈ steps keyedRequest "retry-key" (sampleDatabase (some 1)) retriedSteps,
      Guarded keyedRequest step.before step.call := by
  refine List.forall_mem_cons.mpr ⟨?_, List.forall_mem_cons.mpr ⟨?_, List.forall_mem_cons.mpr
    ⟨?_, List.forall_mem_cons.mpr ⟨?_, List.forall_mem_cons.mpr ⟨?_, List.forall_mem_cons.mpr
    ⟨?_, List.forall_mem_nil _⟩⟩⟩⟩⟩⟩
  · intro _ _ _
    rfl
  · exact trivial
  · intro _
    exact ⟨_, rfl⟩
  · rfl
  · exact nofun
  · intro _ missed
    exact absurd missed (by decide)

theorem verified_at_most_once_retried :
    (run keyedRequest "retry-key" (sampleDatabase (some 1)) retriedSteps).phases 1 =
        .answered sampleAnswer ∧
      (run keyedRequest "retry-key" (sampleDatabase (some 1)) retriedSteps).transactions ≤ 1 :=
  ⟨by decide,
    (verified_at_most_once keyedRequest "retry-key" rfl (by decide) (sampleDatabase (some 1)) rfl
      retriedSteps retriedSteps_guarded).1⟩

/-- The second request looks the key up before the first one has stored its
answer. -/
def overlappingSteps : List Action :=
  [calmStep 0 0x99, calmStep 1 0xAA, calmStep 0 0x99, calmStep 1 0xAA, calmStep 0 0x99,
   calmStep 1 0xAA, calmStep 0 0x99, calmStep 1 0xAA, calmStep 0 0x99, calmStep 1 0xAA]

theorem overlapping_requests_verified_twice :
    (run keyedRequest "retry-key" (sampleDatabase (some 1)) overlappingSteps).transactions = 2 ∧
      (run keyedRequest "retry-key" (sampleDatabase (some 1)) overlappingSteps).phases 0 =
        .answered sampleAnswer ∧
      (run keyedRequest "retry-key" (sampleDatabase (some 1)) overlappingSteps).phases 1 =
        .answered { sampleAnswer with oracleTxHash := 0xAA } ∧
      sampleAnswer ≠ { sampleAnswer with oracleTxHash := 0xAA } := by
  decide

end Sample

end Dics.Backend
