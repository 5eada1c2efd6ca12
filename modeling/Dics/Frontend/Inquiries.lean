/-
The status page: looking claims up and having them verified.

Looking a claim up draws the idempotency key for its verification.  Claim and key
are two states of the page, and the reload after a verification sets only the
first.  Where no search is answered while a verification is under way, the two
belong together on every page, so the answers that the backend stores by key
alone are given out for their own claims.
-/

import Dics.Backend.ReusedKeys

open Scripts

namespace Dics.Frontend.StatusPage

open Backend (ClaimStatus Request CachedResponse System Service Visit TriggerVerificationResponse
  triggerVerification afterVisit runVisits OwnKey AnswersOwnClaim)

/-! ### One page -/

structure Shown where
  claimId : Int
  status : ClaimStatus
  deriving DecidableEq

/-- Where `handleTriggerVerification` stands; `verifying` is true but when idle. -/
inductive Pending where
  | idle
  | verification (request : Request)
  | reload (claimId : Int)
  deriving DecidableEq

structure Page where
  claim : Option Shown
  idempotencyKey : Option String
  pending : Pending
  deriving DecidableEq

def Page.empty : Page := { claim := none, idempotencyKey := none, pending := .idle }

/-- `handleSearch` up to its request. -/
def Page.handleSearch (page : Page) : Page := { page with claim := none }

/-- The answer to a search; a refused one only sets the error. -/
def Page.found (page : Page) (shown : Shown) (randomUUID : String) : Page :=
  { page with
    claim := some shown
    idempotencyKey := some randomUUID }

/-- A click on the button, which is there for a submitted claim and enabled when
nothing is under way. -/
def Page.handleTriggerVerification (page : Page) : Page :=
  match page.claim with
  | none => page
  | some shown =>
      if shown.status = .submitted ∧ page.pending = .idle then
        { page with
          pending := .verification
            { claimId := shown.claimId, idempotencyKey := page.idempotencyKey } }
      else page

/-- What the page makes of the phase that its request ended in, if it hears of it. -/
def Page.heard (page : Page) (request : Request) : Option Backend.Phase → Page
  | some (.answered _) => { page with pending := .reload request.claimId }
  | _ => { page with pending := .idle }

/-- The end of the reload, with the status it has brought. -/
def Page.reloaded (page : Page) (answer : Option ClaimStatus) : Page :=
  match page.pending, answer with
  | .reload claimId, some status =>
      { page with
        claim := some { claimId, status }
        pending := .idle }
  | .reload _, none => { page with pending := .idle }
  | _, _ => page

/-! ### Pages and the backend -/

structure State where
  pages : Nat → Page
  system : System

/-- `lost` is a request that never arrives.  Requests that come from no page, and
all other changes, happen at any time. -/
inductive Event where
  | search (index : Nat)
  | found (index : Nat) (shown : Shown) (randomUUID : String)
  | click (index : Nat)
  | lost (index : Nat)
  | serve (index : Nat) (attempt : OracleService.Attempt) (fault : Fault) (delivered : Bool)
  | reloaded (index : Nat) (answer : Option ClaimStatus)
  | direct (attempt : OracleService.Attempt) (fault : Fault) (request : Request)
  | elsewhere (system : System)

def State.withPage (state : State) (index : Nat) (page : Page) : State :=
  { state with pages := Function.update state.pages index page }

/-- A backend request runs as one step: two requests never overlap here. -/
def State.step (service : Service) (state : State) : Event → State
  | .search index => state.withPage index (state.pages index).handleSearch
  | .found index shown randomUUID =>
      state.withPage index ((state.pages index).found shown randomUUID)
  | .click index => state.withPage index (state.pages index).handleTriggerVerification
  | .lost index =>
      match (state.pages index).pending with
      | .verification request =>
          state.withPage index ((state.pages index).heard request none)
      | _ => state
  | .serve index attempt fault delivered =>
      match (state.pages index).pending with
      | .verification request =>
          let triggered := triggerVerification service attempt fault request state.system
          { state.withPage index ((state.pages index).heard request
              (if delivered = true then some triggered.phase else none)) with
            system := triggered.system }
      | _ => state
  | .reloaded index answer => state.withPage index ((state.pages index).reloaded answer)
  | .direct attempt fault request =>
      { state with
        system := (triggerVerification service attempt fault request state.system).system }
  | .elsewhere system => { state with system := state.system.replaced system }

def run (service : Service) (state : State) (events : List Event) : State :=
  events.foldl (State.step service) state

def State.start (system : System) : State := { pages := fun _ => Page.empty, system }

/-- What the backend sees of an event. -/
def State.visits (state : State) : Event → List Visit
  | .serve index attempt fault _ =>
      match (state.pages index).pending with
      | .verification request => [.trigger attempt fault request]
      | _ => []
  | .direct attempt fault request => [.trigger attempt fault request]
  | .elsewhere system => [.elsewhere system]
  | _ => []

def visits (service : Service) : State → List Event → List Visit
  | _, [] => []
  | state, event :: rest => state.visits event ++ visits service (state.step service event) rest

/-! ### Keys and the claims they were drawn for -/

def drawnBy : Event → List (String × Int)
  | .found _ shown randomUUID => [(randomUUID, shown.claimId)]
  | _ => []

def drawn (events : List Event) : List (String × Int) := events.flatMap drawnBy

def directKeysOf : Event → List String
  | .direct _ _ request => request.idempotencyKey.toList
  | _ => []

def directKeys (events : List Event) : List String := events.flatMap directKeysOf

/-- No search is answered while a verification is under way. -/
def Calm (state : State) : Event → Prop
  | .found index _ _ => (state.pages index).pending = .idle
  | _ => True

def Pending.claimId : Pending → Option Int
  | .idle => none
  | .verification request => some request.claimId
  | .reload claimId => some claimId

/-- The key of the page was drawn for the claim it shows, and for the claim of the
request it waits for. -/
structure Page.Attributed (keys : List (String × Int)) (page : Page) : Prop where
  shown : ∀ shown, page.claim = some shown →
    ∃ key, page.idempotencyKey = some key ∧ (key, shown.claimId) ∈ keys
  pending : ∀ claimId, page.pending.claimId = some claimId →
    ∃ key, page.idempotencyKey = some key ∧ (key, claimId) ∈ keys
  carried : ∀ request, page.pending = .verification request →
    request.idempotencyKey = page.idempotencyKey

structure Attributed (keys : List (String × Int)) (others : List String) (state : State) :
    Prop where
  pages : ∀ index, (state.pages index).Attributed keys
  stored : ∀ key record, state.system.db.idempotencyKeys key = some record →
    (key, record.responseBody.claimId) ∈ keys ∨ key ∈ others

section Pages

variable {keys more : List (String × Int)} {page : Page}

theorem Page.Attributed.mono (attributed : page.Attributed keys) (more : List (String × Int)) :
    page.Attributed (keys ++ more) where
  shown := by
    intro shown present
    obtain ⟨key, held, member⟩ := attributed.shown shown present
    exact ⟨key, held, List.mem_append_left _ member⟩
  pending := by
    intro claimId waits
    obtain ⟨key, held, member⟩ := attributed.pending claimId waits
    exact ⟨key, held, List.mem_append_left _ member⟩
  carried := attributed.carried

theorem Page.Attributed.handleSearch (attributed : page.Attributed keys) :
    page.handleSearch.Attributed keys where
  shown := by
    intro shown present
    cases present
  pending := attributed.pending
  carried := attributed.carried

theorem Page.Attributed.idle (attributed : page.Attributed keys) :
    Page.Attributed keys { page with pending := .idle } where
  shown := attributed.shown
  pending := by
    intro claimId waits
    cases waits
  carried := by
    intro request waits
    cases waits

/-- With nothing under way, a new claim comes with its new key. -/
theorem Page.Attributed.found (rests : page.pending = .idle) (shown : Shown)
    (randomUUID : String) :
    (page.found shown randomUUID).Attributed (keys ++ [(randomUUID, shown.claimId)]) where
  shown := by
    intro other present
    cases present
    exact ⟨randomUUID, rfl, List.mem_append_right _ List.mem_cons_self⟩
  pending := by
    intro claimId waits
    rw [Page.found, rests] at waits
    cases waits
  carried := by
    intro request waits
    rw [Page.found, rests] at waits
    cases waits

theorem Page.Attributed.handleTriggerVerification (attributed : page.Attributed keys) :
    page.handleTriggerVerification.Attributed keys := by
  unfold Page.handleTriggerVerification
  split
  · exact attributed
  · rename_i shown present
    split
    · refine ⟨attributed.shown, ?_, ?_⟩
      · intro claimId waits
        cases waits
        exact attributed.shown shown present
      · intro request waits
        cases waits
        rfl
    · exact attributed

theorem Page.Attributed.heard (attributed : page.Attributed keys) {request : Request}
    (waits : page.pending = .verification request) (phase : Option Backend.Phase) :
    (page.heard request phase).Attributed keys := by
  unfold Page.heard
  split
  · refine ⟨attributed.shown, ?_, ?_⟩
    · intro claimId reloads
      cases reloads
      exact attributed.pending request.claimId (by rw [waits]; rfl)
    · intro other impossible
      cases impossible
  · exact attributed.idle

theorem Page.Attributed.reloaded (attributed : page.Attributed keys)
    (answer : Option ClaimStatus) : (page.reloaded answer).Attributed keys := by
  unfold Page.reloaded
  split
  · rename_i claimId status waits
    refine ⟨?_, attributed.idle.pending, attributed.idle.carried⟩
    intro shown present
    cases present
    exact attributed.pending claimId (by rw [waits]; rfl)
  · exact attributed.idle
  · exact attributed

end Pages

section Stored

variable {service : Service} {attempt : OracleService.Attempt} {fault : Fault}
  {request : Request} {system : System}

/-- A cached answer stands under the key of the request. -/
theorem stored_of_hit {record : CachedResponse} (hit : request.cached system.db = some record) :
    ∃ key, request.idempotencyKey = some key ∧
      system.db.idempotencyKeys key = some record := by
  obtain ⟨key, carried, cached⟩ := Option.bind_eq_some_iff.mp hit
  refine ⟨key, (Option.filter_eq_some_iff.mp carried).1, ?_⟩
  unfold Backend.getCachedResponse at cached
  cases present : system.db.idempotencyKeys key with
  | none =>
      rw [present] at cached
      cases cached
  | some first =>
      rw [present] at cached
      dsimp only at cached
      split at cached
      · cases cached
      · exact cached

theorem storeAnswer_otherKeys {key : String} (other : request.key ≠ some key)
    (db : Backend.Database) (response : TriggerVerificationResponse) :
    (Backend.storeAnswer request db response).idempotencyKeys key = db.idempotencyKeys key := by
  unfold Backend.storeAnswer
  cases carried : request.key with
  | none => rfl
  | some own =>
      have different : key ≠ own := by
        intro same
        exact other (same ▸ carried)
      dsimp only
      unfold Backend.storeResponse
      split
      · rfl
      · exact Function.update_of_ne different _ _

/-- A request stores an answer under its own key only. -/
theorem triggerVerification_otherKeys {key : String} (other : request.key ≠ some key) :
    (triggerVerification service attempt fault request system).system.db.idempotencyKeys key =
      system.db.idempotencyKeys key := by
  cases hit : request.cached system.db with
  | some cached => rw [Backend.triggerVerification_hit hit]
  | none =>
      cases found : system.db.claims request.claimId with
      | none => rw [Backend.triggerVerification_absent hit found]
      | some claim =>
          rw [Backend.triggerVerification_loaded hit found]
          unfold Backend.receiveReply
          cases Backend.requestVerification
              (service.call attempt fault claim system.oracle).reply with
          | error error => rfl
          | ok result => exact storeAnswer_otherKeys other _ _

/-- What a request leaves in the store: what was there, or an answer for its own
claim under its own key. -/
theorem stored_step {key : String} {record : CachedResponse}
    (stored : (triggerVerification service attempt fault request
      system).system.db.idempotencyKeys key = some record) :
    system.db.idempotencyKeys key = some record ∨
      (request.idempotencyKey = some key ∧
        record.responseBody.claimId = request.claimId) := by
  by_cases own : request.key = some key
  · rcases Backend.triggerVerification_keys stored with before | ⟨_, same⟩
    · exact Or.inl before
    · exact Or.inr ⟨(Option.filter_eq_some_iff.mp own).1, same⟩
  · rw [triggerVerification_otherKeys own] at stored
    exact Or.inl stored

end Stored

section Runs

variable {service : Service} {keys : List (String × Int)} {others : List String} {state : State}

theorem Attributed.withPage (attributed : Attributed keys others state) {index : Nat}
    {page : Page} (here : page.Attributed keys) :
    Attributed keys others (state.withPage index page) where
  pages := by
    intro other
    show (Function.update state.pages index page other).Attributed keys
    by_cases same : other = index
    · rw [same, Function.update_self]
      exact here
    · rw [Function.update_of_ne same]
      exact attributed.pages other
  stored := attributed.stored

theorem Attributed.mono (attributed : Attributed keys others state)
    (more : List (String × Int)) (further : List String) :
    Attributed (keys ++ more) (others ++ further) state where
  pages := fun index => (attributed.pages index).mono more
  stored := by
    intro key record stored
    rcases attributed.stored key record stored with member | foreign
    · exact Or.inl (List.mem_append_left _ member)
    · exact Or.inr (List.mem_append_left _ foreign)

/-- What the backend stores for a request with a key that was drawn for its claim,
or that comes from elsewhere. -/
theorem Attributed.triggered (attributed : Attributed keys others state)
    (attempt : OracleService.Attempt) (fault : Fault) {request : Request}
    (known : ∀ key, request.idempotencyKey = some key →
      (key, request.claimId) ∈ keys ∨ key ∈ others) :
    Attributed keys others
      { state with
        system := (triggerVerification service attempt fault request state.system).system } where
  pages := attributed.pages
  stored := by
    intro key record stored
    rcases stored_step stored with before | ⟨carried, same⟩
    · exact attributed.stored key record before
    · rw [same]
      exact known key carried

/-- One event draws its keys and keeps all keys with their claims. -/
theorem attributed_step (attributed : Attributed keys others state) {event : Event}
    (calm : Calm state event) :
    Attributed (keys ++ drawnBy event) (others ++ directKeysOf event)
      (state.step service event) := by
  have grown := attributed.mono (drawnBy event) (directKeysOf event)
  cases event with
  | search index => exact grown.withPage (grown.pages index).handleSearch
  | found index shown randomUUID =>
      exact grown.withPage (Page.Attributed.found calm shown randomUUID)
  | click index => exact grown.withPage (grown.pages index).handleTriggerVerification
  | lost index =>
      rw [State.step]
      split
      · rename_i request waits
        exact grown.withPage ((grown.pages index).heard waits none)
      · exact grown
  | serve index attempt fault delivered =>
      rw [State.step]
      split
      · rename_i request waits
        obtain ⟨key, held, member⟩ := (grown.pages index).pending request.claimId
          (by rw [waits]; rfl)
        have carried := (grown.pages index).carried request waits
        refine (grown.withPage ((grown.pages index).heard waits _)).triggered attempt fault ?_
        intro other own
        rw [carried, held] at own
        cases own
        exact Or.inl member
      · exact grown
  | reloaded index answer => exact grown.withPage ((grown.pages index).reloaded answer)
  | direct attempt fault request =>
      refine grown.triggered attempt fault ?_
      intro key carried
      refine Or.inr (List.mem_append_right _ ?_)
      exact Option.mem_toList.mpr carried
  | elsewhere system => exact ⟨grown.pages, grown.stored⟩

theorem attributed_run {events : List Event} (attributed : Attributed keys others state)
    (calm : Along Calm (State.step service) events state) :
    Attributed (keys ++ drawn events) (others ++ directKeys events)
      (run service state events) := by
  induction events generalizing state keys others with
  | nil =>
      rw [drawn, directKeys, List.flatMap_nil, List.flatMap_nil, List.append_nil,
        List.append_nil]
      exact attributed
  | cons event rest ih =>
      have later := ih (attributed_step attributed calm.1) calm.2
      rw [List.append_assoc, List.append_assoc] at later
      exact later

theorem attributed_start {system : System}
    (fresh : ∀ key, system.db.idempotencyKeys key = none) :
    Attributed [] [] (State.start system) where
  pages := by
    intro index
    refine ⟨?_, ?_, ?_⟩
    · intro shown present
      cases present
    · intro claimId waits
      cases waits
    · intro request waits
      cases waits
  stored := by
    intro key record stored
    rw [State.start, fresh] at stored
    cases stored

theorem step_system (event : Event) :
    (state.step service event).system = runVisits service (state.visits event) state.system := by
  cases event with
  | serve index attempt fault delivered =>
      rw [State.step, State.visits]
      cases (state.pages index).pending with
      | verification request => rfl
      | idle => rfl
      | reload claimId => rfl
  | lost index =>
      rw [State.step]
      split
      · rfl
      · rfl
  | search index => rfl
  | found index shown randomUUID => rfl
  | click index => rfl
  | reloaded index answer => rfl
  | direct attempt fault request => rfl
  | elsewhere system => rfl

/-- The backend goes through the visits of the pages. -/
theorem run_system (events : List Event) :
    (run service state events).system =
      runVisits service (visits service state events) state.system := by
  induction events generalizing state with
  | nil => rfl
  | cons event rest ih =>
      have later := @ih (state.step service event)
      rw [step_system] at later
      rw [visits, runVisits, List.foldl_append]
      exact later

end Runs

/-- Whatever order searches, clicks, reloads and the backend's work take on any
number of pages, with keys that do not repeat and no search answered while the
page's verification is under way: every request of a page carries the key that was
drawn for its claim, and is answered with a decision on that claim. -/
theorem inquiries_answered_for_their_claim (service : Service) (system : System)
    (fresh : ∀ key, system.db.idempotencyKeys key = none) (events : List Event)
    (unrepeated : ((drawn events).map Prod.fst).Nodup)
    (apart : ∀ key ∈ directKeys events, key ∉ (drawn events).map Prod.fst)
    (calm : Along Calm (State.step service) events (State.start system))
    (before after : List Event) (index : Nat) (attempt : OracleService.Attempt) (fault : Fault)
    (delivered : Bool) (request : Request)
    (served : events = before ++ .serve index attempt fault delivered :: after)
    (sent : ((run service (State.start system) before).pages index).pending =
      .verification request) :
    (∃ key, request.idempotencyKey = some key ∧ (key, request.claimId) ∈ drawn before) ∧
      AnswersOwnClaim service system (visits service (State.start system) before) attempt fault
        request := by
  rw [served, along_append] at calm
  have attributed := attributed_run (attributed_start fresh) calm.1
  rw [List.nil_append, List.nil_append] at attributed
  obtain ⟨key, held, member⟩ := (attributed.pages index).pending request.claimId
    (by rw [sent]; rfl)
  have carried := ((attributed.pages index).carried request sent).trans held
  refine ⟨⟨key, carried, member⟩, ?_⟩
  have earlierKeys : ∀ pair ∈ drawn before, pair ∈ drawn events := by
    intro pair there
    rw [served, drawn, List.flatMap_append]
    exact List.mem_append_left _ there
  refine (Backend.answersOwnClaim_iff fresh _).mpr ?_
  intro record hit
  obtain ⟨own, ownCarried, stored⟩ := stored_of_hit hit
  rw [carried] at ownCarried
  cases ownCarried
  have systems := @run_system service (State.start system) before
  rw [show (State.start system).system = system from rfl] at systems
  rw [← systems] at stored
  rcases attributed.stored key record stored with drawnFor | foreign
  · have pairs := List.inj_on_of_nodup_map unrepeated (earlierKeys _ drawnFor)
      (earlierKeys _ member) rfl
    exact congrArg Prod.snd pairs
  · have used : key ∈ directKeys events := by
      rw [served, directKeys, List.flatMap_append]
      exact List.mem_append_left _ foreign
    exact absurd (List.mem_map_of_mem (earlierKeys _ member)) (apart key used)

section Sample

open Backend (sampleService sampleAttempt sampleAnswer twoClaimsSystem)

/-- A search for claim `1`, and a click whose answer gets lost. -/
def firstAttempt : List Event :=
  [.search 0, .found 0 ⟨1, .submitted⟩ "k1", .click 0, .serve 0 sampleAttempt .none false,
    .click 0]

/-- The second click is answered; another page asks for claim `2` meanwhile. -/
def retriedInquiry : List Event :=
  firstAttempt ++ [.serve 0 sampleAttempt .none true, .found 1 ⟨2, .submitted⟩ "k2", .click 1,
    .reloaded 0 (some .approved), .direct sampleAttempt .none ⟨2, some "cli"⟩]

theorem retriedInquiry_calm :
    Along Calm (State.step sampleService) retriedInquiry (State.start twoClaimsSystem) :=
  ⟨trivial, rfl, trivial, trivial, trivial, trivial, rfl, trivial, trivial, trivial, trivial⟩

theorem inquiries_answered_for_their_claim_sample :
    (triggerVerification sampleService sampleAttempt .none ⟨1, some "k1"⟩
        (run sampleService (State.start twoClaimsSystem) firstAttempt).system).phase =
        .answered sampleAnswer ∧
      AnswersOwnClaim sampleService twoClaimsSystem
        (visits sampleService (State.start twoClaimsSystem) firstAttempt) sampleAttempt .none
        ⟨1, some "k1"⟩ := by
  refine ⟨by decide +kernel, ?_⟩
  exact (inquiries_answered_for_their_claim sampleService twoClaimsSystem (fun _ => rfl)
    retriedInquiry (by decide +kernel) (by decide +kernel) retriedInquiry_calm firstAttempt _ 0
    sampleAttempt .none true ⟨1, some "k1"⟩ rfl (by decide +kernel)).2

/-- A search that is answered under a verification leaves the page with the old
claim and the new key, if the claim is still shown as submitted. -/
example :
    ((run sampleService (State.start twoClaimsSystem)
      [.found 0 ⟨1, .submitted⟩ "k1", .click 0, .found 0 ⟨2, .submitted⟩ "k2",
        .serve 0 sampleAttempt .none true, .reloaded 0 (some .submitted), .click 0]).pages
      0).pending = .verification ⟨1, some "k2"⟩ := by
  decide +kernel

end Sample

end Dics.Frontend.StatusPage
