/-
Idempotency keys across claims.

A stored answer is found by its key and a constant endpoint name; the claim of
the request is not compared.  A sequence of requests, for any claims and with
any keys, is answered truthfully as long as no request carries a key under which
the answer for another claim is stored.
-/

import Dics.Backend.Verification

open Scripts

namespace Dics.Backend

/-! ### Sequences of requests -/

/-- A request, or a change of anything in the system but the stored answers. -/
inductive Visit where
  | trigger (attempt : OracleService.Attempt) (fault : Fault) (request : Request)
  | elsewhere (system : System)

def System.replaced (system other : System) : System :=
  { other with db := { other.db with idempotencyKeys := system.db.idempotencyKeys } }

def afterVisit (service : Service) (system : System) : Visit → System
  | .trigger attempt fault request =>
      (triggerVerification service attempt fault request system).system
  | .elsewhere other => system.replaced other

def runVisits (service : Service) (visits : List Visit) (system : System) : System :=
  visits.foldl (afterVisit service) system

/-- The request had the oracle decide its own claim, and was answered with that
decision. -/
structure Verifies (service : Service) (system : System) (attempt : OracleService.Attempt)
    (fault : Fault) (request : Request) (response : TriggerVerificationResponse) : Prop where
  missed : request.cached system.db = none
  answered : (triggerVerification service attempt fault request system).phase =
    .answered response
  relayed : ∃ relayed,
    (triggerVerification service attempt fault request system).relayed = some relayed ∧
      (relayed.claimId : Int) = request.claimId ∧ relayed.approved = response.approved

def VerifiedIn (service : Service) (claimId : Int) (response : TriggerVerificationResponse) :
    List Visit → System → Prop
  | [], _ => False
  | visit :: rest, system =>
      (∃ attempt fault request, visit = .trigger attempt fault request ∧
        request.claimId = claimId ∧ Verifies service system attempt fault request response) ∨
      VerifiedIn service claimId response rest (afterVisit service system visit)

/-- A response to a request describes its claim, and was obtained for it now or
by an earlier request. -/
def AnswersOwnClaim (service : Service) (start : System) (before : List Visit)
    (attempt : OracleService.Attempt) (fault : Fault) (request : Request) : Prop :=
  ∀ response,
    (triggerVerification service attempt fault request (runVisits service before start)).phase =
      .answered response →
    response.claimId = request.claimId ∧
      (Verifies service (runVisits service before start) attempt fault request response ∨
        VerifiedIn service request.claimId response before start)

/-- No answer for another claim is stored under the key of the request. -/
def OwnKey (system : System) : Visit → Prop
  | .trigger _ _ request =>
      ∀ record, request.cached system.db = some record →
        record.responseBody.claimId = request.claimId
  | .elsewhere _ => True

section Spec

variable {service : Service} {attempt : OracleService.Attempt} {fault : Fault}
  {request : Request} {system : System} {response : TriggerVerificationResponse}

theorem call_ok_approved {claim : Claim} {oracle : OracleService.State}
    {body : OracleService.VerifyBody}
    (reply : (service.call attempt fault claim oracle).reply = some (.ok body)) :
    ∃ relayed, (service.call attempt fault claim oracle).relayed = some relayed ∧
      (relayed.claimId : Int) = claim.id ∧ relayed.approved = body.approved := by
  cases fault with
  | lost => cases reply
  | late => cases reply
  | none => exact OracleService.verify_ok reply

theorem triggerVerification_verifies (missed : request.cached system.db = none)
    (answered : (triggerVerification service attempt fault request system).phase =
      .answered response) :
    Verifies service system attempt fault request response ∧
      response.claimId = request.claimId := by
  have whole := answered
  cases found : system.db.claims request.claimId with
  | none =>
      rw [triggerVerification_absent missed found] at answered
      cases answered
  | some claim =>
      have loaded := @triggerVerification_loaded service attempt fault request system claim missed
        found
      rw [loaded] at answered
      obtain ⟨body, reply⟩ := settle_answered answered
      obtain ⟨relayed, sent, claimId, approved⟩ := call_ok_approved reply
      have keyed := system.db.keyed _ _ found
      rw [reply] at answered
      cases answered
      refine ⟨⟨missed, whole, relayed, ?_, claimId.trans keyed, approved⟩, keyed⟩
      rw [loaded, (settle_oracle ..).2]
      exact sent

theorem storeAnswer_keys {db : Database} {key : String} {record : CachedResponse}
    (stored : (storeAnswer request db response).idempotencyKeys key = some record) :
    db.idempotencyKeys key = some record ∨ record.responseBody = response := by
  unfold storeAnswer at stored
  cases carried : request.key with
  | none =>
      rw [carried] at stored
      exact Or.inl stored
  | some own =>
      rw [carried] at stored
      dsimp only [storeResponse] at stored
      cases present : db.idempotencyKeys own with
      | some first =>
          rw [present] at stored
          exact Or.inl stored
      | none =>
          rw [present] at stored
          dsimp only at stored
          by_cases same : key = own
          · rw [same, Function.update_self] at stored
            cases stored
            exact Or.inr rfl
          · rw [Function.update_of_ne same] at stored
            exact Or.inl stored

/-- A request stores nothing but its own verified answer. -/
theorem triggerVerification_keys {key : String} {record : CachedResponse}
    (stored : (triggerVerification service attempt fault request
      system).system.db.idempotencyKeys key = some record) :
    system.db.idempotencyKeys key = some record ∨
      (Verifies service system attempt fault request record.responseBody ∧
        record.responseBody.claimId = request.claimId) := by
  cases hit : request.cached system.db with
  | some cached =>
      rw [triggerVerification_hit hit] at stored
      exact Or.inl stored
  | none =>
      cases found : system.db.claims request.claimId with
      | none =>
          rw [triggerVerification_absent hit found] at stored
          exact Or.inl stored
      | some claim =>
          have loaded := @triggerVerification_loaded service attempt fault request system claim
            hit found
          rw [loaded] at stored
          unfold receiveReply at stored loaded
          cases outcome : requestVerification
              (service.call attempt fault claim system.oracle).reply with
          | error error =>
              rw [outcome] at stored
              exact Or.inl stored
          | ok result =>
              rw [outcome] at stored loaded
              have answered := congrArg Triggered.phase loaded
              rcases storeAnswer_keys stored with earlier | same
              · exact Or.inl earlier
              · rw [same]
                exact Or.inr (triggerVerification_verifies hit answered)

theorem verifiedIn_append (claimId : Int) (before after : List Visit) (system : System) :
    VerifiedIn service claimId response (before ++ after) system ↔
      VerifiedIn service claimId response before system ∨
        VerifiedIn service claimId response after (runVisits service before system) := by
  induction before generalizing system with
  | nil => exact (iff_of_eq (false_or _)).symm
  | cons visit rest ih =>
      rw [List.cons_append, VerifiedIn, VerifiedIn, ih, or_assoc]
      rfl

/-- Every stored answer is that of an earlier request which verified its claim. -/
theorem stored_verified {start : System} (fresh : ∀ key, start.db.idempotencyKeys key = none)
    (visits : List Visit) {key : String} {record : CachedResponse}
    (stored : (runVisits service visits start).db.idempotencyKeys key = some record) :
    VerifiedIn service record.responseBody.claimId record.responseBody visits start := by
  induction visits using List.reverseRecOn with
  | nil =>
      rw [runVisits, List.foldl_nil, fresh] at stored
      cases stored
  | append_singleton earlier visit ih =>
      rw [verifiedIn_append]
      rw [runVisits, List.foldl_append, List.foldl_cons, List.foldl_nil] at stored
      cases visit with
      | elsewhere other => exact Or.inl (ih stored)
      | trigger attempt fault request =>
          rcases triggerVerification_keys stored with before | ⟨verifies, same⟩
          · exact Or.inl (ih before)
          · exact Or.inr (Or.inl ⟨attempt, fault, request, rfl, same.symm, verifies⟩)

theorem stored_of_cached {record : CachedResponse}
    (hit : request.cached system.db = some record) :
    ∃ key, system.db.idempotencyKeys key = some record := by
  obtain ⟨key, carried, cached⟩ := Option.bind_eq_some_iff.mp hit
  refine ⟨key, ?_⟩
  unfold getCachedResponse at cached
  cases present : system.db.idempotencyKeys key with
  | none =>
      rw [present] at cached
      cases cached
  | some first =>
      rw [present] at cached
      dsimp only at cached
      split at cached
      · cases cached
      · exact cached

theorem answersOwnClaim_iff {start : System} (fresh : ∀ key, start.db.idempotencyKeys key = none)
    (before : List Visit) :
    AnswersOwnClaim service start before attempt fault request ↔
      OwnKey (runVisits service before start) (.trigger attempt fault request) := by
  constructor
  · intro answers record hit
    have answered := congrArg Triggered.phase (@triggerVerification_hit service attempt fault
      request _ record hit)
    exact (answers record.responseBody answered).1
  · intro own response answered
    cases hit : request.cached (runVisits service before start).db with
    | none =>
        obtain ⟨verifies, same⟩ := triggerVerification_verifies hit answered
        exact ⟨same, Or.inl verifies⟩
    | some record =>
        rw [triggerVerification_hit hit] at answered
        cases answered
        have same := own record hit
        obtain ⟨key, stored⟩ := stored_of_cached hit
        have verified := stored_verified fresh before stored
        rw [same] at verified
        exact ⟨same, Or.inr verified⟩

end Spec

/-- In a sequence of requests from a database without stored answers, every
request is answered for its own claim exactly if none of them carries a key under
which, at that point, the answer for another claim is stored. -/
theorem answers_own_claims_iff (service : Service) (start : System)
    (fresh : ∀ key, start.db.idempotencyKeys key = none) (visits : List Visit) :
    (∀ before attempt fault request after,
        visits = before ++ .trigger attempt fault request :: after →
          AnswersOwnClaim service start before attempt fault request) ↔
      Along OwnKey (afterVisit service) visits start := by
  rw [along_iff_split]
  constructor
  · intro answers before visit after split
    cases visit with
    | elsewhere other => exact trivial
    | trigger attempt fault request =>
        exact (answersOwnClaim_iff fresh before).mp (answers before attempt fault request after
          split)
  · intro own before attempt fault request after split
    exact (answersOwnClaim_iff fresh before).mpr (own before _ after split)

section Sample

def twoClaims : Database where
  claims id := if id = 1 ∨ id = 2 then some
      { id
        declaredAmount := 500
        status := .submitted
        onchainClaimId := some id
        txHash := none
        oracleRequestId := none }
    else none
  keyed := by
    intro id claim found
    split at found
    · cases found
      rfl
    · cases found
  idempotencyKeys _ := none

def twoClaimsSystem : System where
  db := twoClaims
  oracle := { issuedRequestIds := [], world := sampleWorld }

def keyedVisit (claimId : Int) (key : String) : Visit :=
  .trigger sampleAttempt .none { claimId, idempotencyKey := some key }

theorem ownKey_of_map {system : System} {attempt : OracleService.Attempt} {fault : Fault}
    {request : Request}
    (same : ((request.cached system.db).map fun record => record.responseBody.claimId).all
      (fun claimId => claimId = request.claimId) = true) :
    OwnKey system (.trigger attempt fault request) := by
  intro record hit
  rw [hit] at same
  exact of_decide_eq_true same

/-- A retry under the same key is answered from the store, and a request for the
other claim under a key of its own is not. -/
theorem answers_own_claims_retry :
    Along OwnKey (afterVisit sampleService)
        [keyedVisit 1 "k1", keyedVisit 1 "k1", keyedVisit 2 "k2"] twoClaimsSystem ∧
      ∀ before attempt fault request after,
        [keyedVisit 1 "k1", keyedVisit 1 "k1", keyedVisit 2 "k2"] =
            before ++ .trigger attempt fault request :: after →
          AnswersOwnClaim sampleService twoClaimsSystem before attempt fault request := by
  have own : Along OwnKey (afterVisit sampleService)
      [keyedVisit 1 "k1", keyedVisit 1 "k1", keyedVisit 2 "k2"] twoClaimsSystem :=
    ⟨ownKey_of_map (by decide +kernel), ownKey_of_map (by decide +kernel),
      ownKey_of_map (by decide +kernel), trivial⟩
  exact ⟨own, (answers_own_claims_iff sampleService twoClaimsSystem (fun _ => rfl) _).mpr own⟩

/-- The second request is for claim `2` and gets the answer for claim `1`; claim
`2` is not verified. -/
theorem reused_key_answers_other_claim :
    (triggerVerification sampleService sampleAttempt .none
        { claimId := 2, idempotencyKey := some "k1" }
        (runVisits sampleService [keyedVisit 1 "k1"] twoClaimsSystem)).phase =
      .answered sampleAnswer ∧
    sampleAnswer.claimId = 1 ∧
    ¬AnswersOwnClaim sampleService twoClaimsSystem [keyedVisit 1 "k1"] sampleAttempt .none
      { claimId := 2, idempotencyKey := some "k1" } := by
  have answered : (triggerVerification sampleService sampleAttempt .none
      { claimId := 2, idempotencyKey := some "k1" }
      (runVisits sampleService [keyedVisit 1 "k1"] twoClaimsSystem)).phase =
        .answered sampleAnswer := by decide +kernel
  refine ⟨answered, rfl, ?_⟩
  intro answers
  have same := (answers sampleAnswer answered).1
  revert same
  decide

end Sample

end Dics.Backend
