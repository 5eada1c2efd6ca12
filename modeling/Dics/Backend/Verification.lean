/-
The backend's `trigger_verification`.

A handler looks its key up, reads the claim's row, calls the oracle service,
commits the decision and stores the answer under the key.  Each of the five is
a function of its own here, so that a request can be run through at once, as
below, or one step at a time among others.
-/

import Dics.Backend.OracleService
import Dics.Lib.Scripts

open Scripts

namespace Dics.Backend

/-! ### Tables -/

inductive ClaimStatus where
  | draft
  | submitted
  | underReview
  | approved
  | rejected
  | paid
  deriving DecidableEq

/-- The columns of `claims` that the verification reads or writes. -/
structure Claim where
  id : Int
  declaredAmount : Rat
  status : ClaimStatus
  onchainClaimId : Option Int
  txHash : Option Bytes32
  oracleRequestId : Option Bytes32
  deriving DecidableEq

structure TriggerVerificationResponse where
  claimId : Int
  approved : Bool
  reason : OracleService.Reason
  oracleTxHash : Bytes32
  status : ClaimStatus
  deriving DecidableEq

structure CachedResponse where
  endpoint : String
  responseStatus : Nat
  responseBody : TriggerVerificationResponse
  deriving DecidableEq

structure Database where
  claims : Int → Option Claim
  keyed : ∀ id claim, claims id = some claim → claim.id = id
  idempotencyKeys : String → Option CachedResponse

/-! ### Idempotency keys -/

def getCachedResponse (db : Database) (key endpoint : String) : Option CachedResponse :=
  match db.idempotencyKeys key with
  | none => none
  | some record => if record.endpoint ≠ endpoint then none else some record

/-- The first write wins. -/
def storeResponse (db : Database) (key endpoint : String) (statusCode : Nat)
    (body : TriggerVerificationResponse) : Database :=
  match db.idempotencyKeys key with
  | some _ => db
  | none =>
      { db with
        idempotencyKeys := Function.update db.idempotencyKeys key
          (some { endpoint, responseStatus := statusCode, responseBody := body }) }

def endpointName : String := "trigger-verification"

/-! ### The oracle client -/

inductive OracleServiceError where
  | couldNotReach
  | rejectedApiKey
  | returned (status : Nat)
  deriving DecidableEq

structure OracleVerificationResult where
  approved : Bool
  reason : OracleService.Reason
  requestId : Bytes32
  txHash : Bytes32
  deriving DecidableEq

/-- What `request_verification` makes of the reply, if one arrived. -/
def requestVerification :
    Option OracleService.Reply → Except OracleServiceError OracleVerificationResult
  | none => .error .couldNotReach
  | some (.ok body) =>
      .ok
        { approved := body.approved
          reason := body.reason
          requestId := body.requestId
          txHash := body.txHash }
  | some .missingApiKey => .error .rejectedApiKey
  | some .invalidApiKey => .error .rejectedApiKey
  | some reply => .error (.returned reply.status)

/-! ### The five steps of the handler -/

structure Request where
  claimId : Int
  idempotencyKey : Option String
  deriving DecidableEq

inductive HttpError where
  | claimNotFound
  | badGateway (error : OracleServiceError)
  | internal
  deriving DecidableEq

inductive Phase where
  | received
  | missed
  | loaded (claim : Claim)
  | verified (claim : Claim) (result : OracleVerificationResult)
  | committed (response : TriggerVerificationResponse)
  | answered (response : TriggerVerificationResponse)
  | failed (error : HttpError)
  deriving DecidableEq

/-- An empty key is as good as none. -/
def Request.key (request : Request) : Option String :=
  request.idempotencyKey.filter fun key => key ≠ ""

def Request.cached (request : Request) (db : Database) : Option CachedResponse :=
  request.key.bind fun key => getCachedResponse db key endpointName

def lookUp (request : Request) (db : Database) : Phase :=
  match request.cached db with
  | some record => .answered record.responseBody
  | none => .missed

def readClaim (request : Request) (db : Database) : Phase :=
  match db.claims request.claimId with
  | none => .failed .claimNotFound
  | some claim => .loaded claim

/-- The body sent for a row carries the row's own id. -/
def verifyRequest (claim : Claim) : OracleService.VerifyRequest :=
  { claimId := claim.id, declaredAmount := claim.declaredAmount }

def receiveReply (claim : Claim) (reply : Option OracleService.Reply) : Phase :=
  match requestVerification reply with
  | .error error => .failed (.badGateway error)
  | .ok result => .verified claim result

def decidedStatus (result : OracleVerificationResult) : ClaimStatus :=
  if result.approved = true then .approved else .rejected

def Claim.decided (claim : Claim) (result : OracleVerificationResult) : Claim :=
  { claim with
    status := decidedStatus result
    oracleRequestId := some result.requestId
    txHash := some result.txHash }

/-- A column is written only if its value differs from the loaded one. -/
def writeChanged {Value : Type} [DecidableEq Value] (loaded changed stored : Value) : Value :=
  if changed = loaded then stored else changed

/-- Rows stay keyed under a change of other columns. -/
theorem Database.keyed_changed (db : Database) (changedId : Int) {change : Claim → Claim}
    (sameId : ∀ claim, (change claim).id = claim.id) (id : Int) (claim : Claim)
    (found : Function.update db.claims changedId ((db.claims changedId).map change) id =
      some claim) : claim.id = id := by
  by_cases same : id = changedId
  · subst same
    rw [Function.update_self] at found
    obtain ⟨stored, present, rfl⟩ := Option.map_eq_some_iff.mp found
    rw [sameId]
    exact db.keyed id stored present
  · rw [Function.update_of_ne same] at found
    exact db.keyed id claim found

def Database.commitClaim (db : Database) (loaded changed : Claim) : Database where
  claims := Function.update db.claims loaded.id
    ((db.claims loaded.id).map fun stored =>
      { stored with
        status := writeChanged loaded.status changed.status stored.status
        oracleRequestId :=
          writeChanged loaded.oracleRequestId changed.oracleRequestId stored.oracleRequestId
        txHash := writeChanged loaded.txHash changed.txHash stored.txHash })
  keyed := db.keyed_changed loaded.id (fun _ => rfl)
  idempotencyKeys := db.idempotencyKeys

def responseFor (claim : Claim) (result : OracleVerificationResult) :
    TriggerVerificationResponse :=
  { claimId := claim.id
    approved := result.approved
    reason := result.reason
    oracleTxHash := result.txHash
    status := decidedStatus result }

def storeAnswer (request : Request) (db : Database) (response : TriggerVerificationResponse) :
    Database :=
  match request.key with
  | none => db
  | some key => storeResponse db key endpointName 200 response

/-! ### A whole request -/

structure System where
  db : Database
  oracle : OracleService.State

structure Service where
  site : OracleAdapter.Site
  config : OracleService.Config
  wallets : OracleService.Wallets
  apiKey : String

/-- The call over the network.  A call that is lost does nothing; one that is
late has its effect, but the reply does not arrive in time. -/
def Service.call (service : Service) (attempt : OracleService.Attempt) (fault : Fault)
    (claim : Claim) (oracle : OracleService.State) : OracleService.Handled :=
  let handled := OracleService.verify service.site service.config service.wallets attempt
    service.apiKey (verifyRequest claim) oracle
  match fault with
  | .none => handled
  | .lost => { state := oracle, reply := none, relayed := none }
  | .late => { handled with reply := none }

/-- What a request did: the system it left, its answer, and the response it got
committed on chain, if any. -/
structure Triggered where
  system : System
  phase : Phase
  relayed : Option OracleAdapter.OracleResponse

def settle (request : Request) (system : System)
    (relayed : Option OracleAdapter.OracleResponse) : Phase → Triggered
  | .verified claim result =>
      let committed := system.db.commitClaim claim (claim.decided result)
      let response := responseFor claim result
      { system := { system with db := storeAnswer request committed response }
        phase := .answered response
        relayed }
  | phase => { system, phase, relayed }

def triggerVerification (service : Service) (attempt : OracleService.Attempt) (fault : Fault)
    (request : Request) (system : System) : Triggered :=
  match lookUp request system.db with
  | .missed =>
      match readClaim request system.db with
      | .loaded claim =>
          let handled := service.call attempt fault claim system.oracle
          settle request { system with oracle := handled.state } handled.relayed
            (receiveReply claim handled.reply)
      | phase => { system, phase, relayed := none }
  | phase => { system, phase, relayed := none }

/-! ### Which claim is decided -/

def Database.counterpart (db : Database) (claimId : Int) : Option Int :=
  (db.claims claimId).bind Claim.onchainClaimId

/-- Whatever a request relays or changes on chain is about the counterpart of
its row. -/
structure DecidesCounterpart (claimId : Int) (before : System) (after : Triggered) : Prop where
  relays : ∀ response, after.relayed = some response →
    before.db.counterpart claimId = some (response.claimId : Int)
  changes : ∀ id, after.system.oracle.world.registry.claims id ≠
      before.oracle.world.registry.claims id →
    before.db.counterpart claimId = some (id : Int)

section Spec

variable {service : Service} {attempt : OracleService.Attempt} {fault : Fault}
  {request : Request} {system : System}

theorem settle_oracle (request : Request) (system : System)
    (relayed : Option OracleAdapter.OracleResponse) (phase : Phase) :
    (settle request system relayed phase).system.oracle = system.oracle ∧
      (settle request system relayed phase).relayed = relayed := by
  cases phase <;> exact ⟨rfl, rfl⟩

theorem settle_answered {claim : Claim} {reply : Option OracleService.Reply}
    {relayed : Option OracleAdapter.OracleResponse} {response : TriggerVerificationResponse}
    (success : (settle request system relayed (receiveReply claim reply)).phase =
      .answered response) : ∃ body, reply = some (.ok body) := by
  cases reply with
  | none => cases success
  | some reply =>
      cases reply with
      | ok body => exact ⟨body, rfl⟩
      | _ => cases success

theorem call_ok {claim : Claim} {oracle : OracleService.State} {body : OracleService.VerifyBody}
    (reply : (service.call attempt fault claim oracle).reply = some (.ok body)) :
    ∃ response, (service.call attempt fault claim oracle).relayed = some response ∧
      (response.claimId : Int) = claim.id ∧
      ∀ id, id ≠ response.claimId →
        (service.call attempt fault claim oracle).state.world.registry.claims id =
          oracle.world.registry.claims id := by
  cases fault with
  | lost => cases reply
  | late => cases reply
  | none =>
      rcases @OracleService.verify_effect service.site service.config service.wallets attempt
        (verifyRequest claim) oracle service.apiKey with
        ⟨_, _, refused⟩ | ⟨response, relayed, claimId, others⟩
      · exact absurd reply (refused body)
      · exact ⟨response, relayed, claimId, others⟩

theorem triggerVerification_hit {record : CachedResponse}
    (hit : request.cached system.db = some record) :
    triggerVerification service attempt fault request system =
      { system, phase := .answered record.responseBody, relayed := none } := by
  have looked : lookUp request system.db = .answered record.responseBody := by
    rw [lookUp, hit]
  rw [triggerVerification, looked]

theorem triggerVerification_absent (missed : request.cached system.db = none)
    (absent : system.db.claims request.claimId = none) :
    triggerVerification service attempt fault request system =
      { system, phase := .failed .claimNotFound, relayed := none } := by
  have looked : lookUp request system.db = .missed := by rw [lookUp, missed]
  have read : readClaim request system.db = .failed .claimNotFound := by
    rw [readClaim, absent]
  rw [triggerVerification, looked]
  dsimp only
  rw [read]

theorem triggerVerification_loaded {claim : Claim} (missed : request.cached system.db = none)
    (found : system.db.claims request.claimId = some claim) :
    triggerVerification service attempt fault request system =
      settle request
        { system with oracle := (service.call attempt fault claim system.oracle).state }
        (service.call attempt fault claim system.oracle).relayed
        (receiveReply claim (service.call attempt fault claim system.oracle).reply) := by
  have looked : lookUp request system.db = .missed := by rw [lookUp, missed]
  have read : readClaim request system.db = .loaded claim := by rw [readClaim, found]
  rw [triggerVerification, looked]
  dsimp only
  rw [read]

/-- A successful request was answered from the cache, or had its row's own id
decided. -/
theorem triggerVerification_answered {response : TriggerVerificationResponse}
    (success : (triggerVerification service attempt fault request system).phase =
      .answered response) :
    (request.cached system.db ≠ none ∧
      triggerVerification service attempt fault request system =
        { system, phase := .answered response, relayed := none }) ∨
    (request.cached system.db = none ∧ ∃ relayed,
      (triggerVerification service attempt fault request system).relayed = some relayed ∧
      (relayed.claimId : Int) = request.claimId ∧
      ∀ id, id ≠ relayed.claimId →
        (triggerVerification service attempt fault request
          system).system.oracle.world.registry.claims id =
          system.oracle.world.registry.claims id) := by
  cases hit : request.cached system.db with
  | some record =>
      have whole := @triggerVerification_hit service attempt fault request system record hit
      rw [whole] at success
      cases success
      exact Or.inl ⟨nofun, whole⟩
  | none =>
      cases found : system.db.claims request.claimId with
      | none =>
          rw [triggerVerification_absent hit found] at success
          cases success
      | some claim =>
          rw [triggerVerification_loaded hit found] at success ⊢
          obtain ⟨body, reply⟩ := settle_answered success
          obtain ⟨relayed, sent, claimId, others⟩ := call_ok reply
          obtain ⟨oracle, kept⟩ := settle_oracle request
            { system with oracle := (service.call attempt fault claim system.oracle).state }
            (service.call attempt fault claim system.oracle).relayed
            (receiveReply claim (service.call attempt fault claim system.oracle).reply)
          refine Or.inr ⟨rfl, relayed, kept.trans sent, ?_, ?_⟩
          · rw [claimId, system.db.keyed _ _ found]
          · intro id other
            rw [oracle]
            exact others id other

end Spec

/-- A successful request decides the counterpart of its row exactly if it was
answered from the cache or the row happens to have the same id on chain. -/
theorem decides_counterpart_iff (service : Service) (attempt : OracleService.Attempt)
    (fault : Fault) (request : Request) (system : System)
    (response : TriggerVerificationResponse)
    (success : (triggerVerification service attempt fault request system).phase =
      .answered response) :
    DecidesCounterpart request.claimId system
        (triggerVerification service attempt fault request system) ↔
      request.cached system.db ≠ none ∨
        system.db.counterpart request.claimId = some request.claimId := by
  rcases triggerVerification_answered success with
    ⟨hit, whole⟩ | ⟨missed, relayed, sent, claimId, others⟩
  · constructor
    · intro _
      exact Or.inl hit
    · intro _
      rw [whole]
      exact ⟨nofun, fun _ changed => absurd rfl changed⟩
  · constructor
    · intro decides
      have correlated := decides.relays relayed sent
      rw [claimId] at correlated
      exact Or.inr correlated
    · rintro (hit | same)
      · exact absurd missed hit
      · constructor
        · intro other otherSent
          rw [sent] at otherSent
          cases otherSent
          rw [same, claimId]
        · intro id changed
          have here : id = relayed.claimId := by
            by_contra other
            exact changed (others id other)
          rw [here, same, claimId]

section Sample

open OracleAdapter (sampleDeployment adminCall holderCall sampleSigner sampleSignature)

def sampleWorld : OracleAdapter.World :=
  sampleDeployment.run
    [adminCall (.registry (.changeRole (.grantRole .oracle 0xB1))),
     adminCall (.adapter (.changeRole (.grantRole .oracleSigner sampleSigner))),
     holderCall (.registry (.submitClaim 7 0 400)),
     holderCall (.registry (.submitClaim 7 1 500))]

def sampleService : Service where
  site := sampleDeployment.site
  config :=
    { chainId := 1
      oracleAdapterAddress := 0xB1
      eip712Name := "DICS-OracleAdapter"
      eip712Version := "1"
      apiKey := "0123456789abcdef" }
  wallets := { sign := fun _ => sampleSignature, relayer := 0xF1 }
  apiKey := "0123456789abcdef"

def sampleAttempt : OracleService.Attempt where
  draws := [0x11]
  now := 5
  blockTimestamp := 10
  sinkAccepts := false
  txHash := 0x99
  blockNumber := 3
  confirmed := true

def sampleDatabase (onchainClaimId : Option Int) : Database where
  claims id := if id = 1 then some
      { id := 1
        declaredAmount := 500
        status := .submitted
        onchainClaimId
        txHash := none
        oracleRequestId := none }
    else none
  keyed := by
    intro id claim found
    split at found
    · rename_i same
      cases found
      exact same.symm
    · cases found
  idempotencyKeys _ := none

def sampleSystem (onchainClaimId : Option Int) : System where
  db := sampleDatabase onchainClaimId
  oracle := { issuedRequestIds := [], world := sampleWorld }

def sampleRequest : Request := { claimId := 1, idempotencyKey := none }

def sampleAnswer : TriggerVerificationResponse where
  claimId := 1
  approved := true
  reason := .withinThreshold
  oracleTxHash := 0x99
  status := .approved

theorem decides_counterpart_same_id :
    DecidesCounterpart 1 (sampleSystem (some 1))
      (triggerVerification sampleService sampleAttempt .none sampleRequest
        (sampleSystem (some 1))) :=
  (decides_counterpart_iff sampleService sampleAttempt .none sampleRequest
    (sampleSystem (some 1)) sampleAnswer (by decide +kernel)).mpr (Or.inr (by decide +kernel))

/-- The row of on-chain claim `2` has claim `1` approved, and so has a row that
was never submitted at all. -/
theorem other_claim_decided :
    ((triggerVerification sampleService sampleAttempt .none sampleRequest
        (sampleSystem (some 2))).phase = .answered sampleAnswer ∧
      ¬DecidesCounterpart 1 (sampleSystem (some 2))
        (triggerVerification sampleService sampleAttempt .none sampleRequest
          (sampleSystem (some 2)))) ∧
    ((triggerVerification sampleService sampleAttempt .none sampleRequest
        (sampleSystem none)).phase = .answered sampleAnswer ∧
      ¬DecidesCounterpart 1 (sampleSystem none)
        (triggerVerification sampleService sampleAttempt .none sampleRequest
          (sampleSystem none))) := by
  refine ⟨⟨by decide +kernel, ?_⟩, ⟨by decide +kernel, ?_⟩⟩
  · intro decides
    have counterpart := decides.changes 1 (by decide +kernel)
    revert counterpart
    decide
  · intro decides
    have counterpart := decides.changes 1 (by decide +kernel)
    revert counterpart
    decide

end Sample

end Dics.Backend
