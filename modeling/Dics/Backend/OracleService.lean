/-
The oracle service's `POST /verify`.

The service checks the caller's key and the body, decides, signs the decision
for the adapter and relays it in a transaction of its own.  It takes the claim
id from the body and never asks the registry about it.  Amounts are the finite
numbers a JSON body can carry; `evidenceSummary`, which nothing reads, is left
out.
-/

import Dics.Chain.OracleRuns

open Transactions

namespace Dics.OracleService

structure Config where
  chainId : Nat
  oracleAdapterAddress : Address
  eip712Name : String
  eip712Version : String
  apiKey : String

/-- The two wallets: how the signing key signs a digest, and who relays. -/
structure Wallets where
  sign : TypedData.Digest → TypedData.Bytes
  relayer : Address

/-! ### Request and decision -/

structure VerifyRequest where
  claimId : Int
  declaredAmount : Rat
  deriving DecidableEq

/-- `verifyRequestSchema`: a positive integer and a positive number. -/
def VerifyRequest.valid (request : VerifyRequest) : Bool :=
  0 < request.claimId ∧ 0 < request.declaredAmount

inductive KeyCheck where
  | accepted
  | missing
  | invalid
  deriving DecidableEq

def requireApiKey (config : Config) (provided : String) : KeyCheck :=
  if provided = "" then .missing
  else if provided = config.apiKey then .accepted
  else .invalid

inductive Reason where
  | missingOrNonPositive
  | exceedsThreshold (declaredAmount threshold : Rat)
  | withinThreshold
  deriving DecidableEq

structure Decision where
  approved : Bool
  reason : Reason
  deriving DecidableEq

def mockApprovalThreshold : Rat := 100000

def evaluateClaim (request : VerifyRequest) : Decision :=
  if request.declaredAmount ≤ 0 then
    { approved := false, reason := .missingOrNonPositive }
  else if mockApprovalThreshold < request.declaredAmount then
    { approved := false,
      reason := .exceedsThreshold request.declaredAmount mockApprovalThreshold }
  else { approved := true, reason := .withinThreshold }

/-! ### Signing and relaying -/

def oracleResponseMembers : List (String × String) :=
  [("claimId", "uint256"), ("requestId", "bytes32"), ("approved", "bool"),
    ("timestamp", "uint256")]

def buildDomain (config : Config) : TypedData.Domain :=
  { name := config.eip712Name
    version := config.eip712Version
    chainId := BitVec.ofNat 256 config.chainId
    verifyingContract := config.oracleAdapterAddress }

def signedDigest (crypto : OracleAdapter.Crypto) (config : Config)
    (payload : OracleAdapter.OracleResponse) : TypedData.Digest :=
  TypedData.typedDataHash crypto.keccak256 (buildDomain config)
    (TypedData.structHash crypto.keccak256
      (TypedData.encodeType "OracleResponse" oracleResponseMembers) payload.fields)

def signOracleResponse (crypto : OracleAdapter.Crypto) (config : Config) (wallets : Wallets)
    (payload : OracleAdapter.OracleResponse) : TypedData.Bytes :=
  wallets.sign (signedDigest crypto config payload)

/-- What one request meets: the random draws, the clock, the block its
transaction lands in, and whether `wait(1)` delivers the receipt. -/
structure Attempt where
  draws : List Bytes32
  now : Nat
  blockTimestamp : Nat
  sinkAccepts : Bool
  txHash : Bytes32
  blockNumber : Nat
  confirmed : Bool

/-- The transaction goes to the configured address.  A contract there other than
the adapter does nothing to this registry. -/
def submitVerificationOnChain (site : OracleAdapter.Site) (config : Config) (wallets : Wallets)
    (attempt : Attempt) (response : OracleAdapter.OracleResponse) (signature : TypedData.Bytes)
    (world : OracleAdapter.World) : Option OracleAdapter.World :=
  if config.oracleAdapterAddress = site.adapter then
    match OracleAdapter.submitVerification site attempt.sinkAccepts response signature
        { sender := wallets.relayer, timestamp := attempt.blockTimestamp } world with
    | .ok (next, _) => some next
    | .error _ => none
  else if attempt.sinkAccepts = true then some world else none

/-! ### The endpoint -/

structure State where
  issuedRequestIds : List Bytes32
  world : OracleAdapter.World

/-- The loop draws until it meets an id it has not issued. -/
def generateRequestId (attempt : Attempt) (state : State) : Option Bytes32 :=
  attempt.draws.find? fun id => id ∉ state.issuedRequestIds

structure VerifyBody where
  claimId : Int
  requestId : Bytes32
  approved : Bool
  reason : Reason
  txHash : Bytes32
  blockNumber : Nat
  deriving DecidableEq

inductive Reply where
  | ok (body : VerifyBody)
  | missingApiKey
  | invalidApiKey
  | invalidRequest
  | verificationOrRelayFailed
  deriving DecidableEq

def Reply.status : Reply → Nat
  | .ok _ => 200
  | .missingApiKey => 401
  | .invalidApiKey => 401
  | .invalidRequest => 400
  | .verificationOrRelayFailed => 502

/-- What one request did: the state it left, its reply, and the response it got
committed on chain, if any. -/
structure Handled where
  state : State
  reply : Option Reply
  relayed : Option OracleAdapter.OracleResponse

def Handled.refused (state : State) (reply : Reply) : Handled :=
  { state, reply := some reply, relayed := none }

def payloadFor (request : VerifyRequest) (requestId : Bytes32) (attempt : Attempt) :
    OracleAdapter.OracleResponse :=
  { claimId := request.claimId.toNat
    requestId
    approved := (evaluateClaim request).approved
    timestamp := attempt.now }

def relay (site : OracleAdapter.Site) (config : Config) (wallets : Wallets) (attempt : Attempt)
    (request : VerifyRequest) (requestId : Bytes32) (state : State) : Handled :=
  let payload := payloadFor request requestId attempt
  match submitVerificationOnChain site config wallets attempt payload
      (signOracleResponse site.crypto config wallets payload) state.world with
  | none => Handled.refused state .verificationOrRelayFailed
  | some world =>
      { state := { state with world }
        reply := some
          (if attempt.confirmed = true then
            .ok
              { claimId := request.claimId
                requestId
                approved := (evaluateClaim request).approved
                reason := (evaluateClaim request).reason
                txHash := attempt.txHash
                blockNumber := attempt.blockNumber }
          else .verificationOrRelayFailed)
        relayed := some payload }

def verify (site : OracleAdapter.Site) (config : Config) (wallets : Wallets) (attempt : Attempt)
    (provided : String) (request : VerifyRequest) (state : State) : Handled :=
  match requireApiKey config provided with
  | .missing => Handled.refused state .missingApiKey
  | .invalid => Handled.refused state .invalidApiKey
  | .accepted =>
      if request.valid = true then
        match generateRequestId attempt state with
        | none => { state, reply := none, relayed := none }
        | some requestId =>
            relay site config wallets attempt request requestId
              { state with issuedRequestIds := requestId :: state.issuedRequestIds }
      else Handled.refused state .invalidRequest

/-! ### What a request can have done -/

section Spec

variable {site : OracleAdapter.Site} {config : Config} {wallets : Wallets} {attempt : Attempt}
  {provided : String} {request : VerifyRequest} {state : State}

theorem submitVerificationOnChain_claims {response : OracleAdapter.OracleResponse}
    {signature : TypedData.Bytes} {world next : OracleAdapter.World}
    (done : submitVerificationOnChain site config wallets attempt response signature world =
      some next) {id : Nat} (other : id ≠ response.claimId) :
    next.registry.claims id = world.registry.claims id := by
  unfold submitVerificationOnChain at done
  split at done
  · split at done
    · rename_i after receipt submitted
      cases done
      exact OracleAdapter.submitVerification_other submitted other
    · cases done
  · split at done
    · cases done
      rfl
    · cases done

inductive Handled.Effect (request : VerifyRequest) (before : State) (handled : Handled) : Prop
  | idle (relayed : handled.relayed = none) (world : handled.state.world = before.world)
      (reply : ∀ body, handled.reply ≠ some (.ok body))
  | relayed (response : OracleAdapter.OracleResponse) (relayed : handled.relayed = some response)
      (claimId : (response.claimId : Int) = request.claimId)
      (others : ∀ id, id ≠ response.claimId →
        handled.state.world.registry.claims id = before.world.registry.claims id)

theorem relay_effect (valid : request.valid = true) (requestId : Bytes32) :
    (relay site config wallets attempt request requestId state).Effect request state := by
  unfold relay
  dsimp only
  split
  · exact .idle rfl rfl nofun
  · rename_i world submitted
    have positive := (of_decide_eq_true valid).1
    refine .relayed _ rfl ?_ ?_
    · exact Int.toNat_of_nonneg (Int.le_of_lt positive)
    · intro id other
      exact submitVerificationOnChain_claims submitted other

/-- A request either leaves the chain alone, and then its reply is no success,
or it had the claim of its body decided. -/
theorem verify_effect (provided : String) :
    (verify site config wallets attempt provided request state).Effect request state := by
  unfold verify
  split
  · exact .idle rfl rfl nofun
  · exact .idle rfl rfl nofun
  · split
    · rename_i valid
      split
      · exact .idle rfl rfl nofun
      · rename_i requestId _
        rcases @relay_effect site config wallets attempt request
          { state with issuedRequestIds := requestId :: state.issuedRequestIds } valid
          requestId with ⟨nothing, world, reply⟩ | ⟨response, relayed, claimId, others⟩
        · exact .idle nothing world reply
        · exact .relayed response relayed claimId others
    · exact .idle rfl rfl nofun

/-- A success reports the decision that was relayed for the claim of the body. -/
theorem verify_ok {body : VerifyBody}
    (reply : (verify site config wallets attempt provided request state).reply =
      some (.ok body)) :
    ∃ response, (verify site config wallets attempt provided request state).relayed =
        some response ∧
      (response.claimId : Int) = request.claimId ∧ response.approved = body.approved := by
  unfold verify at reply ⊢
  split at reply
  · cases reply
  · cases reply
  · split at reply
    · rename_i valid
      split at reply
      · cases reply
      · rename_i requestId drawn
        unfold relay at reply ⊢
        dsimp only at reply ⊢
        split at reply
        · cases reply
        · rename_i world submitted
          have positive := (of_decide_eq_true valid).1
          simp only [if_pos valid]
          refine ⟨_, rfl, Int.toNat_of_nonneg (Int.le_of_lt positive), ?_⟩
          split at reply
          · cases reply
            rfl
          · cases reply
    · cases reply

end Spec

end Dics.OracleService
