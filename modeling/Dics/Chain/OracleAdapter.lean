/-
The OracleAdapter contract.

Anyone may relay a signed response.  The adapter checks the signature, its age
and its request id, marks the id used and passes the decision on to the claim
registry it points at; if that call reverts, the whole submission does.
-/

import Dics.Chain.RegistryRuns
import Dics.Lib.TypedData

open Transactions Tokens Words

namespace Dics.OracleAdapter

/-- `keccak256` and `ECDSA.recover`, which reverts on a malformed signature. -/
structure Crypto where
  keccak256 : TypedData.Bytes → Bytes32
  recover : Bytes32 → TypedData.Bytes → Option Address

inductive Role where
  | defaultAdmin
  | admin
  | upgrader
  | pauser
  | oracleSigner
  deriving DecidableEq

structure OracleResponse where
  claimId : Nat
  requestId : Bytes32
  approved : Bool
  timestamp : Nat
  deriving DecidableEq

structure State where
  roles : Roles.Table Role Address
  paused : Bool
  claimRegistry : Address
  responseValidityWindow : Nat
  usedRequestIds : Bytes32 → Bool

inductive Event where
  | verificationSubmitted (claimId : Nat) (requestId : Bytes32) (approved : Bool)
      (signer : Address)
  | claimRegistryUpdated (newClaimRegistry : Address)
  | responseValidityWindowUpdated (newWindowSeconds : Nat)
  | paused (account : Address)
  | unpaused (account : Address)
  | roleChanged (change : Roles.Change Role Address)
  deriving DecidableEq

inductive Error where
  | requestAlreadyUsed
  | responseExpired
  | responseFromFuture
  | unauthorizedSigner
  | invalidSignature
  | enforcedPause
  | expectedPause
  | accessControlUnauthorizedAccount
  | arithmeticPanic
  | sinkReverted
  | registry (error : ClaimRegistry.Error)
  deriving DecidableEq

def initialized (timelockAdmin claimRegistryAddress : Address)
    (responseValidityWindowSeconds : Nat) : State :=
  { roles := ((Roles.Table.empty.assign .defaultAdmin timelockAdmin true).assign
      .admin timelockAdmin true).assign .upgrader timelockAdmin true
    paused := false
    claimRegistry := claimRegistryAddress
    responseValidityWindow := responseValidityWindowSeconds
    usedRequestIds := fun _ => false }

def whenNotPaused (state : State) : Except Error Unit :=
  require (state.paused = false) .enforcedPause

def onlyRole (role : Role) (msg : Msg) (state : State) : Except Error Unit :=
  require (state.roles role msg.sender = true) .accessControlUnauthorizedAccount

/-! ### The signed message -/

def oracleResponseType : String :=
  "OracleResponse(uint256 claimId,bytes32 requestId,bool approved,uint256 timestamp)"

def domain (chainId : Nat) (self : Address) : TypedData.Domain :=
  { name := "DICS-OracleAdapter"
    version := "1"
    chainId := BitVec.ofNat 256 chainId
    verifyingContract := self }

def OracleResponse.fields (response : OracleResponse) : List (BitVec 256) :=
  [BitVec.ofNat 256 response.claimId, response.requestId,
    TypedData.boolWord response.approved, BitVec.ofNat 256 response.timestamp]

def digest (crypto : Crypto) (chainId : Nat) (self : Address) (response : OracleResponse) :
    Bytes32 :=
  TypedData.typedDataHash crypto.keccak256 (domain chainId self)
    (TypedData.structHash crypto.keccak256 oracleResponseType response.fields)

/-! ### The adapter among its neighbours -/

structure Site where
  crypto : Crypto
  chainId : Nat
  adapter : Address
  registry : Address

structure World where
  adapter : State
  registry : ClaimRegistry.State
  tokens : Bank Address

def World.claims (world : World) : ClaimRegistry.World :=
  { registry := world.registry, tokens := world.tokens }

inductive AnyEvent where
  | adapter (event : Event)
  | registry (event : ClaimRegistry.Event)
  deriving DecidableEq

/-- The external call at the end of a submission.  `sinkAccepts` answers for a
contract other than this registry, should the adapter point at one. -/
def relay (site : Site) (sinkAccepts : Bool) (response : OracleResponse) (msg : Msg)
    (world : World) : Except Error (World × Receipt AnyEvent) :=
  if world.adapter.claimRegistry = site.registry then do
    let (registry, events) ← (ClaimRegistry.recordOracleVerification response.claimId
      response.requestId response.approved { msg with sender := site.adapter }
      world.registry).mapError .registry
    return ({ world with registry := registry },
      { events := events.map .registry, movements := [] })
  else do
    require (sinkAccepts = true) .sinkReverted
    return (world, { events := [], movements := [] })

def submitVerification (site : Site) (sinkAccepts : Bool) (response : OracleResponse)
    (signature : TypedData.Bytes) (msg : Msg) (world : World) :
    Except Error (World × Receipt AnyEvent) := do
  whenNotPaused world.adapter
  require (world.adapter.usedRequestIds response.requestId = false) .requestAlreadyUsed
  require (response.timestamp ≤ msg.timestamp) .responseFromFuture
  let deadline ← orRevert .arithmeticPanic
    (checkedAdd response.timestamp world.adapter.responseValidityWindow)
  require (msg.timestamp ≤ deadline) .responseExpired
  let signer ← orRevert .invalidSignature
    (site.crypto.recover (digest site.crypto site.chainId site.adapter response) signature)
  require (world.adapter.roles .oracleSigner signer = true) .unauthorizedSigner
  let marked : World :=
    { world with
      adapter := { world.adapter with
        usedRequestIds := Function.update world.adapter.usedRequestIds response.requestId true } }
  let (next, receipt) ← relay site sinkAccepts response msg marked
  return (next,
    { receipt with
      events := receipt.events ++ [.adapter (.verificationSubmitted response.claimId
        response.requestId response.approved signer)] })

/-! ### Administration -/

def setClaimRegistry (newClaimRegistry : Address) (msg : Msg) (state : State) :
    Except Error (State × List Event) := do
  onlyRole .admin msg state
  return ({ state with claimRegistry := newClaimRegistry },
    [.claimRegistryUpdated newClaimRegistry])

def setResponseValidityWindow (newWindowSeconds : Nat) (msg : Msg) (state : State) :
    Except Error (State × List Event) := do
  onlyRole .admin msg state
  return ({ state with responseValidityWindow := newWindowSeconds },
    [.responseValidityWindowUpdated newWindowSeconds])

def pause (msg : Msg) (state : State) : Except Error (State × List Event) := do
  onlyRole .pauser msg state
  whenNotPaused state
  return ({ state with paused := true }, [.paused msg.sender])

def unpause (msg : Msg) (state : State) : Except Error (State × List Event) := do
  onlyRole .admin msg state
  require (state.paused = true) .expectedPause
  return ({ state with paused := false }, [.unpaused msg.sender])

def changeRole (change : Roles.Change Role Address) (msg : Msg) (state : State) :
    Except Error (State × List Event) := do
  let roles ← change.apply .defaultAdmin .accessControlUnauthorizedAccount msg.sender state.roles
  return ({ state with roles := roles }, [.roleChanged change])

/-! ### Calls -/

inductive Fn where
  | submitVerification (response : OracleResponse) (signature : TypedData.Bytes)
  | setClaimRegistry (newClaimRegistry : Address)
  | setResponseValidityWindow (newWindowSeconds : Nat)
  | pause
  | unpause
  | changeRole (change : Roles.Change Role Address)
  deriving DecidableEq

def World.withAdapter (world : World) (result : Except Error (State × List Event)) :
    Except Error (World × Receipt AnyEvent) := do
  let (adapter, events) ← result
  return ({ world with adapter := adapter },
    { events := events.map .adapter, movements := [] })

def callFn (site : Site) (sinkAccepts : Bool) (msg : Msg) (world : World) :
    Fn → Except Error (World × Receipt AnyEvent)
  | .submitVerification response signature =>
      submitVerification site sinkAccepts response signature msg world
  | .setClaimRegistry newClaimRegistry =>
      world.withAdapter (setClaimRegistry newClaimRegistry msg world.adapter)
  | .setResponseValidityWindow newWindowSeconds =>
      world.withAdapter (setResponseValidityWindow newWindowSeconds msg world.adapter)
  | .pause => world.withAdapter (pause msg world.adapter)
  | .unpause => world.withAdapter (unpause msg world.adapter)
  | .changeRole change => world.withAdapter (changeRole change msg world.adapter)

end Dics.OracleAdapter
