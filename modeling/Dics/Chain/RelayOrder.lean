/-
Two responses for one claim, relayed in either order.

Both replay checks are about request ids; neither contract compares the age of a
response with that of an earlier one, nor looks at the status it replaces.  So
the response that is relayed last stands.
-/

import Dics.Chain.OracleRuns

open Transactions Words

namespace Dics.OracleAdapter

variable {site : Site}

/-- The transaction with a submission for its target. -/
def Call.relaying (call : Call site) (response : OracleResponse)
    (signature : TypedData.Bytes) : Call site :=
  { call with target := .adapter (.submitVerification response signature) }

/-- A response that was not used, is in its validity window and was signed by an
authorised signer. -/
structure Fresh (site : Site) (world : World) (response : OracleResponse)
    (signature : TypedData.Bytes) (timestamp : Nat) : Prop where
  unused : world.adapter.usedRequestIds response.requestId = false
  notFromFuture : response.timestamp ≤ timestamp
  fits : response.timestamp + world.adapter.responseValidityWindow < wordBound
  notExpired : timestamp ≤ response.timestamp + world.adapter.responseValidityWindow
  signed : ∃ signer, site.crypto.recover
      (digest site.crypto site.chainId site.adapter response) signature = some signer ∧
    world.adapter.roles .oracleSigner signer = true

/-- Both contracts are running, the adapter points at the registry and is its
oracle, and the registry has the claim and has not seen the request id. -/
structure Relayable (site : Site) (world : World) (response : OracleResponse) : Prop where
  running : world.adapter.paused = false
  pointed : world.adapter.claimRegistry = site.registry
  registryRunning : world.registry.paused = false
  oracle : world.registry.roles .oracle site.adapter = true
  unseen : world.registry.usedOracleRequestIds response.requestId = false
  present : (world.registry.claims response.claimId).claimant ≠ 0

def World.marked (world : World) (response : OracleResponse) : World :=
  { world with
    adapter := { world.adapter with
      usedRequestIds := Function.update world.adapter.usedRequestIds response.requestId true } }

def World.recorded (world : World) (response : OracleResponse) (timestamp : Nat) : World :=
  { world with
    registry := { world.registry with
      usedOracleRequestIds :=
        Function.update world.registry.usedOracleRequestIds response.requestId true
      claims := Function.update world.registry.claims response.claimId
        { world.registry.claims response.claimId with
          status := ClaimRegistry.oracleDecision response.approved
          processedAt := BitVec.ofNat 40 timestamp } } }

section Submission

variable {world : World} {call : Call site} {response : OracleResponse}
  {signature : TypedData.Bytes}

theorem settle_relayable (fresh : Fresh site world response signature call.msg.timestamp)
    (able : Relayable site world response) :
    settle (exec site) world (call.relaying response signature) =
      (world.marked response).recorded response call.msg.timestamp := by
  obtain ⟨signer, recovered, authorised⟩ := fresh.signed
  have written : ClaimRegistry.recordOracleVerification response.claimId response.requestId
      response.approved { call.msg with sender := site.adapter } world.registry =
        .ok (((world.marked response).recorded response call.msg.timestamp).registry,
          [.claimStatusChanged response.claimId
            (ClaimRegistry.oracleDecision response.approved)]) := by
    simp only [ClaimRegistry.recordOracleVerification, ClaimRegistry.whenNotPaused,
      ClaimRegistry.onlyRole, require_bind_eq_ok, pure_eq_ok]
    exact ⟨able.registryRunning, able.oracle, able.unseen, able.present, rfl⟩
  have passed : relay site call.sinkAccepts response call.msg (world.marked response) =
      .ok ((world.marked response).recorded response call.msg.timestamp,
        { events := [.registry (.claimStatusChanged response.claimId
            (ClaimRegistry.oracleDecision response.approved))], movements := [] }) := by
    have pointed : (world.marked response).adapter.claimRegistry = site.registry := able.pointed
    unfold relay
    rw [if_pos pointed]
    exact bind_eq_ok.mpr ⟨_, mapError_eq_ok.mpr written, rfl⟩
  have done : ∃ receipt, submitVerification site call.sinkAccepts response signature call.msg
      world = .ok ((world.marked response).recorded response call.msg.timestamp, receipt) := by
    simp only [submitVerification, whenNotPaused, require_bind_eq_ok, orRevert_bind_eq_ok,
      checkedAdd_eq_some]
    exact ⟨_, able.running, fresh.unused, fresh.notFromFuture, _, ⟨fresh.fits, rfl⟩,
      fresh.notExpired, signer, recovered, authorised, bind_eq_ok.mpr ⟨_, passed, rfl⟩⟩
  obtain ⟨receipt, submitted⟩ := done
  exact settle_of_ok (mapError_eq_ok.mpr submitted)

/-- A submission that cannot be relayed leaves the registry alone; at most its id
is marked, for another contract. -/
theorem settle_unrelayable (unable : ¬Relayable site world response) :
    settle (exec site) world (call.relaying response signature) = world ∨
      settle (exec site) world (call.relaying response signature) = world.marked response := by
  cases outcome : exec site world (call.relaying response signature) with
  | error error => exact Or.inl (settle_of_error outcome)
  | ok result =>
      obtain ⟨next, receipt⟩ := result
      rw [settle_of_ok outcome]
      have done := mapError_eq_ok.mp outcome
      change submitVerification site call.sinkAccepts response signature call.msg world = _ at done
      simp only [submitVerification, whenNotPaused, require_bind_eq_ok,
        orRevert_bind_eq_ok] at done
      obtain ⟨running, _, _, _, _, _, _, _, _, relaying⟩ := done
      obtain ⟨⟨relayed, _⟩, passed, same⟩ := bind_eq_ok.mp relaying
      cases same
      unfold relay at passed
      split at passed
      · rename_i pointed
        obtain ⟨⟨registry, events⟩, written, _⟩ := bind_eq_ok.mp passed
        have recorded := mapError_eq_ok.mp written
        simp only [ClaimRegistry.recordOracleVerification, ClaimRegistry.whenNotPaused,
          ClaimRegistry.onlyRole, require_bind_eq_ok, pure_eq_ok] at recorded
        obtain ⟨registryRunning, oracle, unseen, present, _⟩ := recorded
        exact absurd ⟨running, pointed, registryRunning, oracle, unseen, present⟩ unable
      · simp only [require_bind_eq_ok, pure_eq_ok] at passed
        obtain ⟨_, same⟩ := passed
        cases same
        exact Or.inr rfl

end Submission

/-! ### What the first submission leaves for the second -/

/-- Everything a later response is checked against is as before, unless it has
the same request id. -/
structure Undisturbed (response : OracleResponse) (world next : World) : Prop where
  running : next.adapter.paused = world.adapter.paused
  pointer : next.adapter.claimRegistry = world.adapter.claimRegistry
  window : next.adapter.responseValidityWindow = world.adapter.responseValidityWindow
  signers : next.adapter.roles = world.adapter.roles
  used : ∀ requestId, requestId ≠ response.requestId →
    next.adapter.usedRequestIds requestId = world.adapter.usedRequestIds requestId
  registryRunning : next.registry.paused = world.registry.paused
  registryRoles : next.registry.roles = world.registry.roles
  seen : ∀ requestId, requestId ≠ response.requestId →
    next.registry.usedOracleRequestIds requestId =
      world.registry.usedOracleRequestIds requestId
  claimants : ∀ claimId, (next.registry.claims claimId).claimant =
    (world.registry.claims claimId).claimant

section Order

variable {world : World} {early late : Call site} {first second response : OracleResponse}
  {firstSignature secondSignature signature : TypedData.Bytes}

theorem undisturbed_refl (response : OracleResponse) (world : World) :
    Undisturbed response world world where
  running := rfl
  pointer := rfl
  window := rfl
  signers := rfl
  used _ _ := rfl
  registryRunning := rfl
  registryRoles := rfl
  seen _ _ := rfl
  claimants _ := rfl

theorem undisturbed_marked (response : OracleResponse) (world : World) :
    Undisturbed response world (world.marked response) where
  __ := undisturbed_refl response world
  used _ other := Function.update_of_ne other _ _

theorem undisturbed_recorded (response : OracleResponse) (world : World) (timestamp : Nat) :
    Undisturbed response world ((world.marked response).recorded response timestamp) where
  __ := undisturbed_marked response world
  registryRunning := rfl
  registryRoles := rfl
  seen _ other := Function.update_of_ne other _ _
  claimants claimId := by
    simp only [World.recorded, World.marked]
    by_cases same : claimId = response.claimId
    · rw [same, Function.update_self]
    · rw [Function.update_of_ne same]

theorem undisturbed_settle
    (fresh : Fresh site world first firstSignature early.msg.timestamp) :
    Undisturbed first world (settle (exec site) world (early.relaying first firstSignature)) := by
  by_cases able : Relayable site world first
  · rw [settle_relayable fresh able]
    exact undisturbed_recorded first world early.msg.timestamp
  · rcases @settle_unrelayable site world early first firstSignature able with same | marked
    · rw [same]
      exact undisturbed_refl first world
    · rw [marked]
      exact undisturbed_marked first world

theorem Undisturbed.fresh {next : World} {timestamp : Nat}
    (undisturbed : Undisturbed first world next) (other : second.requestId ≠ first.requestId)
    (fresh : Fresh site world second secondSignature timestamp) :
    Fresh site next second secondSignature timestamp where
  unused := (undisturbed.used _ other).trans fresh.unused
  notFromFuture := fresh.notFromFuture
  fits := by
    rw [undisturbed.window]
    exact fresh.fits
  notExpired := by
    rw [undisturbed.window]
    exact fresh.notExpired
  signed := by
    rw [undisturbed.signers]
    exact fresh.signed

theorem Undisturbed.relayable_iff {next : World} (undisturbed : Undisturbed first world next)
    (other : second.requestId ≠ first.requestId) :
    Relayable site next second ↔ Relayable site world second := by
  constructor
  · rintro ⟨running, pointed, registryRunning, oracle, unseen, present⟩
    rw [undisturbed.running] at running
    rw [undisturbed.pointer] at pointed
    rw [undisturbed.registryRunning] at registryRunning
    rw [undisturbed.registryRoles] at oracle
    rw [undisturbed.seen _ other] at unseen
    rw [undisturbed.claimants] at present
    exact ⟨running, pointed, registryRunning, oracle, unseen, present⟩
  · rintro ⟨running, pointed, registryRunning, oracle, unseen, present⟩
    refine ⟨?_, ?_, ?_, ?_, ?_, ?_⟩
    · rw [undisturbed.running, running]
    · rw [undisturbed.pointer, pointed]
    · rw [undisturbed.registryRunning, registryRunning]
    · rw [undisturbed.registryRoles, oracle]
    · rw [undisturbed.seen _ other, unseen]
    · rw [undisturbed.claimants]
      exact present

theorem status_relayable {call : Call site}
    (fresh : Fresh site world response signature call.msg.timestamp)
    (able : Relayable site world response) :
    ((settle (exec site) world (call.relaying response signature)).registry.claims
        response.claimId).status =
      ClaimRegistry.oracleDecision response.approved := by
  rw [settle_relayable fresh able]
  simp only [World.recorded, Function.update_self]

theorem status_unrelayable {call : Call site} (unable : ¬Relayable site world response)
    (claimId : Nat) :
    ((settle (exec site) world (call.relaying response signature)).registry.claims
        claimId).status =
      (world.registry.claims claimId).status := by
  rcases @settle_unrelayable site world call response signature unable with same | marked
  · rw [same]
  · rw [marked]
    rfl

end Order

/-- The status of a claim after two responses are relayed, one after the other. -/
def statusAfter (deployment : Deployment) (calls : List (Call deployment.site))
    (early late : Call deployment.site) (first second : OracleResponse × TypedData.Bytes)
    (claimId : Nat) : ClaimRegistry.ClaimStatus :=
  ((deployment.run (calls ++ [early.relaying first.1 first.2,
    late.relaying second.1 second.2])).registry.claims claimId).status

/-- The response can be submitted at either of the two times. -/
structure Submittable (deployment : Deployment) (calls : List (Call deployment.site))
    (early late : Call deployment.site) (response : OracleResponse × TypedData.Bytes)
    (claimId : Nat) : Prop where
  claimId : response.1.claimId = claimId
  early : Fresh deployment.site (deployment.run calls) response.1 response.2 early.msg.timestamp
  late : Fresh deployment.site (deployment.run calls) response.1 response.2 late.msg.timestamp

section Reachable

variable {deployment : Deployment} {calls : List (Call deployment.site)}
  {early late : Call deployment.site} {first second : OracleResponse × TypedData.Bytes}
  {claimId : Nat}

theorem statusAfter_eq :
    statusAfter deployment calls early late first second claimId =
      ((settle (exec deployment.site)
        (settle (exec deployment.site) (deployment.run calls) (early.relaying first.1 first.2))
        (late.relaying second.1 second.2)).registry.claims claimId).status := by
  unfold statusAfter Deployment.run Transactions.run
  rw [List.foldl_append]
  rfl

/-- A second response that can be relayed decides. -/
theorem statusAfter_relayable (distinct : second.1.requestId ≠ first.1.requestId)
    (submittable : Submittable deployment calls early late first claimId)
    (other : Submittable deployment calls early late second claimId)
    (able : Relayable deployment.site (deployment.run calls) second.1) :
    statusAfter deployment calls early late first second claimId =
      ClaimRegistry.oracleDecision second.1.approved := by
  have undisturbed := undisturbed_settle submittable.early
  rw [statusAfter_eq, ← other.claimId]
  exact status_relayable (undisturbed.fresh distinct other.late)
    ((undisturbed.relayable_iff distinct).mpr able)

/-- A second response that cannot be relayed leaves what the first one did. -/
theorem statusAfter_unrelayable (distinct : second.1.requestId ≠ first.1.requestId)
    (submittable : Submittable deployment calls early late first claimId)
    (unable : ¬Relayable deployment.site (deployment.run calls) second.1) :
    statusAfter deployment calls early late first second claimId =
      ((settle (exec deployment.site) (deployment.run calls)
        (early.relaying first.1 first.2)).registry.claims claimId).status := by
  have undisturbed := undisturbed_settle submittable.early
  rw [statusAfter_eq]
  exact status_unrelayable (fun able => unable ((undisturbed.relayable_iff distinct).mp able)) _

/-- If the second cannot be relayed, the order makes no difference. -/
theorem statusAfter_comm_of_unrelayable (distinct : first.1.requestId ≠ second.1.requestId)
    (submittable : Submittable deployment calls early late first claimId)
    (other : Submittable deployment calls early late second claimId)
    (unable : ¬Relayable deployment.site (deployment.run calls) second.1) :
    statusAfter deployment calls early late first second claimId =
      statusAfter deployment calls early late second first claimId := by
  rw [statusAfter_unrelayable distinct.symm submittable unable]
  by_cases able : Relayable deployment.site (deployment.run calls) first.1
  · rw [statusAfter_relayable distinct other submittable able, ← submittable.claimId]
    exact status_relayable submittable.early able
  · rw [statusAfter_unrelayable distinct other able, status_unrelayable able,
      status_unrelayable unable]

end Reachable

/-- In every reachable state, of two responses that can both be relayed the last
one stands; the two orders agree exactly if the decisions do or one of the
responses cannot be relayed. -/
theorem last_relayed_stands (deployment : Deployment) (calls : List (Call deployment.site))
    (early late : Call deployment.site) (first second : OracleResponse × TypedData.Bytes)
    (claimId : Nat) (distinct : first.1.requestId ≠ second.1.requestId)
    (firstSubmittable : Submittable deployment calls early late first claimId)
    (secondSubmittable : Submittable deployment calls early late second claimId) :
    (Relayable deployment.site (deployment.run calls) first.1 →
      Relayable deployment.site (deployment.run calls) second.1 →
        statusAfter deployment calls early late first second claimId =
            ClaimRegistry.oracleDecision second.1.approved ∧
          statusAfter deployment calls early late second first claimId =
            ClaimRegistry.oracleDecision first.1.approved) ∧
    (statusAfter deployment calls early late first second claimId =
        statusAfter deployment calls early late second first claimId ↔
      first.1.approved = second.1.approved ∨
        ¬(Relayable deployment.site (deployment.run calls) first.1 ∧
          Relayable deployment.site (deployment.run calls) second.1)) := by
  have last : Relayable deployment.site (deployment.run calls) first.1 →
      Relayable deployment.site (deployment.run calls) second.1 →
        statusAfter deployment calls early late first second claimId =
            ClaimRegistry.oracleDecision second.1.approved ∧
          statusAfter deployment calls early late second first claimId =
            ClaimRegistry.oracleDecision first.1.approved := by
    intro firstAble secondAble
    exact ⟨statusAfter_relayable distinct.symm firstSubmittable secondSubmittable secondAble,
      statusAfter_relayable distinct secondSubmittable firstSubmittable firstAble⟩
  refine ⟨last, ?_⟩
  by_cases firstAble : Relayable deployment.site (deployment.run calls) first.1
  · by_cases secondAble : Relayable deployment.site (deployment.run calls) second.1
    · obtain ⟨forward, backward⟩ := last firstAble secondAble
      rw [forward, backward]
      have injective : ClaimRegistry.oracleDecision second.1.approved =
          ClaimRegistry.oracleDecision first.1.approved ↔
            first.1.approved = second.1.approved := by
        cases first.1.approved <;> cases second.1.approved <;> decide
      rw [injective]
      exact ⟨Or.inl, fun either => either.resolve_right (fun no => no ⟨firstAble, secondAble⟩)⟩
    · refine iff_of_true ?_ (Or.inr fun both => secondAble both.2)
      exact statusAfter_comm_of_unrelayable distinct firstSubmittable secondSubmittable secondAble
  · refine iff_of_true ?_ (Or.inr fun both => firstAble both.1)
    exact (statusAfter_comm_of_unrelayable distinct.symm secondSubmittable firstSubmittable
      firstAble).symm

section Sample

open TypedData (encodeWords encodeWord asciiBytes)

/-- A response of the same signer for the same claim, with the other decision. -/
def rejection : OracleResponse :=
  { claimId := 1, requestId := 0x12, approved := false, timestamp := 6 }

def rejectionDigest : Bytes32 :=
  0x460409a1d1f3111e706341c94c0c7e51475d2a566c007ecea1edba84daabf6a5

/-- The sample signer's signature of that digest: `r`, `s` and `v`. -/
def rejectionSignature : TypedData.Bytes :=
  encodeWords
    [0x9d2d304374a5d5571d7d8c39db99c8eed149767dcaf70be1a356a08376caa34f,
      0x0e3555b7544b09f1817d4e5cbf1b42ef96417e9d2c5035f12a3e4b016c37845a] ++ [28]

/-- The Keccak-256 digests of everything that is hashed for the two responses. -/
def conflictDigests : List (TypedData.Bytes × Bytes32) :=
  sampleDigests ++
    [(encodeWords
        (0xf0055cfffa7abcc7d4f040230a785d418351e92f8939deacb37d5a2861a3ae26 ::
          rejection.fields),
        0xbdac3a65219fd3752aa29c84b552ad94df216cd0bda923f35b8a9b295d0d683d),
      ([0x19, 0x01] ++ encodeWord separator ++
        encodeWord 0xbdac3a65219fd3752aa29c84b552ad94df216cd0bda923f35b8a9b295d0d683d,
        rejectionDigest)]

def conflictCrypto : Crypto where
  keccak256 bytes := (conflictDigests.lookup bytes).getD 0
  recover digest signature :=
    if (digest = sampleDigest ∧ signature = sampleSignature) ∨
        (digest = rejectionDigest ∧ signature = rejectionSignature) then some sampleSigner
    else none

def conflictDeployment : Deployment :=
  { sampleDeployment with site := { sampleDeployment.site with crypto := conflictCrypto } }

def conflictCall (sender : Address) (outside : sender ≠ 0xB1) (target : Target) :
    Call conflictDeployment.site where
  msg := { sender := sender, timestamp := 10 }
  registries _ := ClaimRegistry.samplePolicies
  sinkAccepts := false
  target := target
  outside := outside

theorem admin_outside : (0xAD : Address) ≠ 0xB1 := by
  decide

theorem claimant_outside : (0xA1 : Address) ≠ 0xB1 := by
  decide

theorem relayer_outside : (0xF1 : Address) ≠ 0xB1 := by
  decide

/-- The adapter becomes the oracle and gets its signer; then `0xA1` submits claim
`1`. -/
def conflictCalls : List (Call conflictDeployment.site) :=
  [conflictCall 0xAD admin_outside (.registry (.changeRole (.grantRole .oracle 0xB1))),
   conflictCall 0xAD admin_outside
    (.adapter (.changeRole (.grantRole .oracleSigner sampleSigner))),
   conflictCall 0xA1 claimant_outside (.registry (.submitClaim 7 0 500))]

def conflictRelay : Call conflictDeployment.site :=
  conflictCall 0xF1 relayer_outside (.adapter .pause)

theorem sampleResponse_submittable :
    Submittable conflictDeployment conflictCalls conflictRelay conflictRelay
      (sampleResponse, sampleSignature) 1 := by
  have fresh : Fresh conflictDeployment.site (conflictDeployment.run conflictCalls)
      sampleResponse sampleSignature 10 :=
    ⟨by decide, by decide, by decide, by decide, sampleSigner, by decide +kernel, by decide⟩
  exact ⟨rfl, fresh, fresh⟩

theorem rejection_submittable :
    Submittable conflictDeployment conflictCalls conflictRelay conflictRelay
      (rejection, rejectionSignature) 1 := by
  have fresh : Fresh conflictDeployment.site (conflictDeployment.run conflictCalls)
      rejection rejectionSignature 10 :=
    ⟨by decide, by decide, by decide, by decide, sampleSigner, by decide +kernel, by decide⟩
  exact ⟨rfl, fresh, fresh⟩

theorem conflict_relayable (response : OracleResponse)
    (unseen : (conflictDeployment.run conflictCalls).registry.usedOracleRequestIds
      response.requestId = false) (claim : response.claimId = 1) :
    Relayable conflictDeployment.site (conflictDeployment.run conflictCalls) response where
  running := by decide
  pointed := by decide
  registryRunning := by decide
  oracle := by decide
  unseen := unseen
  present := by
    rw [claim]
    decide

theorem last_relayed_stands_sample :
    statusAfter conflictDeployment conflictCalls conflictRelay conflictRelay
        (sampleResponse, sampleSignature) (rejection, rejectionSignature) 1 = .rejected := by
  exact ((last_relayed_stands conflictDeployment conflictCalls conflictRelay conflictRelay
    (sampleResponse, sampleSignature) (rejection, rejectionSignature) 1 (by decide)
    sampleResponse_submittable rejection_submittable).1
    (conflict_relayable _ (by decide) rfl) (conflict_relayable _ (by decide) rfl)).1

/-- The relayer of an approval and a rejection chooses between the two. -/
theorem relayer_chooses_outcome :
    Submittable conflictDeployment conflictCalls conflictRelay conflictRelay
        (sampleResponse, sampleSignature) 1 ∧
      Submittable conflictDeployment conflictCalls conflictRelay conflictRelay
        (rejection, rejectionSignature) 1 ∧
      sampleResponse.requestId ≠ rejection.requestId ∧
      statusAfter conflictDeployment conflictCalls conflictRelay conflictRelay
        (sampleResponse, sampleSignature) (rejection, rejectionSignature) 1 = .rejected ∧
      statusAfter conflictDeployment conflictCalls conflictRelay conflictRelay
        (rejection, rejectionSignature) (sampleResponse, sampleSignature) 1 = .approved := by
  refine ⟨sampleResponse_submittable, rejection_submittable, by decide, ?_, ?_⟩
  · exact statusAfter_relayable (by decide) sampleResponse_submittable rejection_submittable
      (conflict_relayable _ (by decide) rfl)
  · exact statusAfter_relayable (by decide) rejection_submittable sampleResponse_submittable
      (conflict_relayable _ (by decide) rfl)

end Sample

end Dics.OracleAdapter
