/-
The underwriter service's worklist.

The service reads the indexer's claims table and nothing else.  It asks for two
status names, and what it finds depends on how the indexer spells them.  What is
said here holds of every table, whatever the indexer did or failed to do.
-/

import Dics.Backend.Webhook
import Dics.Indexer.Mirror

open Scripts

namespace Dics.Underwriter

open Indexer (ClaimRow StatusName)

/-! ### The service -/

/-- `ClaimEntity`: a row of `onchain_claims` with the text of its status. -/
structure ClaimEntity where
  onchainClaimId : Nat
  policyId : Nat
  claimantAddress : Address
  merkleRoot : Bytes32
  amount : Nat
  status : String
  submittedTxHash : Bytes32
  payoutTxHash : Option Bytes32
  deriving DecidableEq

def ClaimEntity.ofRow (onchainClaimId : Nat) (row : ClaimRow) : ClaimEntity :=
  { onchainClaimId
    policyId := row.policyId
    claimantAddress := row.claimantAddress
    merkleRoot := row.merkleRoot
    amount := row.amount
    status := Backend.Webhook.statusText row.status
    submittedTxHash := row.submittedTxHash
    payoutTxHash := row.payoutTxHash }

structure ClaimResponse where
  onchainClaimId : Nat
  policyId : Nat
  claimantAddress : Address
  amount : Nat
  status : String
  submittedTxHash : Bytes32
  payoutTxHash : Option Bytes32
  deriving DecidableEq

/-- `ClaimResponse.from`. -/
def ClaimResponse.ofEntity (entity : ClaimEntity) : ClaimResponse :=
  { onchainClaimId := entity.onchainClaimId
    policyId := entity.policyId
    claimantAddress := entity.claimantAddress
    amount := entity.amount
    status := entity.status
    submittedTxHash := entity.submittedTxHash
    payoutTxHash := entity.payoutTxHash }

/-- The order in which the database returns the rows it stores, each once. -/
structure Listing (rows : Nat → Option ClaimRow) where
  keys : List Nat
  distinct : keys.Nodup
  complete : ∀ id, id ∈ keys ↔ ∃ row, rows id = some row

variable {rows : Nat → Option ClaimRow}

def findAll (listing : Listing rows) : List ClaimEntity :=
  listing.keys.filterMap fun id => (rows id).map (ClaimEntity.ofRow id)

def findByStatusIn (listing : Listing rows) (statuses : List String) : List ClaimEntity :=
  (findAll listing).filter fun entity => entity.status ∈ statuses

/-- `GET /claims/pending`. -/
def pendingClaims (listing : Listing rows) : List ClaimResponse :=
  (findByStatusIn listing ["Submitted", "UnderReview"]).map ClaimResponse.ofEntity

/-! ### What the worklist should be -/

def PendingRow (status : StatusName) : Prop :=
  status = .submitted ∨ status = .underReview

instance (status : StatusName) : Decidable (PendingRow status) :=
  inferInstanceAs (Decidable (_ ∨ _))

def AwaitsDecision (rows : Nat → Option ClaimRow) (id : Nat) : Prop :=
  ∃ row, rows id = some row ∧ PendingRow row.status

/-- Every claim that awaits a decision is listed once, and no other is. -/
structure ListsPending (rows : Nat → Option ClaimRow) (listed : List ClaimResponse) : Prop where
  once : ∀ id, AwaitsDecision rows id →
    (listed.map ClaimResponse.onchainClaimId).count id = 1
  only : ∀ response ∈ listed, AwaitsDecision rows response.onchainClaimId

/-! ### What it is -/

/-- The indexer's names are in lower case. -/
theorem statusText_not_asked (status : StatusName) :
    Backend.Webhook.statusText status ∉ ["Submitted", "UnderReview"] := by
  cases status with
  | unknown code =>
      intro member
      have first : (Backend.Webhook.statusText (.unknown code)).toList.head? = some 'u' := by
        simp only [Backend.Webhook.statusText, String.toList_append]
        rfl
      rcases List.mem_pair.mp member with same | same
      · rw [same] at first
        revert first
        decide
      · rw [same] at first
        revert first
        decide
  | _ => decide

theorem pendingClaims_eq_nil (listing : Listing rows) : pendingClaims listing = [] := by
  have nothing : findByStatusIn listing ["Submitted", "UnderReview"] = [] := by
    apply List.filter_eq_nil_iff.mpr
    intro entity member asked
    obtain ⟨id, _, found⟩ := List.mem_filterMap.mp member
    obtain ⟨row, _, rfl⟩ := Option.map_eq_some_iff.mp found
    exact statusText_not_asked row.status (of_decide_eq_true asked)
  rw [pendingClaims, nothing]
  rfl

/-- The worklist is right exactly when there is no work: no mirrored claim is
submitted or under review. -/
theorem worklist_right_iff (listing : Listing rows) :
    ListsPending rows (pendingClaims listing) ↔ ∀ id, ¬AwaitsDecision rows id := by
  rw [pendingClaims_eq_nil]
  constructor
  · intro lists id awaits
    have counted := lists.once id awaits
    cases counted
  · intro none
    exact ⟨fun id awaits => absurd awaits (none id), fun _ member => nomatch member⟩

/-- A row that mirrors its claim awaits a decision as long as the claim does. -/
theorem awaitsDecision_of_mirrored {registry : ClaimRegistry.State}
    (mirrors : Indexer.MirrorsClaims registry rows) {id : Nat} (positive : 1 ≤ id)
    (handedOut : id < registry.nextClaimId) :
    AwaitsDecision rows id ↔
      (registry.claims id).status = .submitted ∨ (registry.claims id).status = .underReview := by
  obtain ⟨row, stored, agrees⟩ := mirrors id positive handedOut
  have named := agrees.status
  have only : AwaitsDecision rows id ↔ PendingRow row.status := by
    constructor
    · rintro ⟨other, found, pending⟩
      rw [stored] at found
      cases found
      exact pending
    · intro pending
      exact ⟨row, stored, pending⟩
  rw [only]
  cases status : (registry.claims id).status with
  | submitted =>
      rw [status] at named
      exact iff_of_true (Or.inl (Option.some.inj named).symm) (Or.inl rfl)
  | underReview =>
      rw [status] at named
      exact iff_of_true (Or.inr (Option.some.inj named).symm) (Or.inr rfl)
  | approved =>
      rw [status] at named
      rw [← Option.some.inj named]
      decide
  | paid =>
      rw [status] at named
      rw [← Option.some.inj named]
      decide
  | rejected =>
      rw [status] at named
      rw [← Option.some.inj named]
      decide

section Sample

open ClaimRegistry (sampleDeployment)
open Indexer (sampleConfig processLogs submittedCalls submittedLogs)

def mirroredRows : Nat → Option ClaimRow :=
  (processLogs sampleConfig .claimRegistry submittedLogs Indexer.State.empty).state.tables.claims

theorem mirroredRows_inStep :
    Indexer.InStep (sampleDeployment.run submittedCalls).registry mirroredRows := by
  obtain ⟨inStep, acceptable⟩ := Indexer.inStep_run sampleDeployment submittedCalls (by decide)
    submittedLogs (by decide) (by decide)
  have tables := (Indexer.processLogs_tables sampleConfig .claimRegistry acceptable
    (by decide)).2
  unfold mirroredRows
  rw [tables]
  exact inStep

def mirroredListing : Listing mirroredRows where
  keys := [1, 2]
  distinct := by decide
  complete := by
    intro id
    have next : (sampleDeployment.run submittedCalls).registry.nextClaimId = 3 := by decide
    constructor
    · intro among
      have between : 1 ≤ id ∧ id < 3 := by
        rcases List.mem_pair.mp among with same | same <;> omega
      obtain ⟨row, stored, _⟩ := mirroredRows_inStep.mirrors id between.1 (by omega)
      exact ⟨row, stored⟩
    · rintro ⟨row, stored⟩
      have behind : id < 3 := by
        by_contra ahead
        have none := mirroredRows_inStep.noneAhead id (by omega)
        rw [stored] at none
        cases none
      have positive : id ≠ 0 := by
        rintro rfl
        have none : mirroredRows 0 = none := by decide
        rw [stored] at none
        cases none
      rw [List.mem_pair]
      omega

/-- Both claims await their decision on chain and in the table, and the worklist
is empty. -/
theorem submitted_claim_not_listed :
    submittedLogs.map Indexer.Log.emitted =
        Indexer.emittedBy (sampleDeployment.history submittedCalls) ∧
      ((sampleDeployment.run submittedCalls).registry.claims 1).status = .submitted ∧
      pendingClaims mirroredListing = [] ∧
      ¬ListsPending mirroredRows (pendingClaims mirroredListing) := by
  have submitted : ((sampleDeployment.run submittedCalls).registry.claims 1).status =
      .submitted := by decide
  refine ⟨by decide, submitted, pendingClaims_eq_nil _, ?_⟩
  intro lists
  have awaits := (awaitsDecision_of_mirrored mirroredRows_inStep.mirrors (Nat.le_refl 1)
    (by decide)).mpr (Or.inl submitted)
  have counted := lists.once 1 awaits
  rw [pendingClaims_eq_nil] at counted
  cases counted

end Sample

end Dics.Underwriter
