/-
The webhook from the indexer to the backend, and the claims rows it updates.

The indexer sends its event object as it is; the backend reads the body with
the field names of `OnchainEventNotification`.  A row and an on-chain claim are
tied together by the text of the Merkle root, which users choose freely in
`POST /claims`.  Serialising a body and parsing it again is the identity here;
addresses stand for their lower-case texts, and document rows are left out.  So are
values that a column of the table refuses: policy ids and on-chain claim ids outside
an INTEGER, transaction hashes of more than 66 characters.
-/

import Dics.Backend.Verification
import Dics.Indexer.Handlers
import Dics.Lib.Bodies
import Dics.Lib.Texts

open Bodies Texts

namespace Dics.Backend.Webhook

/-! ### Texts -/

/-- The text of 32 bytes, as the indexer's library writes it. -/
def hexText (value : Bytes32) : String :=
  String.ofList ('0' :: 'x' :: (List.range 64).reverse.map
    (fun position => Nat.digitChar (value.toNat / 16 ^ position % 16)))

/-- What a text of the pattern `^0x[a-fA-F0-9]{64}$` stands for. -/
def bytes32OfText (text : String) : Option Bytes32 :=
  match text.toList with
  | '0' :: 'x' :: digits =>
      if digits.length = 64 then
        (digits.mapM hexDigit).map (fun values =>
          BitVec.ofNat 256 (values.foldl (fun value digit => value * 16 + digit) 0))
      else none
  | _ => none

theorem bytes32OfText_ofList {digits : List Char} (complete : digits.length = 64) :
    bytes32OfText (String.ofList ('0' :: 'x' :: digits)) =
      (digits.mapM hexDigit).map (fun values =>
        BitVec.ofNat 256 (values.foldl (fun value digit => value * 16 + digit) 0)) := by
  unfold bytes32OfText
  rw [String.toList_ofList]
  exact if_pos complete

/-- The text of 32 bytes stands for them. -/
theorem bytes32OfText_hexText (value : Bytes32) : bytes32OfText (hexText value) = some value := by
  have bound : value.toNat < 16 ^ 64 := value.isLt
  have texts : (List.range 64).reverse.map
      (fun position => Nat.digitChar (value.toNat / 16 ^ position % 16)) =
      ((List.range 64).reverse.map (fun position => value.toNat / 16 ^ position % 16)).map
        Nat.digitChar := by
    rw [List.map_map]
    rfl
  have small : ∀ digit ∈ (List.range 64).reverse.map
      (fun position => value.toNat / 16 ^ position % 16), digit < 16 := by
    intro digit member
    obtain ⟨position, _, rfl⟩ := List.mem_map.mp member
    exact Nat.mod_lt _ (by decide)
  rw [hexText, texts, bytes32OfText_ofList, mapM_hexDigit _ small, Option.map_some, foldl_digits,
    Nat.zero_mul, Nat.zero_add, Nat.mod_eq_of_lt bound, BitVec.ofNat_toNat, BitVec.setWidth_eq]
  rw [List.length_map, List.length_map, List.length_reverse, List.length_range]

theorem hexText_injective {first second : Bytes32} (same : hexText first = hexText second) :
    first = second := by
  have values := congrArg bytes32OfText same
  rw [bytes32OfText_hexText, bytes32OfText_hexText] at values
  exact Option.some.inj values

def statusText : Indexer.StatusName → String
  | .submitted => "submitted"
  | .underReview => "under_review"
  | .approved => "approved"
  | .paid => "paid"
  | .rejected => "rejected"
  | .unknown status => "unknown(" ++ toString status ++ ")"

def eventNameText : Indexer.EventName → String
  | .claimSubmitted => "ClaimSubmitted"
  | .claimStatusChanged => "ClaimStatusChanged"
  | .claimPayout => "ClaimPayout"

/-- `ClaimStatus(...)` of a text. -/
def claimStatusOfText (text : String) : Option ClaimStatus :=
  if text = "draft" then some .draft
  else if text = "submitted" then some .submitted
  else if text = "under_review" then some .underReview
  else if text = "approved" then some .approved
  else if text = "rejected" then some .rejected
  else if text = "paid" then some .paid
  else none

/-! ### The body the indexer sends and the record the backend reads -/

/-- `JSON.stringify(event)` in `reportClaimEvent`. -/
def reportBody (event : Indexer.Notification) : Json :=
  .object
    [("eventName", .text (eventNameText event.eventName)),
     ("onchainClaimId", .text (toString event.onchainClaimId)),
     ("merkleRoot", .text (hexText event.merkleRoot)),
     ("txHash", .text (hexText event.txHash)),
     ("status", .text (statusText event.status))]

structure OnchainEventNotification where
  eventName : Option String
  onchainClaimId : Int
  merkleRoot : String
  txHash : String
  status : String
  deriving DecidableEq

inductive BodyError where
  | modelType
  | fields (errors : List FieldError)
  deriving DecidableEq

def readNotification (fields : List (String × Json)) : Validated OnchainEventNotification :=
  (both (withDefault fields "event_name" (readNullable readString) none)
    (both (required fields "onchain_claim_id" readInt)
      (both (required fields "merkle_root" readString)
        (both (required fields "tx_hash" readString)
          (required fields "status" readString))))).map
    (fun (eventName, onchainClaimId, merkleRoot, txHash, status) =>
      { eventName, onchainClaimId, merkleRoot, txHash, status })

def validateNotification : Json → Except BodyError OnchainEventNotification
  | .object fields => (readNotification fields).mapError .fields
  | _ => .error .modelType

/-! ### The claims table -/

/-- The columns that `create_claim` or the webhook touches. -/
structure Claim where
  id : Nat
  policyId : Int
  claimantAddress : Address
  declaredAmount : Rat
  merkleRoot : Option String
  merkleSalt : Option String
  status : ClaimStatus
  onchainClaimId : Option Int
  txHash : Option String
  deriving DecidableEq

structure Database where
  claims : List Claim
  deriving DecidableEq

structure CreateClaimRequest where
  policyId : Int
  declaredAmount : Rat
  merkleRoot : Option String
  merkleSalt : Option String
  deriving DecidableEq

def wellFormedText (text? : Option String) : Bool :=
  text?.all (fun text => (bytes32OfText text).isSome)

/-- The field constraints, and the check in the route that root and salt come
together. -/
def CreateClaimRequest.acceptable (payload : CreateClaimRequest) : Bool :=
  decide (0 < payload.declaredAmount) && wellFormedText payload.merkleRoot &&
    wellFormedText payload.merkleSalt &&
    decide (payload.merkleRoot.isNone = payload.merkleSalt.isNone)

theorem acceptable_of_texts {payload : CreateClaimRequest} {root salt : Bytes32}
    (positive : 0 < payload.declaredAmount) (rooted : payload.merkleRoot = some (hexText root))
    (salted : payload.merkleSalt = some (hexText salt)) : payload.acceptable = true := by
  simp only [CreateClaimRequest.acceptable, rooted, salted, wellFormedText, Option.all_some,
    bytes32OfText_hexText, Option.isSome_some, Option.isNone_some, decide_true, Bool.and_true,
    positive]

inductive CreateResponse where
  | created (claim : Claim)
  | unprocessable
  deriving DecidableEq

def createClaim (payload : CreateClaimRequest) (claimant : Address) (db : Database) :
    Database × CreateResponse :=
  if payload.acceptable = true then
    let claim : Claim :=
      { id := db.claims.length + 1
        policyId := payload.policyId
        claimantAddress := claimant
        declaredAmount := payload.declaredAmount
        merkleRoot := payload.merkleRoot
        merkleSalt := payload.merkleSalt
        status := .draft
        onchainClaimId := none
        txHash := none }
    (⟨db.claims ++ [claim]⟩, .created claim)
  else (db, .unprocessable)

inductive Response where
  | updated (claimId : Nat)
  | noMatchingClaim (merkleRoot : String)
  | unrecognizedStatus (received : String)
  | unprocessable (error : BodyError)
  | multipleResultsFound
  deriving DecidableEq

def Database.withRoot (db : Database) (merkleRoot : String) : List Claim :=
  db.claims.filter (fun claim => decide (claim.merkleRoot = some merkleRoot))

def Claim.notified (claim : Claim) (payload : OnchainEventNotification) (status : ClaimStatus) :
    Claim :=
  { claim with
    onchainClaimId := some payload.onchainClaimId
    txHash := some payload.txHash
    status := status }

/-- `UPDATE claims … WHERE id`. -/
def Database.update (db : Database) (claim : Claim) : Database :=
  ⟨db.claims.map (fun other => if other.id = claim.id then claim else other)⟩

/-- `scalar_one_or_none` raises when there is more than one row. -/
def receiveOnchainEvent (payload : OnchainEventNotification) (db : Database) :
    Database × Response :=
  match db.withRoot payload.merkleRoot with
  | [] => (db, .noMatchingClaim payload.merkleRoot)
  | [claim] =>
      match claimStatusOfText payload.status with
      | some status => (db.update (claim.notified payload status), .updated claim.id)
      | none => (db, .unrecognizedStatus payload.status)
  | _ => (db, .multipleResultsFound)

/-- `POST /internal/onchain-events` with the indexer's key. -/
def postOnchainEvent (body : Json) (db : Database) : Database × Response :=
  match validateNotification body with
  | .ok payload => receiveOnchainEvent payload db
  | .error error => (db, .unprocessable error)

/-! ### What the backend makes of the indexer's reports -/

/-- A body with the declared names is accepted and read as it was meant. -/
def declaredBody (payload : OnchainEventNotification) : Json :=
  .object
    [("onchain_claim_id", .number payload.onchainClaimId),
     ("merkle_root", .text payload.merkleRoot),
     ("tx_hash", .text payload.txHash),
     ("status", .text payload.status)]

theorem declaredBody_accepted (payload : OnchainEventNotification) :
    validateNotification (declaredBody payload) = .ok { payload with eventName := none } := by
  unfold validateNotification declaredBody readNotification
  dsimp only
  rw [@required_present _ _ "onchain_claim_id" _ readInt payload.onchainClaimId rfl rfl,
    @required_present _ _ "merkle_root" _ readString payload.merkleRoot rfl rfl,
    @required_present _ _ "tx_hash" _ readString payload.txHash rfl rfl,
    @required_present _ _ "status" _ readString payload.status rfl rfl]
  rfl

/-- The names the indexer uses, in camel case, are not the declared ones. -/
def reportErrors : List FieldError :=
  [⟨"onchain_claim_id", .missing⟩, ⟨"merkle_root", .missing⟩, ⟨"tx_hash", .missing⟩]

theorem reportBody_rejected (event : Indexer.Notification) :
    validateNotification (reportBody event) = .error (.fields reportErrors) := by
  unfold validateNotification reportBody readNotification
  dsimp only
  rw [@required_missing _ _ "onchain_claim_id" rfl readInt,
    @required_missing _ _ "merkle_root" rfl readString,
    @required_missing _ _ "tx_hash" rfl readString]
  rfl

/-- What a report is for: the backend reads the values the indexer meant, and the
one row with that root, if there is exactly one, takes them over. -/
structure Delivered (db : Database) (event : Indexer.Notification) : Prop where
  accepted : ∃ payload, validateNotification (reportBody event) = .ok payload ∧
    payload.onchainClaimId = event.onchainClaimId ∧
    payload.merkleRoot = hexText event.merkleRoot ∧
    payload.txHash = hexText event.txHash ∧
    payload.status = statusText event.status
  applied : ∀ claim, db.withRoot (hexText event.merkleRoot) = [claim] →
    ∃ status, claimStatusOfText (statusText event.status) = some status ∧
      (postOnchainEvent (reportBody event) db).1 = db.update
        { claim with
          onchainClaimId := some event.onchainClaimId
          txHash := some (hexText event.txHash)
          status := status }

/-- No report of the indexer is ever delivered: whatever it says, the backend
answers with the three missing fields and leaves every row alone. -/
theorem report_never_delivered (event : Indexer.Notification) (db : Database) :
    postOnchainEvent (reportBody event) db = (db, .unprocessable (.fields reportErrors)) ∧
      ¬Delivered db event := by
  constructor
  · rw [postOnchainEvent, reportBody_rejected]
  · intro delivered
    obtain ⟨payload, accepted, _⟩ := delivered.accepted
    rw [reportBody_rejected] at accepted
    cases accepted

def sampleClaim (id : Nat) (claimant : Address) (merkleRoot : String) : Claim :=
  { id := id
    policyId := 7
    claimantAddress := claimant
    declaredAmount := 500
    merkleRoot := some merkleRoot
    merkleSalt := some (hexText 1)
    status := .draft
    onchainClaimId := none
    txHash := none }

def sampleReport : Indexer.Notification where
  eventName := .claimSubmitted
  onchainClaimId := 42
  merkleRoot := 5
  txHash := 9
  status := .submitted

/-- One row waits for exactly this report and is not updated. -/
theorem sample_report_not_delivered :
    Database.withRoot ⟨[sampleClaim 1 0xA1 (hexText 5)]⟩ (hexText sampleReport.merkleRoot) =
        [sampleClaim 1 0xA1 (hexText 5)] ∧
      (postOnchainEvent (reportBody sampleReport) ⟨[sampleClaim 1 0xA1 (hexText 5)]⟩).1 =
        ⟨[sampleClaim 1 0xA1 (hexText 5)]⟩ ∧
      ¬Delivered ⟨[sampleClaim 1 0xA1 (hexText 5)]⟩ sampleReport := by
  refine ⟨?_, ?_, ?_⟩
  · have root : sampleReport.merkleRoot = 5 := rfl
    rw [root]
    simp [Database.withRoot, sampleClaim]
  · rw [postOnchainEvent, reportBody_rejected]
  · intro delivered
    obtain ⟨payload, accepted, _⟩ := delivered.accepted
    rw [reportBody_rejected] at accepted
    cases accepted

/-! ### Rows and roots -/

/-- A request of an authenticated user. -/
structure Post where
  claimant : Address
  payload : CreateClaimRequest
  deriving DecidableEq

/-- The table after these requests, from the empty one. -/
def posted (posts : List Post) : Database :=
  posts.foldl (fun db post => (createClaim post.payload post.claimant db).1) ⟨[]⟩

/-- The accepted requests that gave this very text as their root. -/
def givers (merkleRoot : String) (posts : List Post) : List Post :=
  posts.filter (fun post => decide (post.payload.acceptable = true ∧
    post.payload.merkleRoot = some merkleRoot))

/-- Ids count the rows, and the rows with a root are those of its givers. -/
structure Recorded (posts : List Post) (db : Database) : Prop where
  bounded : ∀ claim ∈ db.claims, claim.id ≤ db.claims.length
  distinct : (db.claims.map Claim.id).Nodup
  rooted : ∀ merkleRoot, (db.withRoot merkleRoot).map Claim.claimantAddress =
    (givers merkleRoot posts).map Post.claimant

theorem posted_snoc (posts : List Post) (post : Post) :
    posted (posts ++ [post]) =
      (createClaim post.payload post.claimant (posted posts)).1 := by
  simp only [posted, List.foldl_append, List.foldl_cons, List.foldl_nil]

theorem withRoot_snoc (claims : List Claim) (claim : Claim) (merkleRoot : String) :
    Database.withRoot ⟨claims ++ [claim]⟩ merkleRoot =
      Database.withRoot ⟨claims⟩ merkleRoot ++ Database.withRoot ⟨[claim]⟩ merkleRoot :=
  List.filter_append _ _

theorem givers_snoc (posts : List Post) (post : Post) (merkleRoot : String) :
    givers merkleRoot (posts ++ [post]) =
      givers merkleRoot posts ++ givers merkleRoot [post] :=
  List.filter_append _ _

private theorem recorded_created {posts : List Post} {post : Post} {db : Database}
    (before : Recorded posts db) (acceptable : post.payload.acceptable = true) :
    Recorded (posts ++ [post]) (createClaim post.payload post.claimant db).1 := by
  unfold createClaim
  rw [if_pos acceptable]
  constructor
  · intro claim member
    rw [List.length_append, List.length_singleton]
    rcases List.mem_append.mp member with old | new
    · exact Nat.le_succ_of_le (before.bounded claim old)
    · rw [List.mem_singleton.mp new]
  · rw [List.map_append, List.map_singleton]
    apply List.nodup_append.mpr
    refine ⟨before.distinct, List.nodup_singleton _, ?_⟩
    intro id old other new same
    obtain ⟨claim, member, rfl⟩ := List.mem_map.mp old
    rw [List.mem_singleton.mp new] at same
    change claim.id = db.claims.length + 1 at same
    have bound := before.bounded claim member
    omega
  · intro merkleRoot
    rw [withRoot_snoc, givers_snoc, List.map_append, List.map_append,
      before.rooted merkleRoot]
    congr 1
    simp only [Database.withRoot, givers, List.filter_cons, List.filter_nil, acceptable,
      true_and]
    split
    · rfl
    · rfl

private theorem recorded_refused {posts : List Post} {post : Post} {db : Database}
    (before : Recorded posts db) (refused : ¬post.payload.acceptable = true) :
    Recorded (posts ++ [post]) (createClaim post.payload post.claimant db).1 := by
  unfold createClaim
  rw [if_neg refused]
  refine ⟨before.bounded, before.distinct, ?_⟩
  intro merkleRoot
  have none : givers merkleRoot [post] = [] :=
    List.filter_cons_of_neg (by simp [refused])
  rw [givers_snoc, none, List.append_nil]
  exact before.rooted merkleRoot

theorem recorded_posted (posts : List Post) : Recorded posts (posted posts) := by
  induction posts using List.reverseRecOn with
  | nil =>
      refine ⟨?_, List.nodup_nil, fun _ => rfl⟩
      intro claim member
      exact absurd member List.not_mem_nil
  | append_singleton posts post ih =>
      rw [posted_snoc]
      by_cases acceptable : post.payload.acceptable = true
      · exact recorded_created ih acceptable
      · exact recorded_refused ih acceptable

/-- The event reached the row its claimant created for this root, and no other. -/
def Correlated (payload : OnchainEventNotification) (root : Bytes32) (claimant : Address)
    (db : Database) : Prop :=
  ∃ earlier claim later status,
    db.claims = earlier ++ claim :: later ∧
      claim.claimantAddress = claimant ∧
      claim.merkleRoot.bind bytes32OfText = some root ∧
      claimStatusOfText payload.status = some status ∧
      receiveOnchainEvent payload db =
        (⟨earlier ++ claim.notified payload status :: later⟩, .updated claim.id)

theorem mem_withRoot {db : Database} {merkleRoot : String} {claim : Claim} :
    claim ∈ db.withRoot merkleRoot ↔
      claim ∈ db.claims ∧ claim.merkleRoot = some merkleRoot := by
  rw [Database.withRoot, List.mem_filter, decide_eq_true_iff]

private theorem map_other_ids {claims : List Claim} {claim : Claim}
    (others : ∀ other ∈ claims, other.id ≠ claim.id) :
    claims.map (fun other => if other.id = claim.id then claim else other) = claims := by
  have unchanged : claims.map (fun other => if other.id = claim.id then claim else other) =
      claims.map id :=
    List.map_congr_left (fun other member => if_neg (others other member))
  rw [unchanged, List.map_id]

/-- With distinct ids, an update by id changes one row in place. -/
theorem update_of_distinct {earlier later : List Claim} {claim changed : Claim}
    (distinct : ((earlier ++ claim :: later).map Claim.id).Nodup)
    (sameId : changed.id = claim.id) :
    Database.update ⟨earlier ++ claim :: later⟩ changed =
      ⟨earlier ++ changed :: later⟩ := by
  rw [List.map_append, List.map_cons, List.nodup_append] at distinct
  obtain ⟨_, rest, apart⟩ := distinct
  have before : ∀ other ∈ earlier, other.id ≠ changed.id := by
    intro other member
    rw [sameId]
    exact apart _ (List.mem_map_of_mem member) _ List.mem_cons_self
  have after : ∀ other ∈ later, other.id ≠ changed.id := by
    intro other member same
    rw [sameId] at same
    exact (List.nodup_cons.mp rest).1 (same ▸ List.mem_map_of_mem member)
  unfold Database.update
  rw [List.map_append, List.map_cons, map_other_ids before, map_other_ids after,
    if_pos sameId.symm]

private theorem updated_once {payload : OnchainEventNotification} {db after : Database}
    {claimId : Nat} (updated : receiveOnchainEvent payload db = (after, .updated claimId)) :
    ∃ claim, db.withRoot payload.merkleRoot = [claim] ∧ claim.id = claimId := by
  unfold receiveOnchainEvent at updated
  split at updated
  · cases updated
  · rename_i claim once
    refine ⟨claim, once, ?_⟩
    split at updated
    · cases updated
      rfl
    · cases updated
  · cases updated

/-- Whatever users posted before, a well-formed event reaches its claimant's row
and no other exactly when one accepted request gave the event's very text as
its root, and that request was the claimant's. -/
theorem correlated_iff_single_giver (posts : List Post) (payload : OnchainEventNotification)
    (root : Bytes32) (claimant : Address) (status : ClaimStatus)
    (wellFormed : bytes32OfText payload.merkleRoot = some root)
    (recognized : claimStatusOfText payload.status = some status) :
    Correlated payload root claimant (posted posts) ↔
      ∃ post, givers payload.merkleRoot posts = [post] ∧ post.claimant = claimant := by
  have recorded := recorded_posted posts
  have rooted := recorded.rooted payload.merkleRoot
  constructor
  · rintro ⟨earlier, claim, later, _, split, created, _, _, updated⟩
    obtain ⟨found, once, sameId⟩ := updated_once updated
    have present : claim ∈ (posted posts).claims := by
      rw [split]
      exact List.mem_append_right _ List.mem_cons_self
    have foundPresent := (mem_withRoot.mp (once ▸ List.mem_singleton.mpr rfl :
      found ∈ (posted posts).withRoot payload.merkleRoot)).1
    have same : found = claim :=
      List.inj_on_of_nodup_map recorded.distinct foundPresent present sameId
    rw [once, same, List.map_singleton, created] at rooted
    obtain ⟨post, single, gave⟩ := List.map_eq_singleton_iff.mp rooted.symm
    exact ⟨post, single, gave⟩
  · rintro ⟨post, single, gave⟩
    rw [single, List.map_singleton, gave] at rooted
    obtain ⟨claim, once, created⟩ := List.map_eq_singleton_iff.mp rooted
    have member : claim ∈ (posted posts).withRoot payload.merkleRoot :=
      once ▸ List.mem_singleton.mpr rfl
    obtain ⟨present, text⟩ := mem_withRoot.mp member
    obtain ⟨earlier, later, split⟩ := List.append_of_mem present
    have distinct := recorded.distinct
    rw [split] at distinct
    refine ⟨earlier, claim, later, status, split, created, ?_, recognized, ?_⟩
    · rw [text]
      exact wellFormed
    · have updated : (posted posts).update (claim.notified payload status) =
          ⟨earlier ++ claim.notified payload status :: later⟩ := by
        rw [← update_of_distinct distinct (rfl : (claim.notified payload status).id = claim.id),
          ← split]
      simp only [receiveOnchainEvent, once, recognized, updated]

def samplePost (claimant : Address) (merkleRoot : String) : Post where
  claimant := claimant
  payload :=
    { policyId := 7
      declaredAmount := 500
      merkleRoot := some merkleRoot
      merkleSalt := some (hexText 1) }

/-- The event of an on-chain claim with root `5`. -/
def sampleEvent : OnchainEventNotification where
  eventName := none
  onchainClaimId := 42
  merkleRoot := hexText 5
  txHash := hexText 9
  status := "submitted"

private theorem sampleEvent_root : bytes32OfText sampleEvent.merkleRoot = some 5 :=
  bytes32OfText_hexText 5

private theorem samplePost_acceptable (claimant : Address) (root : Bytes32) :
    (samplePost claimant (hexText root)).payload.acceptable = true :=
  acceptable_of_texts (show (0 : Rat) < 500 by decide) rfl rfl

private theorem sampleGivers :
    givers sampleEvent.merkleRoot
        [samplePost 0xB2 (hexText 6), samplePost 0xA1 (hexText 5)] =
      [samplePost 0xA1 (hexText 5)] := by
  have different : hexText 6 ≠ hexText 5 := by
    intro same
    have impossible := hexText_injective same
    revert impossible
    decide
  unfold givers
  simp only [List.filter_cons, List.filter_nil, samplePost_acceptable, true_and]
  simp only [samplePost, sampleEvent, Option.some.injEq, different, decide_false, decide_true,
    if_true, Bool.false_eq_true, if_false]

theorem correlated_iff_single_giver_sample :
    bytes32OfText sampleEvent.merkleRoot = some 5 ∧
      claimStatusOfText sampleEvent.status = some .submitted ∧
      Correlated sampleEvent 5 0xA1
        (posted [samplePost 0xB2 (hexText 6), samplePost 0xA1 (hexText 5)]) :=
  ⟨sampleEvent_root, by decide,
    (correlated_iff_single_giver _ sampleEvent 5 0xA1 .submitted sampleEvent_root
      (by decide)).mpr
      ⟨samplePost 0xA1 (hexText 5), sampleGivers, rfl⟩⟩

/-- Two rows with the text of an event, and the webhook raises. -/
private theorem raised_of_repeated {first second : Post} {payload : OnchainEventNotification}
    (firstAcceptable : first.payload.acceptable = true)
    (secondAcceptable : second.payload.acceptable = true)
    (firstRoot : first.payload.merkleRoot = some payload.merkleRoot)
    (secondRoot : second.payload.merkleRoot = some payload.merkleRoot) :
    receiveOnchainEvent payload (posted [first, second]) =
      (posted [first, second], .multipleResultsFound) := by
  simp only [receiveOnchainEvent, posted, List.foldl_cons, List.foldl_nil, createClaim,
    firstAcceptable, secondAcceptable, if_pos, Database.withRoot, List.nil_append,
    List.cons_append, List.filter_cons, List.filter_nil, firstRoot, secondRoot, decide_true]

/-- `0xB2` repeats the root of `0xA1`, and the webhook raises. -/
theorem repeated_root_raises :
    bytes32OfText sampleEvent.merkleRoot = some 5 ∧
      (samplePost 0xA1 (hexText 5)).payload.acceptable = true ∧
      receiveOnchainEvent sampleEvent
          (posted [samplePost 0xA1 (hexText 5), samplePost 0xB2 (hexText 5)]) =
        (posted [samplePost 0xA1 (hexText 5), samplePost 0xB2 (hexText 5)],
          .multipleResultsFound) ∧
      ¬Correlated sampleEvent 5 0xA1
        (posted [samplePost 0xA1 (hexText 5), samplePost 0xB2 (hexText 5)]) := by
  have raised : receiveOnchainEvent sampleEvent
        (posted [samplePost 0xA1 (hexText 5), samplePost 0xB2 (hexText 5)]) =
      (posted [samplePost 0xA1 (hexText 5), samplePost 0xB2 (hexText 5)],
        .multipleResultsFound) :=
    raised_of_repeated (samplePost_acceptable 0xA1 5) (samplePost_acceptable 0xB2 5) rfl rfl
  refine ⟨sampleEvent_root, samplePost_acceptable 0xA1 5, raised, ?_⟩
  rintro ⟨earlier, claim, later, status, _, _, _, _, updated⟩
  rw [raised, Prod.mk.injEq] at updated
  cases updated.2

end Dics.Backend.Webhook
