/-
Filing a claim in the browser.

The form draws a salt, hashes it with the description and uses the digest as
the Merkle root of both the backend's record and the on-chain claim.  Events of
the chain find their row through the text of that root alone.  As long as salts
do not repeat, this is as good as an explicit table of filings: every row holds
what was last reported for its own filing, in every interleaving.  As in the
webhook's module, values that a column of the table refuses are left out.
-/

import Dics.Backend.Webhook
import Dics.Documents.Roots
import Dics.Frontend.Purchases

open Transactions TypedData Texts Words

namespace Dics.Frontend

open Backend.Webhook (Claim Database CreateClaimRequest OnchainEventNotification hexText
  bytes32OfText createClaim receiveOnchainEvent claimStatusOfText)
open DocumentService (toHex fromHexString fromHexString_digits)

/-! ### The form -/

/-- What `crypto.getRandomValues` fills. -/
structure Salt where
  bytes : Bytes
  full : bytes.length = 32
  deriving DecidableEq

def generateClaimSalt (random : Salt) : String :=
  String.ofList (toHex random.bytes)

/-- `ethers.getBytes`; `none` where it throws. -/
def getBytes (text : String) : Option Bytes :=
  match text.toList with
  | '0' :: 'x' :: digits => fromHexString digits
  | _ => none

def toUtf8Bytes (text : String) : Bytes := text.toUTF8.data.toList

/-- `none` is the error of a missing or malformed salt. -/
def placeholderMerkleRoot (keccak : Bytes → Digest) (claimDescription salt : String) :
    Option String :=
  if salt = "" then none
  else do
    let descriptionBytes := toUtf8Bytes
      (if claimDescription = "" then "no-description-provided" else claimDescription)
    let saltBytes ← getBytes salt
    return hexText (keccak (saltBytes ++ descriptionBytes))

/-- The form as `handleSubmit` finds it, the numbers already converted, with the
wallet that is logged in and the salt that will be drawn. -/
structure Form where
  claimant : Address
  policyId : Nat
  declaredAmount : Rat
  amount : String
  description : String
  random : Salt

/-- The body of `POST /claims`. -/
def Form.body (keccak : Bytes → Digest) (form : Form) : CreateClaimRequest where
  policyId := form.policyId
  declaredAmount := form.declaredAmount
  merkleRoot := placeholderMerkleRoot keccak form.description (generateClaimSalt form.random)
  merkleSalt := some (generateClaimSalt form.random)

/-- The transaction that follows.  Encoding its arguments fails for numbers that
are not safe integers and for values above a `uint256`. -/
def submitClaimOnChain (units : Units) (claimRegistryAddress : Option Address)
    (policyId : Nat) (merkleRoot : String) (amountEther : String) :
    Except Error ClaimRegistry.Fn := do
  let _ ← requireAddress claimRegistryAddress "VITE_CLAIM_REGISTRY_ADDRESS"
  let amountWei ← orRevert .invalidAmount (units.parseEther amountEther)
  let root ← orRevert .invalidArgument (bytes32OfText merkleRoot)
  require (policyId < 2 ^ 53 ∧ amountWei < wordBound) .invalidArgument
  return .submitClaim policyId root amountWei

/-! ### Salts and roots -/

/-- What is hashed for a filing. -/
def Form.hashed (form : Form) : Bytes :=
  form.random.bytes ++ toUtf8Bytes
    (if form.description = "" then "no-description-provided" else form.description)

def Form.root (keccak : Bytes → Digest) (form : Form) : Bytes32 := keccak form.hashed

theorem toHex_digits (bytes : Bytes) :
    ∃ digits, toHex bytes = '0' :: 'x' :: digits ∧ digits.length = 2 * bytes.length ∧
      fromHexString digits = some bytes ∧ (digits.mapM hexDigit).isSome = true := by
  refine ⟨_, rfl, ?_, fromHexString_digits bytes, ?_⟩
  · induction bytes with
    | nil => rfl
    | cons byte rest ih =>
        rw [List.flatMap_cons, List.length_append, ih]
        show 2 + 2 * rest.length = 2 * (rest.length + 1)
        omega
  · induction bytes with
    | nil => rfl
    | cons byte rest ih =>
        obtain ⟨values, read⟩ := Option.isSome_iff_exists.mp ih
        rw [List.flatMap_cons, List.cons_append, List.cons_append, List.nil_append,
          List.mapM_cons, List.mapM_cons, hexDigit_high, hexDigit_low, read]
        rfl

theorem getBytes_generateClaimSalt (random : Salt) :
    getBytes (generateClaimSalt random) = some random.bytes := by
  obtain ⟨digits, text, _, read, _⟩ := toHex_digits random.bytes
  unfold getBytes generateClaimSalt
  rw [String.toList_ofList, text]
  exact read

theorem generateClaimSalt_ne_empty (random : Salt) : generateClaimSalt random ≠ "" := by
  intro same
  have letters := congrArg String.toList same
  rw [generateClaimSalt, String.toList_ofList] at letters
  cases letters

/-- A drawn salt always gives a root. -/
theorem placeholderMerkleRoot_form (keccak : Bytes → Digest) (form : Form) :
    (form.body keccak).merkleRoot = some (hexText (form.root keccak)) := by
  show placeholderMerkleRoot keccak form.description (generateClaimSalt form.random) = _
  unfold placeholderMerkleRoot
  rw [if_neg (generateClaimSalt_ne_empty form.random), getBytes_generateClaimSalt]
  rfl

/-- The transaction has the root of the body. -/
theorem submitClaimOnChain_form (keccak : Bytes → Digest) (form : Form) {units : Units}
    {claimRegistryAddress : Address} {amountWei : Nat} (configured : claimRegistryAddress ≠ 0)
    (parsed : units.parseEther form.amount = some amountWei) {merkleRoot : String}
    (sent : (form.body keccak).merkleRoot = some merkleRoot) :
    submitClaimOnChain units (some claimRegistryAddress) form.policyId merkleRoot form.amount =
      if form.policyId < 2 ^ 53 ∧ amountWei < wordBound then
        .ok (.submitClaim form.policyId (form.root keccak) amountWei)
      else .error .invalidArgument := by
  rw [placeholderMerkleRoot_form] at sent
  cases sent
  unfold submitClaimOnChain requireAddress
  simp only [if_neg configured, parsed, Backend.Webhook.bytes32OfText_hexText]
  by_cases encodes : form.policyId < 2 ^ 53 ∧ amountWei < wordBound
  · rw [if_pos encodes]
    show (require _ _ >>= _) = _
    rw [require, if_pos encodes]
    rfl
  · rw [if_neg encodes]
    show (require _ _ >>= _) = _
    rw [require, if_neg encodes]
    rfl

theorem form_acceptable (keccak : Bytes → Digest) {form : Form}
    (positive : 0 < form.declaredAmount) : (form.body keccak).acceptable = true := by
  obtain ⟨digits, text, count, _, hex⟩ := toHex_digits form.random.bytes
  have complete : digits.length = 64 := by
    rw [count, form.random.full]
  obtain ⟨values, read⟩ := Option.isSome_iff_exists.mp hex
  have salted : (bytes32OfText (generateClaimSalt form.random)).isSome = true := by
    rw [generateClaimSalt, text, Backend.Webhook.bytes32OfText_ofList complete, read]
    rfl
  have amount : 0 < (form.body keccak).declaredAmount := positive
  have salt : (form.body keccak).merkleSalt = some (generateClaimSalt form.random) := rfl
  simp only [CreateClaimRequest.acceptable, placeholderMerkleRoot_form, salt,
    Backend.Webhook.wellFormedText, Option.all_some, Backend.Webhook.bytes32OfText_hexText,
    salted, amount, Option.isSome_some, Option.isNone_some, decide_true, Bool.and_self]

/-- Without a collision, filings with different salts have different roots. -/
theorem salt_of_root {keccak : Bytes → Digest} {forms : List Form}
    (collisionFree : CollisionFree keccak (forms.map Form.hashed)) {first second : Form}
    (firstMember : first ∈ forms) (secondMember : second ∈ forms)
    (same : first.root keccak = second.root keccak) : first.random = second.random := by
  have strings := collisionFree _ (List.mem_map_of_mem firstMember) _
    (List.mem_map_of_mem secondMember) same
  have bytes := (List.append_inj strings
    (first.random.full.trans second.random.full.symm)).1
  cases firstSalt : first.random
  cases secondSalt : second.random
  rw [firstSalt, secondSalt] at bytes
  simp only at bytes
  subst bytes
  rfl

/-! ### Filings and notifications -/

inductive Step where
  | file (form : Form)
  | notify (payload : OnchainEventNotification)

inductive Answer where
  | filed (response : Backend.Webhook.CreateResponse)
  | notified (response : Backend.Webhook.Response)
  deriving DecidableEq

def serve (keccak : Bytes → Digest) (db : Database) : Step → Except Empty (Database × Answer)
  | .file form =>
      let (next, response) := createClaim (form.body keccak) form.claimant db
      .ok (next, .filed response)
  | .notify payload =>
      let (next, response) := receiveOnchainEvent payload db
      .ok (next, .notified response)

def Step.form : Step → Option Form
  | .file form => some form
  | .notify _ => none

def forms (steps : List Step) : List Form := steps.filterMap Step.form

/-! ### The table of filings it stands for -/

/-- A filing and the last report on it. -/
structure Filing where
  id : Nat
  form : Form
  report : Option (OnchainEventNotification × Backend.ClaimStatus)

def Filing.row (keccak : Bytes → Digest) (filing : Filing) : Claim where
  id := filing.id
  policyId := filing.form.policyId
  claimantAddress := filing.form.claimant
  declaredAmount := filing.form.declaredAmount
  merkleRoot := some (hexText (filing.form.root keccak))
  merkleSalt := some (generateClaimSalt filing.form.random)
  status := (filing.report.map Prod.snd).getD .draft
  onchainClaimId := filing.report.map fun report => report.1.onchainClaimId
  txHash := filing.report.map fun report => report.1.txHash

def Filing.about (keccak : Bytes → Digest) (filing : Filing) (text : String) : Prop :=
  hexText (filing.form.root keccak) = text

instance (keccak : Bytes → Digest) (filing : Filing) (text : String) :
    Decidable (filing.about keccak text) :=
  inferInstanceAs (Decidable (_ = _))

/-- A report goes to its own filing. -/
def Filing.reported (keccak : Bytes → Digest) (payload : OnchainEventNotification)
    (filing : Filing) : Filing :=
  match claimStatusOfText payload.status with
  | some status =>
      if filing.about keccak payload.merkleRoot then
        { filing with report := some (payload, status) }
      else filing
  | none => filing

/-- What the steps mean for the table of filings. -/
def track (keccak : Bytes → Digest) (filings : List Filing) : Step → List Filing
  | .file form =>
      if 0 < form.declaredAmount then filings ++ [⟨filings.length + 1, form, none⟩] else filings
  | .notify payload => filings.map (Filing.reported keccak payload)

def filings (keccak : Bytes → Digest) (steps : List Step) : List Filing :=
  steps.foldl (track keccak) []

/-! ### Refinement -/

/-- The rows are those of the filings, which have ids and roots of their own. -/
structure Refines (keccak : Bytes → Digest) (known : List Form) (db : Database)
    (table : List Filing) : Prop where
  rows : db.claims = table.map (Filing.row keccak)
  ids : (table.map Filing.id).Nodup
  bounded : ∀ filing ∈ table, filing.id ≤ table.length
  forms : (table.map Filing.form).Sublist known

section Steps

variable {keccak : Bytes → Digest} {known : List Form} {db : Database} {table : List Filing}

@[simp] theorem reported_id (payload : OnchainEventNotification) (filing : Filing) :
    (filing.reported keccak payload).id = filing.id := by
  unfold Filing.reported
  split
  · split
    · rfl
    · rfl
  · rfl

@[simp] theorem reported_form (payload : OnchainEventNotification) (filing : Filing) :
    (filing.reported keccak payload).form = filing.form := by
  unfold Filing.reported
  split
  · split
    · rfl
    · rfl
  · rfl

theorem withRoot_rows (refines : Refines keccak known db table) (text : String) :
    db.withRoot text =
      (table.filter fun filing => decide (filing.about keccak text)).map (Filing.row keccak) := by
  rw [Backend.Webhook.Database.withRoot, refines.rows, List.filter_map]
  congr 2
  funext filing
  exact decide_eq_decide.mpr (Iff.of_eq (Option.some.injEq _ _))

/-- At most one filing is meant by a text. -/
theorem one_filing_about (refines : Refines keccak known db table)
    (salts : (known.map Form.random).Nodup)
    (collisionFree : CollisionFree keccak (known.map Form.hashed)) (text : String) :
    (table.filter fun filing => decide (filing.about keccak text)) = [] ∨
      ∃ filing ∈ table, filing.about keccak text ∧
        (table.filter fun filing => decide (filing.about keccak text)) = [filing] := by
  have drawn : (table.map fun filing => filing.form.random).Nodup := by
    have sublist := (refines.forms.map Form.random).nodup salts
    rw [List.map_map] at sublist
    exact sublist
  have meant : ∀ filing ∈ table.filter (fun filing => decide (filing.about keccak text)),
      filing ∈ table ∧ filing.about keccak text := by
    intro filing member
    obtain ⟨present, about⟩ := List.mem_filter.mp member
    exact ⟨present, of_decide_eq_true about⟩
  have chosen : ((table.filter fun filing => decide (filing.about keccak text)).map
      fun filing => filing.form.random).Nodup := (List.filter_sublist.map _).nodup drawn
  generalize (table.filter fun filing => decide (filing.about keccak text)) = found at *
  match found with
  | [] => exact Or.inl rfl
  | [filing] =>
      obtain ⟨present, about⟩ := meant filing List.mem_cons_self
      exact Or.inr ⟨filing, present, about, rfl⟩
  | first :: second :: rest =>
      obtain ⟨firstPresent, firstAbout⟩ := meant first List.mem_cons_self
      obtain ⟨secondPresent, secondAbout⟩ :=
        meant second (List.mem_cons_of_mem _ List.mem_cons_self)
      have sameRoot : first.form.root keccak = second.form.root keccak :=
        Backend.Webhook.hexText_injective (firstAbout.trans secondAbout.symm)
      have sameSalt := salt_of_root collisionFree
        (refines.forms.subset (List.mem_map_of_mem firstPresent))
        (refines.forms.subset (List.mem_map_of_mem secondPresent)) sameRoot
      refine absurd ?_ (List.nodup_cons.mp chosen).1
      show first.form.random ∈ _
      rw [sameSalt]
      exact List.mem_cons_self

theorem refines_file (refines : Refines keccak known db table) (form : Form) :
    Refines keccak (known ++ [form]) (createClaim (form.body keccak) form.claimant db).1
      (track keccak table (.file form)) := by
  by_cases positive : 0 < form.declaredAmount
  · have row : (createClaim (form.body keccak) form.claimant db).1 =
        ⟨db.claims ++ [Filing.row keccak ⟨table.length + 1, form, none⟩]⟩ := by
      rw [createClaim, if_pos (form_acceptable keccak positive)]
      simp only [placeholderMerkleRoot_form, refines.rows, List.length_map]
      rfl
    rw [row, track, if_pos positive]
    refine ⟨?_, ?_, ?_, ?_⟩
    · rw [List.map_append, refines.rows]
      rfl
    · rw [List.map_append, List.map_singleton]
      apply List.nodup_append.mpr
      refine ⟨refines.ids, List.nodup_singleton _, ?_⟩
      intro id old other new same
      obtain ⟨filing, member, rfl⟩ := List.mem_map.mp old
      rw [List.mem_singleton.mp new] at same
      change filing.id = table.length + 1 at same
      have bound := refines.bounded filing member
      omega
    · intro filing member
      rw [List.length_append, List.length_singleton]
      rcases List.mem_append.mp member with old | new
      · exact Nat.le_succ_of_le (refines.bounded filing old)
      · rw [List.mem_singleton.mp new]
    · rw [List.map_append]
      exact refines.forms.append (List.Sublist.refl _)
  · have refused : ¬(form.body keccak).acceptable = true := by
      have amount : ¬0 < (form.body keccak).declaredAmount := positive
      simp only [CreateClaimRequest.acceptable, amount, decide_false, Bool.false_and,
        Bool.false_eq_true, not_false_eq_true]
    rw [createClaim, if_neg refused, track, if_neg positive]
    exact ⟨refines.rows, refines.ids, refines.bounded,
      refines.forms.trans (List.sublist_append_left _ _)⟩

/-- Rewriting the one row that is meant is the same as reporting to every filing
that is meant. -/
theorem update_rows (refines : Refines keccak known db table)
    {payload : OnchainEventNotification} {status : Backend.ClaimStatus} {filing : Filing}
    (recognized : claimStatusOfText payload.status = some status) (present : filing ∈ table)
    (about : filing.about keccak payload.merkleRoot)
    (only : (table.filter fun other => decide (other.about keccak payload.merkleRoot)) =
      [filing]) :
    (db.update ((filing.row keccak).notified payload status)).claims =
      (table.map (Filing.reported keccak payload)).map (Filing.row keccak) := by
  show (db.claims.map fun other =>
    if other.id = filing.id then (filing.row keccak).notified payload status else other) = _
  rw [refines.rows, List.map_map, List.map_map]
  apply List.map_congr_left
  intro other member
  show (if other.id = filing.id then (filing.row keccak).notified payload status
    else other.row keccak) = (other.reported keccak payload).row keccak
  by_cases same : other.id = filing.id
  · have equal : other = filing := List.inj_on_of_nodup_map refines.ids member present same
    rw [if_pos same, equal, Filing.reported, recognized]
    dsimp only
    rw [if_pos about]
    rfl
  · have elsewhere : ¬other.about keccak payload.merkleRoot := by
      intro meant
      have chosen : other ∈ table.filter fun other =>
          decide (other.about keccak payload.merkleRoot) :=
        List.mem_filter.mpr ⟨member, decide_eq_true meant⟩
      rw [only, List.mem_singleton] at chosen
      exact same (congrArg Filing.id chosen)
    rw [if_neg same, Filing.reported, recognized]
    dsimp only
    rw [if_neg elsewhere]

theorem refines_of_rows (refines : Refines keccak known db table)
    (payload : OnchainEventNotification) {next : Database}
    (rows : next.claims = (table.map (Filing.reported keccak payload)).map (Filing.row keccak)) :
    Refines keccak known next (table.map (Filing.reported keccak payload)) := by
  refine ⟨rows, ?_, ?_, ?_⟩
  · have sameIds : (table.map (Filing.reported keccak payload)).map Filing.id =
        table.map Filing.id := by
      rw [List.map_map]
      exact List.map_congr_left fun filing _ => reported_id payload filing
    rw [sameIds]
    exact refines.ids
  · intro filing member
    obtain ⟨before, present, rfl⟩ := List.mem_map.mp member
    rw [reported_id, List.length_map]
    exact refines.bounded before present
  · have sameForms : (table.map (Filing.reported keccak payload)).map Filing.form =
        table.map Filing.form := by
      rw [List.map_map]
      exact List.map_congr_left fun filing _ => reported_form payload filing
    rw [sameForms]
    exact refines.forms

theorem refines_notify (refines : Refines keccak known db table)
    (salts : (known.map Form.random).Nodup)
    (collisionFree : CollisionFree keccak (known.map Form.hashed))
    (payload : OnchainEventNotification) :
    Refines keccak known (receiveOnchainEvent payload db).1
        (table.map (Filing.reported keccak payload)) ∧
      (receiveOnchainEvent payload db).2 ≠ .multipleResultsFound := by
  have unchanged : (∀ filing ∈ table, filing.reported keccak payload = filing) →
      db.claims = (table.map (Filing.reported keccak payload)).map (Filing.row keccak) := by
    intro same
    rw [refines.rows, List.map_congr_left same, List.map_id']
  have selected := withRoot_rows refines payload.merkleRoot
  rcases one_filing_about refines salts collisionFree payload.merkleRoot with
    none | ⟨filing, present, about, only⟩
  · rw [none, List.map_nil] at selected
    rw [receiveOnchainEvent, selected]
    refine ⟨refines_of_rows refines payload (unchanged ?_), ?_⟩
    · intro other member
      have elsewhere : ¬other.about keccak payload.merkleRoot := by
        intro meant
        have chosen : other ∈ table.filter fun other =>
            decide (other.about keccak payload.merkleRoot) :=
          List.mem_filter.mpr ⟨member, decide_eq_true meant⟩
        rw [none] at chosen
        cases chosen
      unfold Filing.reported
      split
      · exact if_neg elsewhere
      · rfl
    · intro ambiguous
      cases ambiguous
  · rw [only, List.map_singleton] at selected
    rw [receiveOnchainEvent, selected]
    dsimp only
    cases recognized : claimStatusOfText payload.status with
    | some status =>
        refine ⟨refines_of_rows refines payload
          (update_rows refines recognized present about only), ?_⟩
        intro ambiguous
        cases ambiguous
    | none =>
        refine ⟨refines_of_rows refines payload (unchanged ?_), ?_⟩
        · intro other _
          rw [Filing.reported, recognized]
        · intro ambiguous
          cases ambiguous

end Steps

theorem forms_snoc (steps : List Step) (step : Step) :
    forms (steps ++ [step]) = forms steps ++ forms [step] :=
  List.filterMap_append

theorem filings_snoc (keccak : Bytes → Digest) (steps : List Step) (step : Step) :
    filings keccak (steps ++ [step]) = track keccak (filings keccak steps) step := by
  simp only [filings, List.foldl_append, List.foldl_cons, List.foldl_nil]

theorem refines_run {keccak : Bytes → Digest} {steps : List Step}
    (salts : ((forms steps).map Form.random).Nodup)
    (collisionFree : CollisionFree keccak ((forms steps).map Form.hashed)) :
    Refines keccak (forms steps) (Transactions.run (serve keccak) ⟨[]⟩ steps)
        (filings keccak steps) ∧
      ∀ commit ∈ Transactions.history (serve keccak) ⟨[]⟩ steps,
        commit.output ≠ .notified .multipleResultsFound := by
  induction steps using List.reverseRecOn with
  | nil =>
      refine ⟨⟨rfl, List.nodup_nil, ?_, List.Sublist.refl _⟩, ?_⟩
      · intro filing member
        exact absurd member List.not_mem_nil
      · intro commit member
        exact absurd member List.not_mem_nil
  | append_singleton steps step ih =>
      rw [forms_snoc, List.map_append] at salts collisionFree
      have earlier : CollisionFree keccak ((forms steps).map Form.hashed) := by
        intro left leftMember right rightMember
        exact collisionFree left (List.mem_append_left _ leftMember) right
          (List.mem_append_left _ rightMember)
      have drawn := (List.nodup_append.mp salts).1
      obtain ⟨refines, answers⟩ := ih drawn earlier
      rw [run_snoc, history_snoc, forms_snoc, filings_snoc]
      cases step with
      | file form =>
          rw [settle_of_ok rfl, committed_of_ok rfl]
          refine ⟨refines_file refines form, ?_⟩
          intro commit member
          rcases List.mem_append.mp member with old | new
          · exact answers commit old
          · rw [List.mem_singleton.mp new]
            intro ambiguous
            cases ambiguous
      | notify payload =>
          obtain ⟨next, answer⟩ := refines_notify refines drawn earlier payload
          rw [settle_of_ok rfl, committed_of_ok rfl]
          refine ⟨?_, ?_⟩
          · show Refines keccak (forms steps ++ []) _ _
            rw [List.append_nil]
            exact next
          · intro commit member
            rcases List.mem_append.mp member with old | new
            · exact answers commit old
            · rw [List.mem_singleton.mp new]
              exact fun ambiguous => answer (Answer.notified.inj ambiguous)

/-- In every interleaving of filings from the form and notifications, with salts
that do not repeat, the claims table is the table of filings: each row holds what
was last reported for the root of its own filing, and no notification is ever
ambiguous.  The transaction of a filing, where its numbers can be encoded, carries
that root to the chain. -/
theorem notifications_reach_their_filing (keccak : Bytes → Digest) (steps : List Step)
    (salts : ((forms steps).map Form.random).Nodup)
    (collisionFree : CollisionFree keccak ((forms steps).map Form.hashed)) :
    (Transactions.run (serve keccak) ⟨[]⟩ steps).claims =
        (filings keccak steps).map (Filing.row keccak) ∧
      (∀ commit ∈ Transactions.history (serve keccak) ⟨[]⟩ steps,
        commit.output ≠ .notified .multipleResultsFound) ∧
      ∀ filing ∈ filings keccak steps, ∀ (units : Units) (claimRegistryAddress : Address)
        (amountWei : Nat) (merkleRoot : String), claimRegistryAddress ≠ 0 →
        units.parseEther filing.form.amount = some amountWei →
        (filing.row keccak).merkleRoot = some merkleRoot →
        submitClaimOnChain units (some claimRegistryAddress) filing.form.policyId merkleRoot
            filing.form.amount =
          if filing.form.policyId < 2 ^ 53 ∧ amountWei < wordBound then
            .ok (.submitClaim filing.form.policyId (filing.form.root keccak) amountWei)
          else .error .invalidArgument := by
  obtain ⟨refines, answers⟩ := refines_run salts collisionFree
  refine ⟨refines.rows, answers, ?_⟩
  intro filing _ units claimRegistryAddress amountWei merkleRoot configured parsed sent
  rw [Filing.row, ← placeholderMerkleRoot_form] at sent
  exact submitClaimOnChain_form keccak filing.form configured parsed sent

def sampleSalt (byte : UInt8) : Salt :=
  ⟨List.replicate 32 byte, List.length_replicate⟩

/-- Two users file with the same words. -/
def sampleForm (claimant : Address) (byte : UInt8) : Form where
  claimant := claimant
  policyId := 7
  declaredAmount := 500
  amount := "500"
  description := "flight cancelled"
  random := sampleSalt byte

/-- The digests of the two filings. -/
def sampleKeccak (bytes : Bytes) : Digest :=
  if bytes = (sampleForm 0xA1 0x11).hashed then
    0x2e6580018be82fbb07d8900352c899846fd494831aaea561ad62008374565bdd
  else if bytes = (sampleForm 0xB2 0x22).hashed then
    0x3b2999832e518d2207430c3040ecd99dd4d1b3cc00e69c7c4650446877276526
  else 0

def sampleNotification (root : Bytes32) (onchainClaimId : Int) : OnchainEventNotification where
  eventName := none
  onchainClaimId := onchainClaimId
  merkleRoot := hexText root
  txHash := hexText 9
  status := "submitted"

/-- The second claim is reported before the first, and one that was never filed. -/
def sampleSteps : List Step :=
  [.file (sampleForm 0xA1 0x11), .file (sampleForm 0xB2 0x22),
   .notify (sampleNotification ((sampleForm 0xB2 0x22).root sampleKeccak) 1),
   .notify (sampleNotification ((sampleForm 0xA1 0x11).root sampleKeccak) 2),
   .notify (sampleNotification 3 4)]

theorem notifications_reach_their_filing_sample :
    ((Transactions.run (serve sampleKeccak) ⟨[]⟩ sampleSteps).claims.map fun row =>
        (row.claimantAddress, row.onchainClaimId)) = [(0xA1, some 2), (0xB2, some 1)] ∧
      (Transactions.run (serve sampleKeccak) ⟨[]⟩ sampleSteps).claims =
        (filings sampleKeccak sampleSteps).map (Filing.row sampleKeccak) := by
  have collisionFree : CollisionFree sampleKeccak ((forms sampleSteps).map Form.hashed) := by
    unfold CollisionFree
    decide +kernel
  exact ⟨by decide +kernel,
    (notifications_reach_their_filing sampleKeccak sampleSteps (by decide +kernel)
      collisionFree).1⟩

end Dics.Frontend
