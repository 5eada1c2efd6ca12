/-
The endpoint that serves a claim's Merkle root.

The root is computed again from the recorded hashes at every request, in
whatever order the database returns them.  Whatever was uploaded before, it is
the root over the accepted uploads of the claim, whose bytes are still on disk.
-/

import Dics.Documents.Evidence
import Dics.Documents.Uploads
import Dics.Lib.Texts
import Mathlib.Data.List.Perm.Basic

open Paths TypedData Texts

namespace Dics.DocumentService

/-! ### The endpoint -/

/-- `hex.Replace("0x", "")`. -/
def replaceMarker : List Char → List Char
  | '0' :: 'x' :: rest => replaceMarker rest
  | letter :: rest => letter :: replaceMarker rest
  | [] => []

/-- `Convert.FromHexString`; `none` is its `FormatException`. -/
def fromHexString : List Char → Option Bytes
  | [] => some []
  | [_] => none
  | high :: low :: rest => do
      let first ← hexDigit high
      let second ← hexDigit low
      let bytes ← fromHexString rest
      return UInt8.ofNat (first * 16 + second) :: bytes

inductive RootResponse where
  | ok (claimId : Int64) (documentCount : Nat) (merkleRoot : List Char)
  | notFound (detail : String)
  | formatException
  | raised (error : MerkleTreeService.Error)
  deriving DecidableEq

/-- The handler on the rows that the query returned. -/
def getMerkleRoot (keccak : Bytes → Digest) (claimId : Int64) (rows : List ClaimDocument) :
    RootResponse :=
  if rows.length = 0 then
    .notFound ("No documents uploaded for claim " ++ String.ofList (longText claimId) ++ ".")
  else
    match rows.mapM (fun row => fromHexString (replaceMarker row.keccakHash)) with
    | none => .formatException
    | some leaves =>
        match MerkleTreeService.computeRoot keccak leaves with
        | .ok root => .ok claimId leaves.length (toHex root)
        | .error error => .raised error

/-- The rows of a claim in any order: the query has no `ORDER BY`. -/
def Selected (documents : List ClaimDocument) (claimId : Int64) (rows : List ClaimDocument) :
    Prop :=
  rows.Perm (documents.filter fun document => decide (document.claimId = claimId))

/-! ### Hashes as texts -/

theorem replaceMarker_of_notMem {letters : List Char} (plain : 'x' ∉ letters) :
    replaceMarker letters = letters := by
  induction letters with
  | nil => rfl
  | cons letter rest ih =>
      have later := ih (fun member => plain (List.mem_cons_of_mem _ member))
      unfold replaceMarker
      split
      · rename_i same
        cases same
        exact absurd (List.mem_cons_of_mem _ List.mem_cons_self) plain
      · rename_i same
        cases same
        rw [later]
      · rename_i same
        cases same

theorem digitChar_ne_marker (digit : Fin 16) : Nat.digitChar digit.val ≠ 'x' := by
  revert digit
  decide

theorem fromHexString_digits (bytes : Bytes) :
    fromHexString (bytes.flatMap fun byte =>
      [Nat.digitChar (byte.toNat / 16), Nat.digitChar (byte.toNat % 16)]) = some bytes := by
  induction bytes with
  | nil => rfl
  | cons byte rest ih =>
      rw [List.flatMap_cons, List.cons_append, List.cons_append, List.nil_append, fromHexString,
        hexDigit_high, hexDigit_low, ih]
      show some (UInt8.ofNat (byte.toNat / 16 * 16 + byte.toNat % 16) :: rest) = _
      rw [ofNat_digits]

/-- A recorded hash is read back as it was. -/
theorem fromHexString_toHex (hash : Bytes) :
    fromHexString (replaceMarker (toHex hash)) = some hash := by
  have plain : 'x' ∉ hash.flatMap fun byte =>
      [Nat.digitChar (byte.toNat / 16), Nat.digitChar (byte.toNat % 16)] := by
    intro member
    obtain ⟨byte, _, digit⟩ := List.mem_flatMap.mp member
    have bounded : byte.toNat < 256 := byte.toNat_lt
    rcases List.mem_cons.mp digit with high | later
    · exact digitChar_ne_marker ⟨byte.toNat / 16, by omega⟩ high.symm
    · exact digitChar_ne_marker ⟨byte.toNat % 16, by omega⟩ (List.mem_singleton.mp later).symm
  rw [toHex, replaceMarker, replaceMarker_of_notMem plain]
  exact fromHexString_digits hash

/-! ### Accepted uploads -/

namespace DocumentUploadService

variable (keccak : Bytes → Digest) (currentDirectory : List Char) (storage : LocalFileStorage)

/-- The requests that were answered with a document. -/
def accepted : List Request → World → List Request
  | [], _ => []
  | request :: rest, world =>
      let (answer, next) := uploadAsync keccak currentDirectory storage request world
      (if answer.toBool then [request] else []) ++ accepted rest next

variable {keccak currentDirectory storage}

theorem accepted_cons (request : Request) (rest : List Request) (world : World) :
    accepted keccak currentDirectory storage (request :: rest) world =
      (if (uploadAsync keccak currentDirectory storage request world).1.toBool then
        [request] else []) ++
      accepted keccak currentDirectory storage rest
        (uploadAsync keccak currentDirectory storage request world).2 := rfl

theorem saveAsync_path {request : Request} {disk after : Disk} {storagePath : List Char}
    (saved : storage.saveAsync currentDirectory request disk = (.ok storagePath, after)) :
    storagePath = storage.fullPath request.upload := by
  rcases storage.saveAsync_cases currentDirectory request disk with
    ⟨raised, failed, _⟩ | ⟨_, _, path, _⟩
  · rw [saved] at failed
    cases failed
  · rw [saved] at path
    exact Except.ok.inj path

/-- An upload is recorded exactly if it is answered with a document. -/
theorem uploadAsync_documents (request : Request) (world : World) :
    (uploadAsync keccak currentDirectory storage request world).2.documents =
      world.documents ++
        (if (uploadAsync keccak currentDirectory storage request world).1.toBool then
          [documentOf keccak request (storage.fullPath request.upload)] else []) := by
  unfold uploadAsync
  split
  · exact (List.append_nil _).symm
  · split
    · exact (List.append_nil _).symm
    · rename_i storagePath disk saved
      rw [saveAsync_path saved]
      split
      · rfl
      · exact (List.append_nil _).symm

theorem run_documents (requests : List Request) (world : World) :
    (run keccak currentDirectory storage requests world).documents =
      world.documents ++ (accepted keccak currentDirectory storage requests world).map
        fun request => documentOf keccak request (storage.fullPath request.upload) := by
  induction requests generalizing world with
  | nil => exact (List.append_nil _).symm
  | cons request rest ih =>
      have later := ih (uploadAsync keccak currentDirectory storage request world).2
      rw [uploadAsync_documents] at later
      show (run keccak currentDirectory storage rest
        (uploadAsync keccak currentDirectory storage request world).2).documents = _
      rw [later, List.append_assoc]
      congr 1
      rw [accepted_cons, List.map_append]
      split
      · rfl
      · rfl

theorem accepted_subset (requests : List Request) (world : World) :
    accepted keccak currentDirectory storage requests world ⊆ requests := by
  induction requests generalizing world with
  | nil => exact List.Subset.refl _
  | cons request rest ih =>
      rw [accepted_cons]
      intro other found
      rcases List.mem_append.mp found with now | later
      · have same : other = request := by
          split at now
          · exact List.mem_singleton.mp now
          · cases now
        exact List.mem_cons.mpr (Or.inl same)
      · exact List.mem_cons_of_mem _ (ih _ later)

/-- The bytes of an accepted upload are still where they were stored. -/
theorem accepted_stored {requests : List Request} (disk : Disk)
    (guids : (requests.map fun request => request.upload.guid).Nodup)
    (harmless : ∀ request ∈ requests, LocalFileStorage.Harmless request.upload.fileName)
    {request : Request}
    (member : request ∈ accepted keccak currentDirectory storage requests ⟨disk, []⟩) :
    LocalFileStorage.readAsync currentDirectory (storage.fullPath request.upload)
      (run keccak currentDirectory storage requests ⟨disk, []⟩).disk = .ok request.content := by
  have asked := accepted_subset requests ⟨disk, []⟩ member
  have recorded : documentOf keccak request (storage.fullPath request.upload) ∈
      (run keccak currentDirectory storage requests ⟨disk, []⟩).documents := by
    rw [run_documents]
    exact List.mem_append_right _ (List.mem_map_of_mem member)
  obtain ⟨other, otherAsked, location, same, opened, stored⟩ :=
    run_backed disk guids harmless _ recorded
  have path : storage.fullPath request.upload = storage.fullPath other.upload :=
    congrArg ClaimDocument.storagePath same
  have openedToo : storage.opened currentDirectory request.upload = .ok location := by
    unfold LocalFileStorage.opened at opened ⊢
    rw [path]
    exact opened
  have sameGuid : request.upload.guid = other.upload.guid := by
    by_contra different
    exact LocalFileStorage.different_of_harmless different (harmless request asked)
      (harmless other otherAsked) location openedToo opened
  have sameRequest : request = other := List.inj_on_of_nodup_map guids asked otherAsked sameGuid
  rw [sameRequest]
  exact Disk.readAllBytes_of_files opened stored

end DocumentUploadService

/-! ### The root that is served -/

open DocumentUploadService
open LocalFileStorage (sampleStorage sampleGuid)

theorem mapM_recorded (keccak : Bytes → Digest) (storage : LocalFileStorage)
    (uploads : List Request) :
    (uploads.map fun request =>
        documentOf keccak request (storage.fullPath request.upload)).mapM
          (fun row => fromHexString (replaceMarker row.keccakHash)) =
      some ((uploads.map Request.content).map (MerkleTreeService.computeLeafHash keccak)) := by
  induction uploads with
  | nil => rfl
  | cons request rest ih =>
      have read : fromHexString (replaceMarker
          (documentOf keccak request (storage.fullPath request.upload)).keccakHash) =
          some (MerkleTreeService.computeLeafHash keccak request.content) :=
        fromHexString_toHex _
      rw [List.map_cons, List.mapM_cons, read, ih]
      rfl

/-- The response speaks of exactly these uploads. -/
structure Serves (keccak : Bytes → Digest) (claimId : Int64) (uploads : List Request)
    (response : RootResponse) : Prop where
  missing : uploads = [] → response =
    .notFound ("No documents uploaded for claim " ++ String.ofList (longText claimId) ++ ".")
  root : uploads ≠ [] → ∃ root,
    MerkleTreeService.documentRoot keccak (uploads.map Request.content) = .ok root ∧
      response = .ok claimId uploads.length (toHex root)

theorem serves_of_recorded (keccak : Bytes → Digest) (storage : LocalFileStorage)
    (claimId : Int64) (uploads : List Request) :
    Serves keccak claimId uploads (getMerkleRoot keccak claimId (uploads.map fun request =>
      documentOf keccak request (storage.fullPath request.upload))) := by
  constructor
  · rintro rfl
    rfl
  · intro filled
    have leaves : (uploads.map Request.content).map
        (MerkleTreeService.computeLeafHash keccak) ≠ [] := by
      simp only [ne_eq, List.map_eq_nil_iff, filled, not_false_eq_true]
    obtain ⟨root, _, computed⟩ := MerkleTreeService.climb_root keccak leaves
    refine ⟨root, computed, ?_⟩
    have some : uploads.length ≠ 0 := fun empty => filled (List.eq_nil_of_length_eq_zero empty)
    rw [getMerkleRoot, List.length_map, if_neg some, mapM_recorded]
    dsimp only
    rw [computed]
    simp only [List.length_map]

/-- After any sequence of uploads, failed ones included, the endpoint serves the
Merkle root over exactly the accepted uploads of the claim, and each of these
can still be read back as it was uploaded. -/
theorem served_root_is_of_stored_documents (keccak : Bytes → Digest)
    (currentDirectory : List Char) (storage : LocalFileStorage) (disk : Disk)
    (requests : List Request)
    (guids : (requests.map fun request => request.upload.guid).Nodup)
    (harmless : ∀ request ∈ requests, LocalFileStorage.Harmless request.upload.fileName)
    (claimId : Int64) (rows : List ClaimDocument)
    (selected : Selected (run keccak currentDirectory storage requests ⟨disk, []⟩).documents
      claimId rows) :
    ∃ uploads : List Request,
      uploads.Perm ((accepted keccak currentDirectory storage requests ⟨disk, []⟩).filter
        fun request => decide (request.upload.claimId = claimId)) ∧
      (∀ request ∈ uploads,
        LocalFileStorage.readAsync currentDirectory (storage.fullPath request.upload)
          (run keccak currentDirectory storage requests ⟨disk, []⟩).disk =
            .ok request.content) ∧
      Serves keccak claimId uploads (getMerkleRoot keccak claimId rows) := by
  unfold Selected at selected
  rw [run_documents, List.nil_append, List.filter_map] at selected
  obtain ⟨uploads, rfl, order⟩ :=
    (congrFun (congrFun (List.eq_map_comp_perm _) rows) _).mpr selected
  refine ⟨uploads, order, ?_, serves_of_recorded keccak storage claimId uploads⟩
  intro request member
  exact accepted_stored disk guids harmless (List.mem_of_mem_filter (order.subset member))

def sampleRequest (fileName : String) (digit : Fin 16) (content : Bytes) : Request where
  upload := ⟨7, fileName.toList, sampleGuid digit⟩
  contentType := "application/pdf"
  content := content
  permits _ := true
  saves := true

/-- Two documents, and an empty one in between that is refused. -/
def sampleRequests : List Request :=
  [sampleRequest "a.pdf" 3 (asciiBytes "document A"), sampleRequest "empty.pdf" 5 [],
   sampleRequest "b.pdf" 10 (asciiBytes "document B")]

def sampleDisk : Disk where
  isDirectory _ := false
  files _ := none

theorem served_root_is_of_stored_documents_sample :
    (accepted MerkleTreeService.keccakSample "/app".toList sampleStorage sampleRequests
        ⟨sampleDisk, []⟩).map Request.content =
        [asciiBytes "document A", asciiBytes "document B"] ∧
      ∃ uploads : List Request,
        uploads.Perm ((accepted MerkleTreeService.keccakSample "/app".toList sampleStorage
          sampleRequests ⟨sampleDisk, []⟩).filter
            fun request => decide (request.upload.claimId = 7)) ∧
        (∀ request ∈ uploads,
          LocalFileStorage.readAsync "/app".toList (sampleStorage.fullPath request.upload)
            (run MerkleTreeService.keccakSample "/app".toList sampleStorage sampleRequests
              ⟨sampleDisk, []⟩).disk = .ok request.content) ∧
        Serves MerkleTreeService.keccakSample 7 uploads
          (getMerkleRoot MerkleTreeService.keccakSample 7
            (run MerkleTreeService.keccakSample "/app".toList sampleStorage sampleRequests
              ⟨sampleDisk, []⟩).documents.reverse) := by
  refine ⟨by decide +kernel, ?_⟩
  refine served_root_is_of_stored_documents MerkleTreeService.keccakSample "/app".toList
    sampleStorage sampleDisk sampleRequests (by decide +kernel) (by decide +kernel) 7 _ ?_
  have all : (run MerkleTreeService.keccakSample "/app".toList sampleStorage sampleRequests
      ⟨sampleDisk, []⟩).documents.filter (fun document => decide (document.claimId = 7)) =
      (run MerkleTreeService.keccakSample "/app".toList sampleStorage sampleRequests
        ⟨sampleDisk, []⟩).documents :=
    List.filter_eq_self.mpr (by decide +kernel)
  unfold Selected
  rw [all]
  exact List.reverse_perm _

end Dics.DocumentService
