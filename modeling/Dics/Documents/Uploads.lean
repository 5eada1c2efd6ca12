/-
Uploads and the files behind the recorded hashes.

`DocumentUploadService` hashes an upload, stores it and records the hash and
the path.  Nothing is ever deleted, so a recorded hash stays the hash of the
bytes at its path as long as no later upload is stored over them.
-/

import Dics.Documents.Merkle
import Dics.Documents.Storage

open Paths TypedData

namespace Dics.DocumentService

structure Disk where
  isDirectory : Location → Bool
  files : Location → Option Bytes

namespace Disk

/-- `Directory.CreateDirectory`, which also creates the directories on the way.
`permits` is what the operating system has to say beyond that. -/
def createDirectory (currentDirectory : List Char) (permits : List Char → Bool)
    (path : List Char) (disk : Disk) : Except Raised Disk :=
  match getFullPath currentDirectory path with
  | .error raised => .error raised
  | .ok location =>
      if location.tails.any (fun place => (disk.files place).isSome) then .error .ioException
      else if permits path = false then .error .unauthorizedAccess
      else .ok { disk with
        isDirectory := fun place => disk.isDirectory place || decide (place <:+ location) }

/-- `File.Create`, which empties a file that is there, and the copy into the stream. -/
def create (currentDirectory : List Char) (permits : List Char → Bool)
    (path : List Char) (content : Bytes) (disk : Disk) : Except Raised Disk :=
  match getFullPath currentDirectory path with
  | .error raised => .error raised
  | .ok location =>
      if disk.isDirectory location then .error .unauthorizedAccess
      else if disk.isDirectory location.tail = false then .error .directoryNotFound
      else if permits path = false then .error .unauthorizedAccess
      else .ok { disk with files := Function.update disk.files location (some content) }

def readAllBytes (currentDirectory path : List Char) (disk : Disk) : Except Raised Bytes :=
  match getFullPath currentDirectory path with
  | .error raised => .error raised
  | .ok location =>
      match disk.files location with
      | some content => .ok content
      | none => .error .fileNotFound

section Effects

variable {currentDirectory path : List Char} {permits : List Char → Bool} {disk after : Disk}

theorem files_createDirectory
    (made : createDirectory currentDirectory permits path disk = .ok after) :
    after.files = disk.files := by
  unfold createDirectory at made
  split at made
  · cases made
  · split_ifs at made
    cases made
    rfl

theorem files_create {content : Bytes}
    (made : create currentDirectory permits path content disk = .ok after) :
    ∃ location, getFullPath currentDirectory path = .ok location ∧
      after.files = Function.update disk.files location (some content) := by
  unfold create at made
  split at made
  · cases made
  · rename_i location full
    split_ifs at made
    cases made
    exact ⟨location, full, rfl⟩

theorem readAllBytes_of_files {location : Location} {content : Bytes}
    (full : getFullPath currentDirectory path = .ok location)
    (stored : disk.files location = some content) :
    readAllBytes currentDirectory path disk = .ok content := by
  unfold readAllBytes
  rw [full]
  dsimp only
  rw [stored]

end Effects

end Disk

/-- One upload, and how the world around it answers. -/
structure Request where
  upload : Upload
  contentType : String
  content : Bytes
  permits : List Char → Bool
  /-- Whether `SaveChangesAsync` goes through. -/
  saves : Bool

namespace LocalFileStorage

variable (currentDirectory : List Char) (storage : LocalFileStorage)

def saveAsync (request : Request) (disk : Disk) : Except Raised (List Char) × Disk :=
  match disk.createDirectory currentDirectory request.permits
      (storage.claimDirectory request.upload.claimId) with
  | .error raised => (.error raised, disk)
  | .ok made =>
      match made.create currentDirectory request.permits (storage.fullPath request.upload)
          request.content with
      | .error raised => (.error raised, made)
      | .ok written => (.ok (storage.fullPath request.upload), written)

def readAsync (storagePath : List Char) (disk : Disk) : Except Raised Bytes :=
  disk.readAllBytes currentDirectory storagePath

/-- Either no file changes, or the one file that `File.Create` opened. -/
theorem saveAsync_cases (request : Request) (disk : Disk) :
    (∃ raised, (storage.saveAsync currentDirectory request disk).1 = .error raised ∧
      (storage.saveAsync currentDirectory request disk).2.files = disk.files) ∨
    ∃ location, storage.opened currentDirectory request.upload = .ok location ∧
      (storage.saveAsync currentDirectory request disk).1 =
        .ok (storage.fullPath request.upload) ∧
      (storage.saveAsync currentDirectory request disk).2.files =
        Function.update disk.files location (some request.content) := by
  unfold saveAsync
  split
  · rename_i raised _
    exact Or.inl ⟨raised, rfl, rfl⟩
  · rename_i made making
    have same := Disk.files_createDirectory making
    split
    · rename_i raised _
      exact Or.inl ⟨raised, rfl, same⟩
    · rename_i written writing
      obtain ⟨location, full, files⟩ := Disk.files_create writing
      rw [same] at files
      exact Or.inr ⟨location, full, rfl, files⟩

end LocalFileStorage

/-- `ToHex`. -/
def toHex (hash : Bytes) : List Char :=
  '0' :: 'x' :: hash.flatMap fun byte =>
    [Nat.digitChar (byte.toNat / 16), Nat.digitChar (byte.toNat % 16)]

structure ClaimDocument where
  claimId : Int64
  fileName : List Char
  contentType : String
  sizeBytes : Nat
  keccakHash : List Char
  storagePath : List Char

structure World where
  disk : Disk
  documents : List ClaimDocument

namespace DocumentUploadService

variable (keccak : Bytes → Digest) (currentDirectory : List Char) (storage : LocalFileStorage)

def documentOf (request : Request) (storagePath : List Char) : ClaimDocument where
  claimId := request.upload.claimId
  fileName := request.upload.fileName
  contentType := request.contentType
  sizeBytes := request.content.length
  keccakHash := toHex (MerkleTreeService.computeLeafHash keccak request.content)
  storagePath := storagePath

def uploadAsync (request : Request) (world : World) : Except Raised ClaimDocument × World :=
  if request.content.length = 0 then
    (.error (.argumentException "Uploaded file is empty." "content"), world)
  else
    match storage.saveAsync currentDirectory request world.disk with
    | (.error raised, disk) => (.error raised, { world with disk := disk })
    | (.ok storagePath, disk) =>
        if request.saves then
          (.ok (documentOf keccak request storagePath),
            { disk := disk
              documents := world.documents ++ [documentOf keccak request storagePath] })
        else (.error .dbUpdateException, { world with disk := disk })

def run (requests : List Request) (world : World) : World :=
  requests.foldl
    (fun world request => (uploadAsync keccak currentDirectory storage request world).2) world

/-- The document was recorded for one of the requests, and its bytes are still there. -/
def Backed (requests : List Request) (disk : Disk) (document : ClaimDocument) : Prop :=
  ∃ request ∈ requests, ∃ location,
    document = documentOf keccak request (storage.fullPath request.upload) ∧
    storage.opened currentDirectory request.upload = .ok location ∧
    disk.files location = some request.content

section Steps

variable {keccak currentDirectory storage} {requests : List Request} {request : Request}
variable {world : World} {document : ClaimDocument}

theorem backed_mono {more : List Request} {disk : Disk} (within : requests ⊆ more)
    (backed : Backed keccak currentDirectory storage requests disk document) :
    Backed keccak currentDirectory storage more disk document := by
  obtain ⟨earlier, member, rest⟩ := backed
  exact ⟨earlier, within member, rest⟩

theorem backed_of_files {disk after : Disk} (same : after.files = disk.files)
    (backed : Backed keccak currentDirectory storage requests disk document) :
    Backed keccak currentDirectory storage requests after document := by
  unfold Backed at backed ⊢
  rw [same]
  exact backed

/-- A write at another place leaves the document as it is. -/
theorem backed_of_update {disk after : Disk} {location : Location} {content : Bytes}
    (elsewhere : ∀ earlier ∈ requests,
      storage.opened currentDirectory earlier.upload ≠ .ok location)
    (written : after.files = Function.update disk.files location (some content))
    (backed : Backed keccak currentDirectory storage requests disk document) :
    Backed keccak currentDirectory storage requests after document := by
  obtain ⟨earlier, member, place, recorded, opened, stored⟩ := backed
  have apart : place ≠ location := by
    rintro rfl
    exact elsewhere earlier member opened
  refine ⟨earlier, member, place, recorded, opened, ?_⟩
  rw [written, Function.update_of_ne apart]
  exact stored

/-- The requests so far and the next one, all stored apart. -/
structure Fresh (requests : List Request) (request : Request) : Prop where
  harmless : LocalFileStorage.Harmless request.upload.fileName
  earlier : ∀ other ∈ requests, LocalFileStorage.Harmless other.upload.fileName
  guids : ∀ other ∈ requests, other.upload.guid ≠ request.upload.guid

theorem Fresh.elsewhere (fresh : Fresh requests request) {location : Location}
    (opened : storage.opened currentDirectory request.upload = .ok location) :
    ∀ earlier ∈ requests, storage.opened currentDirectory earlier.upload ≠ .ok location := by
  intro earlier member
  exact LocalFileStorage.different_of_harmless (fresh.guids earlier member).symm fresh.harmless
    (fresh.earlier earlier member) location opened

theorem uploadAsync_cases (request : Request) (world : World) :
    ((uploadAsync keccak currentDirectory storage request world).2.documents = world.documents ∧
      (uploadAsync keccak currentDirectory storage request world).2.disk.files =
        world.disk.files) ∨
    ∃ location, storage.opened currentDirectory request.upload = .ok location ∧
      (uploadAsync keccak currentDirectory storage request world).2.disk.files =
        Function.update world.disk.files location (some request.content) ∧
      ((uploadAsync keccak currentDirectory storage request world).2.documents =
          world.documents ∨
        (uploadAsync keccak currentDirectory storage request world).2.documents =
          world.documents ++ [documentOf keccak request (storage.fullPath request.upload)]) := by
  have saved := storage.saveAsync_cases currentDirectory request world.disk
  unfold uploadAsync
  split
  · exact Or.inl ⟨rfl, rfl⟩
  · generalize storage.saveAsync currentDirectory request world.disk = result at saved
    obtain ⟨answer, disk⟩ := result
    rcases saved with ⟨raised, failed, same⟩ | ⟨location, opened, stored, files⟩
    · dsimp only at failed same
      rw [failed]
      exact Or.inl ⟨rfl, same⟩
    · dsimp only at stored files
      rw [stored]
      right
      refine ⟨location, opened, ?_⟩
      dsimp only
      split
      · exact ⟨files, Or.inr rfl⟩
      · exact ⟨files, Or.inl rfl⟩

/-- The new document is backed by the bytes just written, and no earlier one loses its own. -/
theorem uploadAsync_backed (fresh : Fresh requests request)
    (backed : ∀ document ∈ world.documents,
      Backed keccak currentDirectory storage requests world.disk document) :
    ∀ document ∈ (uploadAsync keccak currentDirectory storage request world).2.documents,
      Backed keccak currentDirectory storage (requests ++ [request])
        (uploadAsync keccak currentDirectory storage request world).2.disk document := by
  intro document member
  have earlier : requests ⊆ requests ++ [request] := List.subset_append_left _ _
  rcases @uploadAsync_cases keccak currentDirectory storage request world with
    ⟨documents, files⟩ | ⟨location, opened, files, recorded⟩
  · rw [documents] at member
    exact backed_mono earlier (backed_of_files files (backed document member))
  · have kept : ∀ document ∈ world.documents,
        Backed keccak currentDirectory storage (requests ++ [request])
          (uploadAsync keccak currentDirectory storage request world).2.disk document := by
      intro document member
      exact backed_mono earlier
        (backed_of_update (fresh.elsewhere opened) files (backed document member))
    rcases recorded with documents | documents
    · rw [documents] at member
      exact kept document member
    · rw [documents, List.mem_append, List.mem_singleton] at member
      rcases member with before | rfl
      · exact kept document before
      · refine ⟨request, List.mem_append_right _ List.mem_cons_self, location, rfl, opened, ?_⟩
        rw [files, Function.update_self]

end Steps

section Runs

variable {keccak currentDirectory storage} {requests : List Request}

theorem run_append_single (requests : List Request) (request : Request) (world : World) :
    run keccak currentDirectory storage (requests ++ [request]) world =
      (uploadAsync keccak currentDirectory storage request
        (run keccak currentDirectory storage requests world)).2 := by
  rw [run, List.foldl_append]
  rfl

theorem run_backed (disk : Disk)
    (guids : (requests.map fun request => request.upload.guid).Nodup)
    (harmless : ∀ request ∈ requests, LocalFileStorage.Harmless request.upload.fileName) :
    ∀ document ∈ (run keccak currentDirectory storage requests ⟨disk, []⟩).documents,
      Backed keccak currentDirectory storage requests
        (run keccak currentDirectory storage requests ⟨disk, []⟩).disk document := by
  induction requests using List.reverseRecOn with
  | nil =>
      intro document member
      cases member
  | append_singleton requests request ih =>
      rw [List.map_append, List.nodup_append] at guids
      rw [run_append_single]
      apply uploadAsync_backed
      · constructor
        · exact harmless request (List.mem_append_right _ List.mem_cons_self)
        · intro other member
          exact harmless other (List.mem_append_left _ member)
        · intro other member
          exact guids.2.2 _ (List.mem_map_of_mem member) _ List.mem_cons_self
      · apply ih guids.1
        intro other member
        exact harmless other (List.mem_append_left _ member)

end Runs

end DocumentUploadService

end Dics.DocumentService
