/-
Where an uploaded document is stored.

`LocalFileStorage` puts a fresh GUID in front of the file name the client
sends, so that two uploads do not overwrite each other.  The name is not
looked at.  It may hold separators, and then the GUID is only in the first of
its components: a name that climbs back over that component is stored at a
place that no longer depends on the GUID, in or outside the claim's directory.
-/

import Dics.Lib.Paths
import Mathlib.Data.List.Basic

open Paths

namespace Dics.DocumentService

/-- The 32 hexadecimal digits of a `Guid`. -/
structure Guid where
  digits : List (Fin 16)
  size : digits.length = 32
  deriving DecidableEq

namespace Guid

def letters (guid : Guid) : List Char :=
  guid.digits.map fun digit : Fin 16 => Nat.digitChar digit.val

/-- `ToString()`: groups of 8, 4, 4, 4 and 12 digits. -/
def toText (guid : Guid) : List Char :=
  guid.letters.take 8 ++ '-' :: ((guid.letters.drop 8).take 4 ++ '-' ::
    ((guid.letters.drop 12).take 4 ++ '-' :: ((guid.letters.drop 16).take 4 ++ '-' ::
      guid.letters.drop 20)))

def hexDigits : List Char :=
  ['0', '1', '2', '3', '4', '5', '6', '7', '8', '9', 'a', 'b', 'c', 'd', 'e', 'f']

theorem digitChar_mem (digit : Fin 16) : Nat.digitChar digit.val ∈ hexDigits := by
  decide +revert

theorem mem_hexDigits {guid : Guid} {letter : Char} (member : letter ∈ guid.letters) :
    letter ∈ hexDigits := by
  obtain ⟨digit, _, rfl⟩ := List.mem_map.mp member
  exact digitChar_mem digit

theorem mem_toText {guid : Guid} {letter : Char} (member : letter ∈ guid.toText) :
    letter ∈ '-' :: hexDigits := by
  simp only [toText, List.mem_append, List.mem_cons] at member
  rw [List.mem_cons]
  rcases member with part | dash | part | dash | part | dash | part | dash | part
  · exact Or.inr (mem_hexDigits (List.mem_of_mem_take part))
  · exact Or.inl dash
  · exact Or.inr (mem_hexDigits (List.mem_of_mem_drop (List.mem_of_mem_take part)))
  · exact Or.inl dash
  · exact Or.inr (mem_hexDigits (List.mem_of_mem_drop (List.mem_of_mem_take part)))
  · exact Or.inl dash
  · exact Or.inr (mem_hexDigits (List.mem_of_mem_drop (List.mem_of_mem_take part)))
  · exact Or.inl dash
  · exact Or.inr (mem_hexDigits (List.mem_of_mem_drop part))

theorem length_toText (guid : Guid) : guid.toText.length = 36 := by
  have size : guid.letters.length = 32 := by rw [letters, List.length_map, guid.size]
  simp only [toText, List.length_append, List.length_cons, List.length_take, List.length_drop, size]
  omega

/-- Without the dashes the digits can be read off. -/
theorem filter_toText (guid : Guid) :
    guid.toText.filter (fun letter => letter ≠ '-') = guid.letters := by
  have keeps : ∀ part : List Char, part ⊆ guid.letters →
      part.filter (fun letter => letter ≠ '-') = part := by
    intro part within
    rw [List.filter_eq_self]
    intro letter member
    have digit := mem_hexDigits (within member)
    simp only [ne_eq, decide_not, Bool.not_eq_eq_eq_not, Bool.not_true, decide_eq_false_iff_not]
    rintro rfl
    exact absurd digit (by decide)
  have dash : ∀ rest : List Char, ('-' :: rest).filter (fun letter => letter ≠ '-') =
      rest.filter (fun letter => letter ≠ '-') := fun rest => rfl
  have inner : ∀ start size, (guid.letters.drop start).take size ⊆ guid.letters := by
    intro start size letter member
    exact List.mem_of_mem_drop (List.mem_of_mem_take member)
  rw [toText, List.filter_append, dash, List.filter_append, dash, List.filter_append, dash,
    List.filter_append, dash, keeps _ (List.take_subset _ _), keeps _ (inner _ _),
    keeps _ (inner _ _), keeps _ (inner _ _), keeps _ (List.drop_subset _ _)]
  have joined : ∀ start size, (guid.letters.drop start).take size ++
      guid.letters.drop (start + size) = guid.letters.drop start := by
    intro start size
    rw [← List.drop_drop]
    exact List.take_append_drop _ _
  rw [joined 16 4, joined 12 4, joined 8 4, List.take_append_drop]

theorem toText_injective {first second : Guid} (same : first.toText = second.toText) :
    first = second := by
  have letters : first.letters = second.letters := by
    rw [← filter_toText first, ← filter_toText second, same]
  have injective : Function.Injective fun digit : Fin 16 => Nat.digitChar digit.val := by
    unfold Function.Injective
    decide
  have digits := List.map_injective_iff.mpr injective letters
  cases first
  cases second
  cases digits
  rfl

end Guid

def nullChar : Char := Char.ofNat 0

/-- `long.ToString()`. -/
def longText (value : Int64) : List Char :=
  match value.toInt with
  | .ofNat size => Nat.toDigits 10 size
  | .negSucc size => '-' :: Nat.toDigits 10 (size + 1)

theorem digits_ne_nil (size : Nat) : Nat.toDigits 10 size ≠ [] := by
  have positive := @Nat.length_toDigits_pos 10 size
  intro empty
  rw [empty] at positive
  exact absurd positive (Nat.lt_irrefl 0)

theorem mem_longText {value : Int64} {letter : Char} (member : letter ∈ longText value) :
    letter = '-' ∨ letter.isDigit = true := by
  unfold longText at member
  split at member
  · exact Or.inr (Nat.isDigit_of_mem_toDigits (by decide) (by decide) member)
  · rw [List.mem_cons] at member
    rcases member with sign | digit
    · exact Or.inl sign
    · exact Or.inr (Nat.isDigit_of_mem_toDigits (by decide) (by decide) digit)

theorem longText_ne_nil (value : Int64) : longText value ≠ [] := by
  unfold longText
  split
  · exact digits_ne_nil _
  · exact List.cons_ne_nil _ _

theorem not_mem_longText {letter : Char} (other : letter ≠ '-') (text : letter.isDigit = false)
    (value : Int64) : letter ∉ longText value := by
  intro member
  rcases mem_longText member with sign | digit
  · exact other sign
  · rw [text] at digit
    cases digit

/-- A number names a directory of its own. -/
theorem moves_longText (value : Int64) : moves (longText value) = [.enter (longText value)] := by
  have single : '/' ∉ longText value := not_mem_longText (by decide) (by decide) value
  have dotless : '.' ∉ longText value := not_mem_longText (by decide) (by decide) value
  obtain ⟨letter, member⟩ := List.exists_mem_of_ne_nil _ (longText_ne_nil value)
  have ordinary : letter ≠ '.' := fun same => dotless (same ▸ member)
  rw [moves_of_single single, moveOf_of_mem member ordinary]

/-- The names on the way from the root of the file system, the last one first. -/
abbrev Location := List (List Char)

inductive Raised where
  | nullCharInPath
  | ioException
  | unauthorizedAccess
  | directoryNotFound
  | fileNotFound
  | dbUpdateException
  | argumentException (message paramName : String)
  deriving DecidableEq

/-- `Path.GetFullPath`, as every file operation applies it to the path it is given. -/
def getFullPath (currentDirectory path : List Char) : Except Raised Location :=
  if nullChar ∈ path then .error .nullCharInPath
  else .ok (resolve currentDirectory path)

/-- The constructor calls `Directory.CreateDirectory`, which takes neither an
empty path nor one with a null character. -/
structure LocalFileStorage where
  rootDirectory : List Char
  nonempty : rootDirectory ≠ []
  nullFree : nullChar ∉ rootDirectory

structure Upload where
  claimId : Int64
  fileName : List Char
  guid : Guid

namespace LocalFileStorage

variable (currentDirectory : List Char) (storage : LocalFileStorage)

def claimDirectory (claimId : Int64) : List Char :=
  combine storage.rootDirectory (longText claimId)

def storedFileName (upload : Upload) : List Char :=
  upload.guid.toText ++ '_' :: upload.fileName

def fullPath (upload : Upload) : List Char :=
  combine (storage.claimDirectory upload.claimId) (storedFileName upload)

/-- The place `File.Create` opens. -/
def opened (upload : Upload) : Except Raised Location :=
  getFullPath currentDirectory (storage.fullPath upload)

def claimLocation (claimId : Int64) : Location :=
  resolve currentDirectory (storage.claimDirectory claimId)

section Places

variable {currentDirectory : List Char} {storage : LocalFileStorage} {upload : Upload}

theorem rooted_longText (claimId : Int64) : rooted (longText claimId) = false := by
  unfold rooted
  rw [beq_eq_false_iff_ne]
  intro slash
  have member : '/' ∈ longText claimId := List.mem_of_mem_head? slash
  exact not_mem_longText (by decide) (by decide) claimId member

theorem claimLocation_eq (claimId : Int64) :
    storage.claimLocation currentDirectory claimId =
      longText claimId :: resolve currentDirectory storage.rootDirectory := by
  rw [claimLocation, claimDirectory, resolve_combine _ _ (rooted_longText claimId), moves_longText]
  rfl

theorem not_mem_guid {letter : Char} (other : letter ∉ '_' :: '-' :: Guid.hexDigits)
    (guid : Guid) : letter ∉ guid.toText ++ ['_'] := by
  rw [List.mem_cons, not_or] at other
  rw [List.mem_append, not_or]
  constructor
  · intro member
    exact other.2 (Guid.mem_toText member)
  · rw [List.mem_singleton]
    exact other.1

theorem storedFileName_eq (upload : Upload) :
    storedFileName upload = (upload.guid.toText ++ ['_']) ++ upload.fileName := by
  rw [storedFileName, List.append_assoc, List.singleton_append]

theorem rooted_storedFileName (upload : Upload) : rooted (storedFileName upload) = false := by
  unfold rooted
  rw [beq_eq_false_iff_ne, storedFileName_eq, List.head?_append_of_ne_nil _ (by simp)]
  intro slash
  exact not_mem_guid (by decide) upload.guid (List.mem_of_mem_head? slash)

/-- The component that carries the GUID. -/
def guidComponent (upload : Upload) : List Char :=
  (upload.guid.toText ++ ['_']) ++ firstComponent upload.fileName

theorem moves_storedFileName (upload : Upload) :
    moves (storedFileName upload) =
      .enter (guidComponent upload) :: laterMoves upload.fileName := by
  have underscore : '_' ∈ guidComponent upload :=
    List.mem_append_left _ (List.mem_append_right _ List.mem_cons_self)
  rw [storedFileName_eq, moves_append (not_mem_guid (by decide) upload.guid)]
  rw [show (upload.guid.toText ++ ['_']) ++ firstComponent upload.fileName =
    guidComponent upload from rfl, moveOf_of_mem underscore (by decide)]

/-- A null character can only come from the client. -/
theorem null_mem_fullPath : nullChar ∈ storage.fullPath upload ↔ nullChar ∈ upload.fileName := by
  constructor
  · intro member
    rcases mem_combine member with inDirectory | slash | inName
    · rcases mem_combine inDirectory with inRoot | slash | inNumber
      · exact absurd inRoot storage.nullFree
      · exact absurd slash (by decide)
      · exact absurd inNumber (not_mem_longText (by decide) (by decide) _)
    · exact absurd slash (by decide)
    · rw [storedFileName_eq, List.mem_append] at inName
      rcases inName with inGuid | inFile
      · exact absurd inGuid (not_mem_guid (by decide) upload.guid)
      · exact inFile
  · intro member
    apply mem_combine_right
    rw [storedFileName_eq]
    exact List.mem_append_right _ member

theorem opened_of_null (null : nullChar ∈ upload.fileName) :
    storage.opened currentDirectory upload = .error .nullCharInPath := by
  rw [opened, getFullPath, if_pos (null_mem_fullPath.mpr null)]

theorem opened_of_null_free (free : nullChar ∉ upload.fileName) :
    storage.opened currentDirectory upload =
      .ok (walk (guidComponent upload :: storage.claimLocation currentDirectory upload.claimId)
        (laterMoves upload.fileName)) := by
  rw [opened, getFullPath, if_neg (fun null => free (null_mem_fullPath.mp null)), fullPath,
    resolve_combine _ _ (rooted_storedFileName upload), moves_storedFileName]
  rfl

end Places

/-- The later components of the name never climb back over the first one: read
from left to right, `..` is never ahead of the ordinary components. -/
def keepsGuid (fileName : List Char) : Bool :=
  remains 0 (laterMoves fileName)

/-- A null character makes `File.Create` refuse the path. -/
def Harmless (fileName : List Char) : Prop :=
  nullChar ∈ fileName ∨ keepsGuid fileName = true

instance (fileName : List Char) : Decidable (Harmless fileName) :=
  inferInstanceAs (Decidable (_ ∨ _))

/-- Two uploads go to different places, each in the directory of its claim. -/
structure Apart (first second : Upload) : Prop where
  firstInside : ∀ location, storage.opened currentDirectory first = .ok location →
    Inside (storage.claimLocation currentDirectory first.claimId) location
  secondInside : ∀ location, storage.opened currentDirectory second = .ok location →
    Inside (storage.claimLocation currentDirectory second.claimId) location
  different : ∀ location, storage.opened currentDirectory first = .ok location →
    storage.opened currentDirectory second ≠ .ok location

section Results

variable {currentDirectory : List Char} {storage : LocalFileStorage}

theorem opened_of_keeps {upload : Upload} {location : Location}
    (harmless : Harmless upload.fileName)
    (written : storage.opened currentDirectory upload = .ok location) :
    location = walk [] (laterMoves upload.fileName) ++
      guidComponent upload :: storage.claimLocation currentDirectory upload.claimId := by
  rcases harmless with null | keeps
  · rw [opened_of_null null] at written
    cases written
  · have free : nullChar ∉ upload.fileName := by
      intro null
      rw [opened_of_null null] at written
      cases written
    rw [opened_of_null_free free] at written
    cases written
    exact @walk_of_remains _ [] _ keeps _

theorem inside_of_harmless {upload : Upload} (harmless : Harmless upload.fileName)
    (location : Location) (written : storage.opened currentDirectory upload = .ok location) :
    Inside (storage.claimLocation currentDirectory upload.claimId) location := by
  rw [opened_of_keeps harmless written]
  exact inside_append_cons _ _ _

theorem guid_of_component {first second : Upload}
    (same : guidComponent first = guidComponent second) : first.guid = second.guid := by
  apply Guid.toText_injective
  unfold guidComponent at same
  rw [List.append_assoc, List.append_assoc] at same
  exact (List.append_inj same (by rw [Guid.length_toText, Guid.length_toText])).1

/-- Every place is as deep in its claim's directory, so the GUIDs stand at the same depth. -/
theorem different_of_harmless {first second : Upload} (different : first.guid ≠ second.guid)
    (firstHarmless : Harmless first.fileName) (secondHarmless : Harmless second.fileName)
    (location : Location) (written : storage.opened currentDirectory first = .ok location) :
    storage.opened currentDirectory second ≠ .ok location := by
  intro again
  have places := (opened_of_keeps firstHarmless written).symm.trans
    (opened_of_keeps secondHarmless again)
  rw [claimLocation_eq, claimLocation_eq] at places
  have ends := (List.append_inj' places (by simp only [List.length_cons])).2
  exact different (guid_of_component (List.cons_eq_cons.mp ends).1)

theorem apart_of_harmless {first second : Upload} (different : first.guid ≠ second.guid)
    (firstHarmless : Harmless first.fileName) (secondHarmless : Harmless second.fileName) :
    storage.Apart currentDirectory first second where
  firstInside := inside_of_harmless firstHarmless
  secondInside := inside_of_harmless secondHarmless
  different := different_of_harmless different firstHarmless secondHarmless

/-- Once the component with the GUID is left, the place no longer depends on it. -/
theorem opened_of_not_harmless {fileName : List Char} (harmful : ¬Harmless fileName)
    (claimId : Int64) : ∃ location, ∀ guid : Guid,
      storage.opened currentDirectory ⟨claimId, fileName, guid⟩ = .ok location := by
  unfold Harmless at harmful
  rw [not_or, Bool.not_eq_true] at harmful
  obtain ⟨rest, leaves⟩ := @walk_of_leaves _ [] _ harmful.2
  refine ⟨walk (storage.claimLocation currentDirectory claimId) rest, fun guid => ?_⟩
  rw [opened_of_null_free harmful.1]
  exact congrArg Except.ok (leaves _ _)

theorem harmless_of_apart {claimId : Int64} {fileName : List Char} {first second : Guid}
    (apart : storage.Apart currentDirectory ⟨claimId, fileName, first⟩
      ⟨claimId, fileName, second⟩) : Harmless fileName := by
  by_contra harmful
  obtain ⟨location, written⟩ := opened_of_not_harmless harmful claimId
  exact apart.different location (written first) (written second)

end Results

/-- Two uploads of one name end in the claim's directory and apart from each
other exactly when the name leaves the component with the GUID in place; such
an upload is apart from every other of that kind, whatever its claim and name. -/
theorem uploads_apart_iff (claimId : Int64) (fileName : List Char) {first second : Guid}
    (different : first ≠ second) :
    (storage.Apart currentDirectory ⟨claimId, fileName, first⟩ ⟨claimId, fileName, second⟩ ↔
      Harmless fileName) ∧
    ∀ other : Upload, other.guid = second → Harmless fileName → Harmless other.fileName →
      storage.Apart currentDirectory ⟨claimId, fileName, first⟩ other := by
  constructor
  · constructor
    · exact harmless_of_apart
    · intro harmless
      exact apart_of_harmless different harmless harmless
  · intro other guid harmless otherHarmless
    exact apart_of_harmless (by rw [guid]; exact different) harmless otherHarmless

/-- The default of `STORAGE_ROOT`. -/
def sampleStorage : LocalFileStorage where
  rootDirectory := "/data/documents".toList
  nonempty := by decide +kernel
  nullFree := by decide +kernel

def sampleGuid (digit : Fin 16) : Guid :=
  ⟨List.replicate 32 digit, List.length_replicate⟩

theorem sampleGuid_ne : sampleGuid 3 ≠ sampleGuid 10 := by
  decide

theorem uploads_apart_sample :
    keepsGuid "scans/a/../b.pdf".toList = true ∧
      sampleStorage.Apart "/app".toList ⟨7, "scans/a/../b.pdf".toList, sampleGuid 3⟩
        ⟨7, "scans/a/../b.pdf".toList, sampleGuid 10⟩ := by
  have keeps : keepsGuid "scans/a/../b.pdf".toList = true := by decide +kernel
  exact ⟨keeps, (uploads_apart_iff "/app".toList sampleStorage 7 _ sampleGuid_ne).1.mpr
    (Or.inr keeps)⟩

/-- Two uploads for claim 7 end in one file, in the directory of claim 8. -/
theorem climbing_name_not_apart :
    sampleStorage.opened "/app".toList ⟨7, "x/../../8/report.pdf".toList, sampleGuid 3⟩ =
        .ok ["report.pdf".toList, "8".toList, "documents".toList, "data".toList] ∧
      sampleStorage.opened "/app".toList ⟨7, "x/../../8/report.pdf".toList, sampleGuid 10⟩ =
        .ok ["report.pdf".toList, "8".toList, "documents".toList, "data".toList] ∧
      ¬sampleStorage.Apart "/app".toList ⟨7, "x/../../8/report.pdf".toList, sampleGuid 3⟩
        ⟨7, "x/../../8/report.pdf".toList, sampleGuid 10⟩ := by
  refine ⟨by decide +kernel, by decide +kernel, ?_⟩
  intro apart
  exact absurd (harmless_of_apart apart) (by decide +kernel)

end LocalFileStorage

end Dics.DocumentService
