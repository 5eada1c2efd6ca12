/-
Typed structured data and its signing digest.

The hash is a parameter.  A struct is hashed as its type hash followed by its
field words; the digest binds it to a domain, so that a signature made for one
chain and contract is worthless for another.
-/

import Mathlib.Algebra.GroupWithZero.Nat

namespace TypedData

abbrev Bytes := List UInt8

abbrev Digest := BitVec 256

def asciiBytes (text : String) : Bytes :=
  text.toList.map fun character => UInt8.ofNat character.toNat

/-- A word as `32` bytes, most significant first. -/
def encodeWord (word : BitVec 256) : Bytes :=
  (List.range 32).map fun index => UInt8.ofNat (word.toNat >>> (8 * (31 - index)))

def encodeWords (words : List (BitVec 256)) : Bytes :=
  words.flatMap encodeWord

def boolWord (value : Bool) : BitVec 256 :=
  if value then 1 else 0

/-- The text of a struct type from its name and its members, each a name with a
type. -/
def encodeType (name : String) (members : List (String × String)) : String :=
  name ++ "(" ++ ",".intercalate (members.map fun member => member.2 ++ " " ++ member.1) ++ ")"

structure Domain where
  name : String
  version : String
  chainId : BitVec 256
  verifyingContract : BitVec 160

variable (hash : Bytes → Digest)

def domainTypeHash : Digest :=
  hash (asciiBytes
    "EIP712Domain(string name,string version,uint256 chainId,address verifyingContract)")

def domainSeparator (domain : Domain) : Digest :=
  hash (encodeWords
    [domainTypeHash hash, hash (asciiBytes domain.name), hash (asciiBytes domain.version),
      domain.chainId, domain.verifyingContract.setWidth 256])

def structHash (typeText : String) (fields : List (BitVec 256)) : Digest :=
  hash (encodeWords (hash (asciiBytes typeText) :: fields))

def typedDataHash (domain : Domain) (structHash : Digest) : Digest :=
  hash ([0x19, 0x01] ++ encodeWord (domainSeparator hash domain) ++ encodeWord structHash)

/-! ### Structs given as objects -/

inductive Value where
  | number (value : Nat)
  | word (value : BitVec 256)
  | flag (value : Bool)
  | text (value : String)
  | address (value : BitVec 160)

/-- An object as it is written down: field names with values. -/
abbrev Object := List (String × Value)

/-- The word of one member.  A value of another type, or one that does not fit,
cannot be encoded. -/
def encodeValue : String → Value → Option (BitVec 256)
  | "uint256", .number value => if value < 2 ^ 256 then some (BitVec.ofNat 256 value) else none
  | "bytes32", .word value => some value
  | "bool", .flag value => some (boolWord value)
  | "string", .text value => some (hash (asciiBytes value))
  | "address", .address value => some (value.setWidth 256)
  | _, _ => none

/-- The words of a struct, in the order of its members and not of the object. -/
def encodeData (members : List (String × String)) (object : Object) :
    Option (List (BitVec 256)) :=
  members.mapM fun member => (object.lookup member.1).bind (encodeValue hash member.2)

theorem encodeValue_uint256 {value : Nat} (fits : value < 2 ^ 256) :
    encodeValue hash "uint256" (.number value) = some (BitVec.ofNat 256 value) := if_pos fits

variable {hash} in
theorem encodeData_cons {name type : String} {members : List (String × String)}
    {object : Object} {value : Value} {word : BitVec 256} {words : List (BitVec 256)}
    (found : object.lookup name = some value) (encoded : encodeValue hash type value = some word)
    (rest : encodeData hash members object = some words) :
    encodeData hash ((name, type) :: members) object = some (word :: words) := by
  unfold encodeData at rest ⊢
  rw [List.mapM_cons, found, rest]
  simp only [Option.bind_some, encoded, Option.bind_eq_bind, Option.pure_def]

def hashStruct (name : String) (members : List (String × String)) (object : Object) :
    Option Digest :=
  (encodeData hash members object).map (structHash hash (encodeType name members))

/-- The fields a domain may have, in their fixed order. -/
def domainFields : List (String × String) :=
  [("name", "string"), ("version", "string"), ("chainId", "uint256"),
    ("verifyingContract", "address"), ("salt", "bytes32")]

def domainMembers (domain : Object) : List (String × String) :=
  domainFields.filter fun member => (domain.lookup member.1).isSome

/-- The digest of a message under a domain, both given as objects. -/
def objectDigest (domain : Object) (name : String) (members : List (String × String))
    (message : Object) : Option Digest := do
  let separator ← hashStruct hash "EIP712Domain" (domainMembers domain) domain
  let body ← hashStruct hash name members message
  return hash ([0x19, 0x01] ++ encodeWord separator ++ encodeWord body)

/-! ### Reading the encoding back -/

@[simp]
theorem encodeWord_length (word : BitVec 256) : (encodeWord word).length = 32 := by
  simp only [encodeWord, List.length_map, List.length_range]

/-- Each bit of a word stands in one of its bytes. -/
theorem encodeWord_injective {first second : BitVec 256}
    (same : encodeWord first = encodeWord second) : first = second := by
  apply BitVec.eq_of_toNat_eq
  apply Nat.eq_of_testBit_eq
  intro position
  by_cases within : position < 256
  · have index : 31 - position / 8 ∈ List.range 32 := List.mem_range.mpr (by omega)
    have byte := congrArg UInt8.toNat (List.map_inj_left.mp same _ index)
    simp only [UInt8.toNat_ofNat'] at byte
    have bit := congrArg (Nat.testBit · (position % 8)) byte
    have low : position % 8 < 8 := Nat.mod_lt _ (by decide)
    have place : 8 * (31 - (31 - position / 8)) + position % 8 = position := by omega
    simp only [Nat.testBit_mod_two_pow, Nat.testBit_shiftRight, low, decide_true, Bool.true_and,
      place] at bit
    exact bit
  · have beyond : 2 ^ 256 ≤ 2 ^ position := Nat.pow_le_pow_right (by decide) (by omega)
    rw [Nat.testBit_lt_two_pow (Nat.lt_of_lt_of_le first.isLt beyond),
      Nat.testBit_lt_two_pow (Nat.lt_of_lt_of_le second.isLt beyond)]

theorem boolWord_injective {first second : Bool} (same : boolWord first = boolWord second) :
    first = second := by
  cases first <;> cases second
  · rfl
  · exact absurd same (by decide)
  · exact absurd same (by decide)
  · rfl

theorem ofNat_injective {first second : Nat} (firstFits : first < 2 ^ 256)
    (secondFits : second < 2 ^ 256)
    (same : BitVec.ofNat 256 first = BitVec.ofNat 256 second) : first = second := by
  have values := congrArg BitVec.toNat same
  rw [BitVec.toNat_ofNat, BitVec.toNat_ofNat, Nat.mod_eq_of_lt firstFits,
    Nat.mod_eq_of_lt secondFits] at values
  exact values

theorem setWidth_injective {first second : BitVec 160}
    (same : first.setWidth 256 = second.setWidth 256) : first = second := by
  have values := congrArg BitVec.toNat same
  rw [BitVec.toNat_setWidth_of_le (by decide), BitVec.toNat_setWidth_of_le (by decide)] at values
  exact BitVec.eq_of_toNat_eq values

theorem encodeWords_injective {first second : List (BitVec 256)}
    (lengths : first.length = second.length) (same : encodeWords first = encodeWords second) :
    first = second := by
  induction first generalizing second with
  | nil => exact (List.eq_nil_of_length_eq_zero lengths.symm).symm
  | cons word rest ih =>
      cases second with
      | nil => cases lengths
      | cons other others =>
          obtain ⟨sameWord, sameRest⟩ :=
            List.append_inj same ((encodeWord_length word).trans (encodeWord_length other).symm)
          rw [encodeWord_injective sameWord, ih (Nat.succ.inj lengths) sameRest]

/-- No two of these strings share their hash. -/
def CollisionFree (strings : List Bytes) : Prop :=
  ∀ left ∈ strings, ∀ right ∈ strings, hash left = hash right → left = right

def domainWords (domain : Domain) : List (BitVec 256) :=
  [domainTypeHash hash, hash (asciiBytes domain.name), hash (asciiBytes domain.version),
    domain.chainId, domain.verifyingContract.setWidth 256]

def digestBytes (domain : Domain) (structHash : Digest) : Bytes :=
  [0x19, 0x01] ++ encodeWord (domainSeparator hash domain) ++ encodeWord structHash

/-- The strings a digest is computed from, texts apart. -/
def hashedBytes (domain : Domain) (typeText : String) (fields : List (BitVec 256)) :
    List Bytes :=
  [digestBytes hash domain (structHash hash typeText fields),
    encodeWords (domainWords hash domain),
    encodeWords (hash (asciiBytes typeText) :: fields)]

/-- A digest determines the domain's words and the fields of the struct, as far
as the hash meets no collision among the strings of the two digests. -/
theorem typedDataHash_injective {first second : Domain} {firstType secondType : String}
    {firstFields secondFields : List (BitVec 256)}
    (lengths : firstFields.length = secondFields.length)
    (collisionFree : CollisionFree hash
      (hashedBytes hash first firstType firstFields ++
        hashedBytes hash second secondType secondFields))
    (same : typedDataHash hash first (structHash hash firstType firstFields) =
      typedDataHash hash second (structHash hash secondType secondFields)) :
    domainWords hash first = domainWords hash second ∧ firstFields = secondFields := by
  have outer : digestBytes hash first (structHash hash firstType firstFields) =
      digestBytes hash second (structHash hash secondType secondFields) := by
    apply collisionFree
    · exact List.mem_append_left _ List.mem_cons_self
    · exact List.mem_append_right _ List.mem_cons_self
    · exact same
  obtain ⟨separators, structs⟩ := List.append_inj' outer
    ((encodeWord_length _).trans (encodeWord_length _).symm)
  have domains : encodeWords (domainWords hash first) =
      encodeWords (domainWords hash second) := by
    apply collisionFree
    · exact List.mem_append_left _ (List.mem_cons_of_mem _ List.mem_cons_self)
    · exact List.mem_append_right _ (List.mem_cons_of_mem _ List.mem_cons_self)
    · exact encodeWord_injective (List.append_cancel_left separators)
  have fields : encodeWords (hash (asciiBytes firstType) :: firstFields) =
      encodeWords (hash (asciiBytes secondType) :: secondFields) := by
    apply collisionFree
    · exact List.mem_append_left _
        (List.mem_cons_of_mem _ (List.mem_cons_of_mem _ List.mem_cons_self))
    · exact List.mem_append_right _
        (List.mem_cons_of_mem _ (List.mem_cons_of_mem _ List.mem_cons_self))
    · exact encodeWord_injective structs
  exact ⟨encodeWords_injective rfl domains,
    List.tail_eq_of_cons_eq (encodeWords_injective (congrArg Nat.succ lengths) fields)⟩

end TypedData
