/-
Calls as byte strings.

A call is the first four bytes of the hash of a function's signature, followed
by a word for every argument.  A contract looks for the selector among its
functions, takes as many words as the function has arguments and refuses words
that are out of range; whatever follows is ignored.  Over a table whose selectors
differ, what is accepted is exactly what the encoder writes.
-/

import Dics.Lib.Der
import Mathlib.Data.List.Forall2

open TypedData

namespace Calldata

/-- Argument types of one word.  An enumeration is a `uint8` in a signature. -/
inductive Kind where
  | uint256
  | bytes32
  | address
  | bool
  | enumeration (members : Nat)
  deriving DecidableEq

def Kind.text : Kind → String
  | .uint256 => "uint256"
  | .bytes32 => "bytes32"
  | .address => "address"
  | .bool => "bool"
  | .enumeration _ => "uint8"

/-- The first number that is no value of the type. -/
def Kind.bound : Kind → Nat
  | .uint256 => 2 ^ 256
  | .bytes32 => 2 ^ 256
  | .address => 2 ^ 160
  | .bool => 2
  | .enumeration members => min members 256

structure Signature where
  name : String
  kinds : List Kind
  deriving DecidableEq

def Signature.text (signature : Signature) : String :=
  signature.name ++ "(" ++ ",".intercalate (signature.kinds.map Kind.text) ++ ")"

/-- One value for every argument, each in its range. -/
def Fits (kinds : List Kind) (values : List Nat) : Prop :=
  List.Forall₂ (fun kind value => value < kind.bound) kinds values

variable (hash : Bytes → Digest)

def selector (signature : Signature) : Bytes :=
  (encodeWord (hash (asciiBytes signature.text))).take 4

def encodeCall (signature : Signature) (values : List Nat) : Bytes :=
  selector hash signature ++ encodeWords (values.map (BitVec.ofNat 256))

/-! ### The receiving side -/

def decodeArguments : List Kind → Bytes → Option (List Nat)
  | [], _ => some []
  | kind :: kinds, data =>
      if data.length < 32 then none
      else if Der.value (data.take 32) < kind.bound then
        (decodeArguments kinds (data.drop 32)).map (Der.value (data.take 32) :: ·)
      else none

/-- `signature` gives the signature of every entry of a contract's table. -/
def decodeCall {Entry : Type} (signature : Entry → Signature) (table : List Entry)
    (data : Bytes) : Option (Entry × List Nat) :=
  (table.find? fun entry => decide (selector hash (signature entry) = data.take 4)).bind
    fun entry => (decodeArguments (signature entry).kinds (data.drop 4)).map (entry, ·)

/-- No two entries of the table share a selector. -/
def Apart {Entry : Type} (signature : Entry → Signature) (table : List Entry) : Prop :=
  ∀ left ∈ table, ∀ right ∈ table,
    selector hash (signature left) = selector hash (signature right) → left = right

/-! ### Reading back -/

theorem Kind.bound_le (kind : Kind) : kind.bound ≤ 2 ^ 256 := by
  cases kind with
  | uint256 => exact Nat.le_refl _
  | bytes32 => exact Nat.le_refl _
  | address => exact Nat.pow_le_pow_right (by decide) (by decide)
  | bool => exact Nat.le_self_pow (by decide) 2
  | enumeration members => exact (Nat.min_le_right _ _).trans (by decide)

@[simp]
theorem selector_length (signature : Signature) : (selector hash signature).length = 4 := by
  rw [selector, List.length_take, encodeWord_length]
  rfl

/-- The selector depends on the text of a signature only. -/
theorem encodeCall_congr {first second : Signature} (same : first.text = second.text)
    (values : List Nat) : encodeCall hash first values = encodeCall hash second values := by
  unfold encodeCall selector
  rw [same]

theorem decodeArguments_encodeWords {kinds : List Kind} {values : List Nat}
    (fits : Fits kinds values) (rest : Bytes) :
    decodeArguments kinds (encodeWords (values.map (BitVec.ofNat 256)) ++ rest) =
      some values := by
  induction fits with
  | nil => rfl
  | @cons kind value kinds values small fits ih =>
      have words : encodeWords ((value :: values).map (BitVec.ofNat 256)) ++ rest =
          encodeWord (BitVec.ofNat 256 value) ++
            (encodeWords (values.map (BitVec.ofNat 256)) ++ rest) := by
        rw [List.map_cons, encodeWords, List.flatMap_cons, List.append_assoc]
        rfl
      have read : Der.value (encodeWord (BitVec.ofNat 256 value)) = value :=
        Der.value_encodeWord_ofNat (Nat.lt_of_lt_of_le small kind.bound_le)
      have enough : ¬(encodeWord (BitVec.ofNat 256 value) ++
          (encodeWords (values.map (BitVec.ofNat 256)) ++ rest)).length < 32 := by
        rw [List.length_append, encodeWord_length]
        omega
      rw [words, decodeArguments, if_neg enough,
        List.take_left' (encodeWord_length _), List.drop_left' (encodeWord_length _), read,
        if_pos small, ih]
      rfl

theorem eq_encodeWords_of_decodeArguments {kinds : List Kind} {data : Bytes}
    {values : List Nat} (decoded : decodeArguments kinds data = some values) :
    Fits kinds values ∧
      ∃ rest, data = encodeWords (values.map (BitVec.ofNat 256)) ++ rest := by
  induction kinds generalizing data values with
  | nil =>
      cases decoded
      exact ⟨List.Forall₂.nil, data, rfl⟩
  | cons kind kinds ih =>
      rw [decodeArguments] at decoded
      split at decoded
      · cases decoded
      · rename_i enough
        split at decoded
        · rename_i small
          obtain ⟨others, later, same⟩ := Option.map_eq_some_iff.mp decoded
          subst same
          obtain ⟨fits, rest, tail⟩ := ih later
          have full : (data.take 32).length = 32 := by
            rw [List.length_take]
            omega
          refine ⟨List.Forall₂.cons small fits, rest, ?_⟩
          calc data = data.take 32 ++ data.drop 32 := (List.take_append_drop 32 data).symm
            _ = encodeWord (BitVec.ofNat 256 (Der.value (data.take 32))) ++
                (encodeWords (others.map (BitVec.ofNat 256)) ++ rest) := by
                  rw [← Der.eq_encodeWord full rfl, ← tail]
            _ = encodeWords ((Der.value (data.take 32) :: others).map (BitVec.ofNat 256)) ++
                rest := by
                  rw [List.map_cons, encodeWords, encodeWords, List.flatMap_cons,
                    List.append_assoc]
        · cases decoded

variable {hash}

/-- What a contract accepts is exactly what the encoder writes, with anything
behind it. -/
theorem decodeCall_eq_some {Entry : Type} {signature : Entry → Signature} {table : List Entry}
    (apart : Apart hash signature table) {data : Bytes} {entry : Entry} {values : List Nat} :
    decodeCall hash signature table data = some (entry, values) ↔
      entry ∈ table ∧ Fits (signature entry).kinds values ∧
        ∃ rest, data = encodeCall hash (signature entry) values ++ rest := by
  constructor
  · intro decoded
    obtain ⟨found, matched, read⟩ := Option.bind_eq_some_iff.mp decoded
    obtain ⟨others, arguments, same⟩ := Option.map_eq_some_iff.mp read
    cases same
    have own := List.find?_some matched
    rw [decide_eq_true_eq] at own
    obtain ⟨fits, rest, tail⟩ := eq_encodeWords_of_decodeArguments arguments
    refine ⟨List.mem_of_find?_eq_some matched, fits, rest, ?_⟩
    rw [encodeCall, List.append_assoc, ← tail, own, List.take_append_drop]
  · rintro ⟨member, fits, rest, rfl⟩
    have first : (encodeCall hash (signature entry) values ++ rest).take 4 =
        selector hash (signature entry) := by
      rw [encodeCall, List.append_assoc, List.take_left' (selector_length hash _)]
    have matched : (table.find? fun other => decide (selector hash (signature other) =
        (encodeCall hash (signature entry) values ++ rest).take 4)) = some entry := by
      rw [first]
      cases search : table.find? fun other =>
          decide (selector hash (signature other) = selector hash (signature entry)) with
      | none =>
          have missing := List.find?_eq_none.mp search entry member
          exact absurd (decide_eq_true rfl) missing
      | some other =>
          have same := List.find?_some search
          rw [decide_eq_true_eq] at same
          rw [apart other (List.mem_of_find?_eq_some search) entry member same]
    rw [decodeCall, matched, Option.bind_some, encodeCall, List.append_assoc,
      List.drop_left' (selector_length hash _), decodeArguments_encodeWords fits rest]
    rfl

end Calldata
