/-
Byte strings as numbers, and the distinguished encoding built on them.

An element is a tag, the length of its content and the content.  The length is
one octet below 128, or an octet that counts the octets of the length.
-/

import Dics.Lib.TypedData
import Mathlib.Tactic.Ring

open TypedData

namespace Der

/-! ### Big-endian numbers -/

def value (bytes : Bytes) : Nat :=
  bytes.foldl (fun value byte => value * 256 + byte.toNat) 0

theorem foldl_value (bytes : Bytes) (start : Nat) :
    bytes.foldl (fun value byte => value * 256 + byte.toNat) start =
      start * 256 ^ bytes.length + value bytes := by
  induction bytes generalizing start with
  | nil => simp only [value, List.foldl_nil, List.length_nil, Nat.pow_zero, Nat.mul_one,
      Nat.add_zero]
  | cons byte rest ih =>
      have one := ih (start * 256 + byte.toNat)
      have other := ih (0 * 256 + byte.toNat)
      simp only [value, List.foldl_cons, List.length_cons, Nat.pow_succ] at one other ⊢
      rw [one, other]
      ring

theorem value_cons (byte : UInt8) (rest : Bytes) :
    value (byte :: rest) = byte.toNat * 256 ^ rest.length + value rest := by
  rw [value, List.foldl_cons, Nat.zero_mul, Nat.zero_add, foldl_value]

theorem value_snoc (bytes : Bytes) (byte : UInt8) :
    value (bytes ++ [byte]) = value bytes * 256 + byte.toNat := by
  simp only [value, List.foldl_append, List.foldl_cons, List.foldl_nil]

theorem value_lt (bytes : Bytes) : value bytes < 256 ^ bytes.length := by
  induction bytes with
  | nil => exact Nat.one_pos
  | cons byte rest ih =>
      have small : byte.toNat + 1 ≤ 256 := byte.toNat_lt
      calc value (byte :: rest) < byte.toNat * 256 ^ rest.length + 256 ^ rest.length := by
            rw [value_cons]
            omega
        _ = (byte.toNat + 1) * 256 ^ rest.length := by ring
        _ ≤ 256 * 256 ^ rest.length := Nat.mul_le_mul_right _ small
        _ = 256 ^ (byte :: rest).length := by rw [List.length_cons, Nat.pow_succ, Nat.mul_comm]

/-- Strings of one length are told apart by their value. -/
theorem eq_of_value_eq {first second : Bytes} (lengths : first.length = second.length)
    (same : value first = value second) : first = second := by
  induction first generalizing second with
  | nil => exact (List.eq_nil_of_length_eq_zero lengths.symm).symm
  | cons byte rest ih =>
      cases second with
      | nil => cases lengths
      | cons other others =>
          have restLengths : rest.length = others.length := Nat.succ.inj lengths
          rw [value_cons, value_cons, restLengths] at same
          have restSmall := value_lt rest
          have othersSmall := value_lt others
          rw [restLengths] at restSmall
          have heads : byte.toNat = other.toNat := by
            have divided := congrArg (· / 256 ^ others.length) same
            rw [Nat.add_comm, Nat.add_mul_div_right _ _ (Nat.pow_pos (by decide)),
              Nat.div_eq_of_lt restSmall, Nat.add_comm,
              Nat.add_comm (other.toNat * _), Nat.add_mul_div_right _ _ (Nat.pow_pos (by decide)),
              Nat.div_eq_of_lt othersSmall] at divided
            omega
          rw [heads] at same
          rw [UInt8.toNat_inj.mp heads, ih restLengths (Nat.add_left_cancel same)]

theorem value_zeros (count : Nat) (bytes : Bytes) :
    value (List.replicate count 0 ++ bytes) = value bytes := by
  induction count with
  | zero => rfl
  | succ count ih =>
      rw [List.replicate_succ, List.cons_append, value_cons, ih]
      simp only [UInt8.toNat_zero, Nat.zero_mul, Nat.zero_add]

private theorem value_shifted (number count : Nat) :
    value ((List.range count).map fun index =>
      UInt8.ofNat (number >>> (8 * (count - 1 - index)))) = number % 256 ^ count := by
  induction count with
  | zero => simp only [List.range_zero, List.map_nil, value, List.foldl_nil, Nat.pow_zero,
      Nat.mod_one]
  | succ count ih =>
      have tail : ((List.range count).map fun index =>
          UInt8.ofNat (number >>> (8 * (count + 1 - 1 - (index + 1))))) =
          (List.range count).map fun index =>
            UInt8.ofNat (number >>> (8 * (count - 1 - index))) := by
        apply List.map_congr_left
        intro index _
        congr 3
        omega
      rw [List.range_succ_eq_map, List.map_cons, List.map_map]
      simp only [Function.comp_def, Nat.succ_eq_add_one]
      have head : (UInt8.ofNat (number >>> (8 * (count + 1 - 1 - 0)))).toNat =
          number / 256 ^ count % 256 := by
        rw [UInt8.toNat_ofNat', Nat.shiftRight_eq_div_pow, Nat.pow_mul, Nat.add_sub_cancel,
          Nat.sub_zero]
      rw [tail, value_cons, ih, List.length_map, List.length_range, head, Nat.pow_succ,
        Nat.mod_mul, Nat.mul_comm, Nat.add_comm]

theorem value_encodeWord (word : BitVec 256) : value (encodeWord word) = word.toNat := by
  have bounded : word.toNat < 256 ^ 32 := word.isLt
  have shifted := value_shifted word.toNat 32
  rw [Nat.mod_eq_of_lt bounded] at shifted
  exact shifted

theorem value_encodeWord_ofNat {number : Nat} (fits : number < 2 ^ 256) :
    value (encodeWord (BitVec.ofNat 256 number)) = number := by
  rw [value_encodeWord, BitVec.toNat_ofNat]
  exact Nat.mod_eq_of_lt fits

/-- The `32` bytes of a number below the word bound. -/
theorem eq_encodeWord {bytes : Bytes} {number : Nat} (length : bytes.length = 32)
    (same : value bytes = number) : bytes = encodeWord (BitVec.ofNat 256 number) := by
  have bounded := value_lt bytes
  rw [length, same] at bounded
  apply eq_of_value_eq (length.trans (encodeWord_length _).symm)
  rw [value_encodeWord_ofNat bounded, same]

/-! ### Shortest octets of a number -/

def octets (number : Nat) : Bytes :=
  if number < 256 then [UInt8.ofNat number]
  else octets (number / 256) ++ [UInt8.ofNat (number % 256)]
termination_by number

theorem octets_of_lt {number : Nat} (small : number < 256) :
    octets number = [UInt8.ofNat number] := by
  rw [octets, if_pos small]

theorem octets_of_le {number : Nat} (large : 256 ≤ number) :
    octets number = octets (number / 256) ++ [UInt8.ofNat (number % 256)] := by
  rw [octets, if_neg (Nat.not_lt.mpr large)]

theorem value_octets (number : Nat) : value (octets number) = number := by
  induction number using octets.induct with
  | case1 number small =>
      rw [octets_of_lt small, value_cons, UInt8.toNat_ofNat_of_lt' small]
      simp only [List.length_nil, Nat.pow_zero, Nat.mul_one, value, List.foldl_nil, Nat.add_zero]
  | case2 number large ih =>
      have last : (UInt8.ofNat (number % 256)).toNat = number % 256 :=
        UInt8.toNat_ofNat_of_lt' (Nat.mod_lt _ (by decide))
      rw [octets_of_le (Nat.not_lt.mp large), value_snoc, ih, last]
      omega

theorem octets_ne_nil (number : Nat) : octets number ≠ [] := by
  by_cases small : number < 256
  · rw [octets_of_lt small]
    exact List.cons_ne_nil _ _
  · rw [octets_of_le (Nat.not_lt.mp small)]
    exact List.append_ne_nil_of_right_ne_nil _ (List.cons_ne_nil _ _)

theorem octets_length_le {number count : Nat} (positive : 0 < count)
    (bounded : number < 256 ^ count) : (octets number).length ≤ count := by
  induction count generalizing number with
  | zero => cases positive
  | succ count ih =>
      by_cases small : number < 256
      · rw [octets_of_lt small]
        exact positive
      · rw [octets_of_le (Nat.not_lt.mp small), List.length_append, List.length_singleton]
        rw [Nat.pow_succ] at bounded
        have several : 0 < count := by
          by_contra none
          rw [Nat.eq_zero_of_not_pos none] at bounded
          omega
        have fewer := ih several (Nat.div_lt_of_lt_mul (Nat.mul_comm _ _ ▸ bounded))
        omega

/-- The content of an integer: a number whose first octet has its top bit set
gets a zero octet in front. -/
def integer (number : Nat) : Bytes :=
  match octets number with
  | [] => []
  | first :: rest => if 128 ≤ first.toNat then 0 :: first :: rest else first :: rest

theorem value_integer (number : Nat) : value (integer number) = number := by
  have same := value_octets number
  unfold integer
  cases digits : octets number with
  | nil => exact absurd digits (octets_ne_nil number)
  | cons first rest =>
      rw [digits] at same
      dsimp only
      split
      · rw [value_cons, same, UInt8.toNat_zero, Nat.zero_mul, Nat.zero_add]
      · exact same

theorem octets_head {number : Nat} (positive : 0 < number) :
    ∃ first rest, octets number = first :: rest ∧ 0 < first.toNat := by
  induction number using octets.induct with
  | case1 number small =>
      refine ⟨UInt8.ofNat number, [], octets_of_lt small, ?_⟩
      rw [UInt8.toNat_ofNat_of_lt' small]
      exact positive
  | case2 number large ih =>
      obtain ⟨first, rest, digits, leads⟩ := ih (by omega)
      refine ⟨first, rest ++ [UInt8.ofNat (number % 256)], ?_, leads⟩
      rw [octets_of_le (Nat.not_lt.mp large), digits]
      rfl

/-- The top bit is clear, and a zero octet stands in front only where the next
one has its top bit set. -/
def Minimal (content : Bytes) : Prop :=
  ∃ first rest, content = first :: rest ∧ first.toNat < 128 ∧
    (first = 0 → ∃ second others, rest = second :: others ∧ 128 ≤ second.toNat)

theorem integer_minimal {number : Nat} (positive : 0 < number) : Minimal (integer number) := by
  obtain ⟨first, rest, digits, leads⟩ := octets_head positive
  unfold integer
  rw [digits]
  dsimp only
  by_cases topBit : 128 ≤ first.toNat
  · rw [if_pos topBit]
    exact ⟨0, first :: rest, rfl, by decide, fun _ => ⟨first, rest, rfl, topBit⟩⟩
  · rw [if_neg topBit]
    refine ⟨first, rest, rfl, Nat.not_le.mp topBit, ?_⟩
    intro zero
    rw [zero] at leads
    exact absurd leads (by decide)

/-- An integer below the word bound has at most `32` octets, or a zero octet and
`32` more. -/
theorem integer_shape {number : Nat} (bounded : number < 2 ^ 256) :
    (integer number).length ≤ 32 ∨ ∃ rest, rest.length = 32 ∧ integer number = 0 :: rest := by
  have few : (octets number).length ≤ 32 := octets_length_le (by decide) bounded
  unfold integer
  cases digits : octets number with
  | nil => exact absurd digits (octets_ne_nil number)
  | cons first rest =>
      rw [digits] at few
      dsimp only
      split
      · rcases Nat.lt_or_eq_of_le few with fewer | full
        · exact Or.inl fewer
        · exact Or.inr ⟨first :: rest, full, rfl⟩
      · exact Or.inl few

theorem integer_length_le {number : Nat} (bounded : number < 2 ^ 256) :
    (integer number).length ≤ 33 := by
  rcases integer_shape bounded with few | ⟨rest, full, signed⟩
  · omega
  · rw [signed, List.length_cons, full]

/-! ### Elements -/

/-- The octets that announce a content of `count` bytes. -/
inductive Length (count : Nat) : Bytes → Prop where
  | short (small : count < 128) : Length count [UInt8.ofNat count]
  | long (counting : Bytes) (present : counting ≠ []) (few : counting.length < 127)
      (counted : value counting = count) :
      Length count (UInt8.ofNat (128 + counting.length) :: counting)

inductive Element (tag : UInt8) (content : Bytes) : Bytes → Prop where
  | encoded (length : Bytes) (announces : Length content.length length) :
      Element tag content (tag :: (length ++ content))

/-- An element whose length fits one octet. -/
def shortElement (tag : UInt8) (content : Bytes) : Bytes :=
  tag :: UInt8.ofNat content.length :: content

theorem element_of_short (tag : UInt8) {content : Bytes} (small : content.length < 128) :
    Element tag content (shortElement tag content) :=
  .encoded _ (.short small)

/-! ### Elements in a row -/

/-- What a reader of the seven low bits takes for the length of `count` bytes:
`127` octets may follow as well, and zero octets may lead. -/
inductive Announced (count : Nat) : Bytes → Prop where
  | short (small : count < 128) : Announced count [UInt8.ofNat count]
  | long (counting : Bytes) (present : counting ≠ []) (few : counting.length ≤ 127)
      (counted : value counting = count) :
      Announced count (UInt8.ofNat (128 + counting.length) :: counting)

theorem Length.announced {count : Nat} {length : Bytes} (announces : Length count length) :
    Announced count length := by
  cases announces with
  | short small => exact .short small
  | long counting present few counted => exact .long counting present (Nat.le_of_lt few) counted

/-- A tag and the length of a content that need not be there. -/
inductive Header (tag : UInt8) (count : Nat) : Bytes → Prop where
  | encoded (length : Bytes) (announced : Announced count length) :
      Header tag count (tag :: length)

structure Tlv where
  tag : UInt8
  header : Bytes
  content : Bytes
  encoded : Header tag content.length header

def Tlv.bytes (tlv : Tlv) : Bytes :=
  tlv.header ++ tlv.content

def consecutive (tlvs : List Tlv) : Bytes :=
  tlvs.flatMap Tlv.bytes

theorem Header.length_pos {tag : UInt8} {count : Nat} {header : Bytes}
    (encoded : Header tag count header) : 0 < header.length := by
  cases encoded with
  | encoded length announced => exact Nat.succ_pos _

theorem consecutive_cons (tlv : Tlv) (rest : List Tlv) :
    consecutive (tlv :: rest) = tlv.header ++ tlv.content ++ consecutive rest := by
  rw [consecutive, List.flatMap_cons]
  rfl

/-- An element is its header and then its content. -/
theorem Element.exists_tlv {tag : UInt8} {content bytes : Bytes}
    (element : Element tag content bytes) :
    ∃ tlv : Tlv, tlv.tag = tag ∧ tlv.content = content ∧ tlv.bytes = bytes := by
  cases element with
  | encoded length announces =>
      exact ⟨⟨tag, tag :: length, content, .encoded length announces.announced⟩, rfl, rfl, rfl⟩

def shortTlv (tag : UInt8) (content : Bytes) (small : content.length < 128) : Tlv where
  tag := tag
  header := [tag, UInt8.ofNat content.length]
  content := content
  encoded := .encoded _ (.short small)

theorem shortTlv_bytes (tag : UInt8) {content : Bytes} (small : content.length < 128) :
    (shortTlv tag content small).bytes = shortElement tag content := rfl

end Der
