/-
The DER reader of the Safe operations service.

Numbers are JavaScript numbers: an index outside the buffer reads `undefined`,
arithmetic with `undefined` gives `NaN`, and the length of the long form is
computed in signed 32-bit arithmetic.  `none` stands for `undefined` and `NaN`.
-/

import Dics.Lib.Der

open TypedData Der

namespace Dics.SafeOps

/-! ### Buffers -/

abbrev Number := Option Int

def plus (left right : Number) : Number := do
  let first ← left
  let second ← right
  return first + second

def byteAt (buf : Bytes) (offset : Number) : Option UInt8 := do
  let index ← offset
  if 0 ≤ index then buf[index.toNat]? else none

/-- A negative offset counts from the end, `NaN` from the start. -/
def adjustOffset (length : Nat) : Number → Nat
  | none => 0
  | some offset => if offset < 0 then (offset + length).toNat else min offset.toNat length

def subarray (buf : Bytes) (start stop : Number) : Bytes :=
  (buf.take (adjustOffset buf.length stop)).drop (adjustOffset buf.length start)

structure Error where
  message : String
  deriving DecidableEq

/-! ### Reading elements -/

structure TlvHeader where
  tag : Option UInt8
  length : Number
  valueOffset : Number
  deriving DecidableEq

/-- The loop of the long form.  A byte beyond the buffer counts as zero. -/
def readLength (buf : Bytes) (offset : Number) : Nat → BitVec 32 → BitVec 32
  | 0, length => length
  | remaining + 1, length =>
      readLength buf (plus offset (some 1)) remaining
        ((length <<< 8) ||| BitVec.ofNat 32 ((byteAt buf offset).getD 0).toNat)

def readTlvHeader (buf : Bytes) (offset : Number) : TlvHeader :=
  let tag := byteAt buf offset
  let lengthByte := byteAt buf (plus offset (some 1))
  if lengthByte.getD 0 &&& 0x80 = 0 then
    { tag := tag
      length := lengthByte.map fun byte => (byte.toNat : Int)
      valueOffset := plus offset (some 2) }
  else
    let numLengthBytes := (lengthByte.getD 0 &&& 0x7f).toNat
    { tag := tag
      length := some (readLength buf (plus offset (some 2)) numLengthBytes 0).toInt
      valueOffset := plus (plus offset (some 2)) (some (numLengthBytes : Int)) }

def publicKeyFromKmsDer (derBuffer : Bytes) : Except Error Bytes := do
  let outer := readTlvHeader derBuffer (some 0)
  if outer.tag ≠ some 0x30 then
    throw { message := "Expected outer SEQUENCE (0x30) in KMS public key DER" }
  let algIdHeader := readTlvHeader derBuffer outer.valueOffset
  let bitStringOffset := plus algIdHeader.valueOffset algIdHeader.length
  let bitString := readTlvHeader derBuffer bitStringOffset
  if bitString.tag ≠ some 0x03 then
    throw { message := "Expected BIT STRING (0x03) for the public key point" }
  let pointStart := plus bitString.valueOffset (some 2)
  let rawPoint := subarray derBuffer pointStart (plus pointStart (some 64))
  if rawPoint.length ≠ 64 then
    throw { message := "Expected a 64-byte uncompressed EC point, got " ++
      toString rawPoint.length ++ " bytes" }
  return rawPoint

def toPadded32 (rawBytes : Bytes) : Except Error Bytes := do
  let bytes := if rawBytes.length = 33 ∧ rawBytes[0]? = some 0x00 then rawBytes.drop 1 else rawBytes
  if bytes.length > 32 then
    throw { message := "Integer value too long after stripping sign byte: " ++
      toString bytes.length ++ " bytes" }
  return List.replicate (32 - bytes.length) 0 ++ bytes

structure RawSignature where
  r : Bytes
  s : Bytes
  deriving DecidableEq

def signatureFromKmsDer (derBuffer : Bytes) : Except Error RawSignature := do
  let outer := readTlvHeader derBuffer (some 0)
  if outer.tag ≠ some 0x30 then
    throw { message := "Expected outer SEQUENCE (0x30) in KMS signature DER" }
  let rHeader := readTlvHeader derBuffer outer.valueOffset
  let sOffset := plus rHeader.valueOffset rHeader.length
  let rRaw := subarray derBuffer rHeader.valueOffset sOffset
  let sHeader := readTlvHeader derBuffer sOffset
  let sRaw := subarray derBuffer sHeader.valueOffset (plus sHeader.valueOffset sHeader.length)
  let r ← toPadded32 rRaw
  let s ← toPadded32 sRaw
  return { r := r, s := s }

/-! ### What the reader makes of an element -/

theorem plus_natCast (left right : Nat) :
    plus (some (left : Int)) (some (right : Int)) = some ((left + right : Nat) : Int) := by
  rw [Int.natCast_add]
  rfl

theorem byteAt_append (front : Bytes) (byte : UInt8) (back : Bytes) :
    byteAt (front ++ byte :: back) (some (front.length : Int)) = some byte := by
  simp only [byteAt, Option.bind_eq_bind, Option.bind_some, Int.natCast_nonneg, if_true,
    Int.toNat_natCast, List.getElem?_append_right (Nat.le_refl _), Nat.sub_self,
    List.getElem?_cons_zero]

theorem subarray_middle (front middle back : Bytes) :
    subarray (front ++ middle ++ back) (some (front.length : Int))
      (some ((front.length + middle.length : Nat) : Int)) = middle := by
  have nonneg (offset : Nat) : ¬((offset : Int) < 0) := by omega
  simp only [subarray, adjustOffset, if_neg (nonneg _), Int.toNat_natCast, List.length_append]
  rw [Nat.min_eq_left (by omega), Nat.min_eq_left (by omega),
    List.take_append_of_le_length (by rw [List.length_append]), ← List.length_append,
    List.take_length, List.drop_left]

theorem shift_octet (length : Nat) (byte : UInt8) :
    (BitVec.ofNat 32 length <<< 8) ||| BitVec.ofNat 32 byte.toNat =
      BitVec.ofNat 32 (length * 256 + byte.toNat) := by
  have joined : length * 256 + byte.toNat = (length <<< 8) ||| byte.toNat := by
    rw [← Nat.shiftLeft_add_eq_or_of_lt byte.toNat_lt, Nat.shiftLeft_eq]
  rw [joined, BitVec.ofNat_or]
  congr 1
  apply BitVec.eq_of_toNat_eq
  simp [Nat.shiftLeft_eq]

theorem readLength_octets (front counting back : Bytes) (length : Nat) :
    readLength (front ++ counting ++ back) (some (front.length : Int)) counting.length
        (BitVec.ofNat 32 length) =
      BitVec.ofNat 32
        (counting.foldl (fun value byte => value * 256 + byte.toNat) length) := by
  induction counting generalizing front length with
  | nil => rfl
  | cons byte rest ih =>
      have here : byteAt (front ++ byte :: rest ++ back) (some (front.length : Int)) =
          some byte := by
        rw [List.append_assoc]
        exact byteAt_append front byte (rest ++ back)
      have moved : plus (some (front.length : Int)) (some 1) =
          some ((front ++ [byte]).length : Int) := by
        rw [List.length_append, List.length_singleton]
        rfl
      have regrouped : front ++ byte :: rest ++ back = front ++ [byte] ++ rest ++ back := by
        simp only [List.append_assoc, List.cons_append, List.nil_append]
      rw [List.length_cons, readLength, here, moved, Option.getD_some, shift_octet, regrouped, ih,
        List.foldl_cons]

theorem toInt_of_small {count : Nat} (small : count < 2 ^ 31) :
    (BitVec.ofNat 32 count).toInt = count := by
  have word : (BitVec.ofNat 32 count).toNat = count := by
    rw [BitVec.toNat_ofNat]
    exact Nat.mod_eq_of_lt (Nat.lt_trans small (by decide))
  rw [BitVec.toInt_eq_toNat_of_lt (by rw [word]; omega), word]

private theorem short_octet : ∀ count < 128,
    UInt8.ofNat count &&& 0x80 = 0 ∧ (UInt8.ofNat count).toNat = count := by
  decide

private theorem long_octet : ∀ count < 128,
    UInt8.ofNat (128 + count) &&& 0x80 ≠ 0 ∧
      (UInt8.ofNat (128 + count) &&& 0x7f).toNat = count := by
  decide

/-- The second byte of an element, and what its first two bytes leave. -/
private theorem byteAt_second (front : Bytes) (tag octet : UInt8) (back : Bytes) :
    byteAt (front ++ tag :: octet :: back) (plus (some (front.length : Int)) (some 1)) =
      some octet := by
  have next : plus (some (front.length : Int)) (some 1) =
      some ((front ++ [tag]).length : Int) := by
    rw [List.length_append, List.length_singleton]
    rfl
  have regrouped : front ++ tag :: octet :: back = (front ++ [tag]) ++ octet :: back := by
    simp only [List.append_assoc, List.cons_append, List.nil_append]
  rw [next, regrouped]
  exact byteAt_append _ _ _

private theorem readTlvHeader_short (front : Bytes) (tag : UInt8) (back : Bytes) {count : Nat}
    (small : count < 128) :
    readTlvHeader (front ++ tag :: UInt8.ofNat count :: back) (some (front.length : Int)) =
      { tag := some tag
        length := some (count : Int)
        valueOffset := some ((front.length + 2 : Nat) : Int) } := by
  obtain ⟨topBit, octet⟩ := short_octet count small
  unfold readTlvHeader
  rw [byteAt_append, byteAt_second]
  simp only [Option.getD_some, if_pos topBit, Option.map_some, octet]
  rfl

private theorem readTlvHeader_long (front : Bytes) (tag : UInt8) (counting back : Bytes)
    (few : counting.length ≤ 127) :
    readTlvHeader (front ++ tag :: UInt8.ofNat (128 + counting.length) :: (counting ++ back))
        (some (front.length : Int)) =
      { tag := some tag
        length := some (BitVec.ofNat 32 (value counting)).toInt
        valueOffset := some ((front.length + 2 + counting.length : Nat) : Int) } := by
  obtain ⟨topBit, octet⟩ := long_octet counting.length (Nat.lt_succ_of_le few)
  have start : plus (some (front.length : Int)) (some 2) =
      some ((front ++ [tag, UInt8.ofNat (128 + counting.length)]).length : Int) := by
    rw [List.length_append]
    rfl
  have regrouped : front ++ tag :: UInt8.ofNat (128 + counting.length) :: (counting ++ back) =
      front ++ [tag, UInt8.ofNat (128 + counting.length)] ++ counting ++ back := by
    simp only [List.append_assoc, List.cons_append, List.nil_append]
  have loop : readLength
        (front ++ [tag, UInt8.ofNat (128 + counting.length)] ++ counting ++ back)
        (some ((front ++ [tag, UInt8.ofNat (128 + counting.length)]).length : Int))
        counting.length 0 = BitVec.ofNat 32 (value counting) :=
    readLength_octets _ counting back 0
  unfold readTlvHeader
  rw [byteAt_append, byteAt_second]
  simp only [Option.getD_some, if_neg topBit, octet]
  rw [start, regrouped, loop, List.length_append]
  rfl

/-- A header, wherever it stands: its tag, the length as a signed 32-bit number,
and where the header ends. -/
theorem readTlvHeader_header {tag : UInt8} {count : Nat} {header : Bytes}
    (encoded : Header tag count header) (front back : Bytes) :
    readTlvHeader (front ++ header ++ back) (some (front.length : Int)) =
      { tag := some tag
        length := some (BitVec.ofNat 32 count).toInt
        valueOffset := some ((front.length + header.length : Nat) : Int) } := by
  rw [List.append_assoc]
  cases encoded with
  | encoded length announced =>
      cases announced with
      | short small =>
          rw [toInt_of_small (by omega)]
          exact readTlvHeader_short front tag back small
      | long counting present few counted =>
          have read := readTlvHeader_long front tag counting back few
          have position : front.length + 2 + counting.length =
              front.length + (counting.length + 1 + 1) := by omega
          rw [counted, position] at read
          exact read

/-! ### Reading on behind a value -/

/-- One header read on the way, and the bytes it announces. -/
structure Visit where
  offset : Number
  header : TlvHeader
  value : Bytes
  deriving DecidableEq

/-- The next header is looked for where the value of the last one ends, at
`valueOffset + length`.  The second component is the offset behind the last value. -/
def readChain (buf : Bytes) : Nat → Number → List Visit × Number
  | 0, offset => ([], offset)
  | count + 1, offset =>
      let header := readTlvHeader buf offset
      let next := plus header.valueOffset header.length
      let visit : Visit :=
        { offset := offset, header := header, value := subarray buf header.valueOffset next }
      (visit :: (readChain buf count next).1, (readChain buf count next).2)

def visitOf (start : Nat) (tlv : Tlv) : Visit where
  offset := some (start : Int)
  header :=
    { tag := some tlv.tag
      length := some (tlv.content.length : Int)
      valueOffset := some ((start + tlv.header.length : Nat) : Int) }
  value := tlv.content

/-- The elements of a row, each at the place where it is encoded. -/
def visitsOf : Nat → List Tlv → List Visit
  | _, [] => []
  | start, tlv :: rest => visitOf start tlv :: visitsOf (start + tlv.bytes.length) rest

theorem readTlvHeader_of_small {tag : UInt8} {count : Nat} {header : Bytes}
    (encoded : Header tag count header) (small : count < 2 ^ 31) (front back : Bytes) :
    readTlvHeader (front ++ header ++ back) (some (front.length : Int)) =
      { tag := some tag
        length := some (count : Int)
        valueOffset := some ((front.length + header.length : Nat) : Int) } := by
  rw [readTlvHeader_header encoded front back, toInt_of_small small]

/-- One turn: the element is visited, and the next offset is where it ends. -/
theorem readChain_succ {tlv : Tlv} (small : tlv.content.length < 2 ^ 31) (front back : Bytes)
    (count : Nat) :
    readChain (front ++ tlv.bytes ++ back) (count + 1) (some (front.length : Int)) =
      (visitOf front.length tlv ::
          (readChain (front ++ tlv.bytes ++ back) count
            (some ((front ++ tlv.bytes).length : Int))).1,
        (readChain (front ++ tlv.bytes ++ back) count
          (some ((front ++ tlv.bytes).length : Int))).2) := by
  have regrouped : front ++ tlv.bytes ++ back = front ++ tlv.header ++ (tlv.content ++ back) := by
    rw [Tlv.bytes, List.append_assoc, List.append_assoc, List.append_assoc]
  have header := readTlvHeader_of_small tlv.encoded small front (tlv.content ++ back)
  have content := subarray_middle (front ++ tlv.header) tlv.content back
  have next := plus_natCast (front.length + tlv.header.length) tlv.content.length
  have stop : (front ++ tlv.bytes).length =
      front.length + tlv.header.length + tlv.content.length := by
    rw [Tlv.bytes, List.length_append, List.length_append]
    omega
  rw [List.length_append, List.append_assoc] at content
  rw [← regrouped] at header content
  rw [readChain, header]
  dsimp only
  rw [next, content, ← stop]
  rfl

/-- Reading on from the first of several elements in a row visits each of them
where it is encoded, and stops behind the last. -/
theorem readChain_consecutive (tlvs : List Tlv) (small : ∀ tlv ∈ tlvs, tlv.content.length < 2 ^ 31)
    (front back : Bytes) :
    readChain (front ++ consecutive tlvs ++ back) tlvs.length (some (front.length : Int)) =
      (visitsOf front.length tlvs, some ((front ++ consecutive tlvs).length : Int)) := by
  induction tlvs generalizing front with
  | nil =>
      rw [consecutive, List.flatMap_nil, List.append_nil]
      rfl
  | cons tlv rest ih =>
      have one := readChain_succ (small tlv List.mem_cons_self) front (consecutive rest ++ back)
        rest.length
      have others := ih (fun other member => small other (List.mem_cons_of_mem _ member))
        (front ++ tlv.bytes)
      have regrouped : front ++ consecutive (tlv :: rest) =
          front ++ tlv.bytes ++ consecutive rest := by
        rw [consecutive_cons, List.append_assoc front]
        rfl
      rw [← List.append_assoc] at one
      rw [others, List.length_append] at one
      rw [regrouped]
      exact one

theorem exists_cut {buf part : Bytes} {offset : Nat} (present : 0 < part.length)
    (held : part <+: buf.drop offset) :
    ∃ front back, buf = front ++ part ++ back ∧ front.length = offset := by
  obtain ⟨back, rest⟩ := held
  have inside : offset ≤ buf.length := by
    have lengths := congrArg List.length rest
    rw [List.length_append, List.length_drop] at lengths
    omega
  refine ⟨buf.take offset, back, ?_, ?_⟩
  · rw [List.append_assoc, rest, List.take_append_drop]
  · rw [List.length_take, Nat.min_eq_left inside]

/-- Every header of a length below `2 ^ 31` is read as what it encodes, in either
form, and reading on visits the elements of a row exactly where they stand. -/
theorem tlv_boundaries_read (buf : Bytes) (offset : Nat) :
    (∀ (tag : UInt8) (count : Nat) (header : Bytes), count < 2 ^ 31 → Header tag count header →
      header <+: buf.drop offset →
        readTlvHeader buf (some (offset : Int)) =
          { tag := some tag
            length := some (count : Int)
            valueOffset := some ((offset + header.length : Nat) : Int) }) ∧
    ∀ tlvs : List Tlv, (∀ tlv ∈ tlvs, tlv.content.length < 2 ^ 31) →
      consecutive tlvs <+: buf.drop offset →
        readChain buf tlvs.length (some (offset : Int)) =
          (visitsOf offset tlvs, some ((offset + (consecutive tlvs).length : Nat) : Int)) := by
  constructor
  · intro tag count header small encoded held
    obtain ⟨front, back, rfl, rfl⟩ := exists_cut encoded.length_pos held
    exact readTlvHeader_of_small encoded small front back
  · intro tlvs small held
    cases tlvs with
    | nil => rfl
    | cons tlv rest =>
        have present : 0 < (consecutive (tlv :: rest)).length := by
          have leads := tlv.encoded.length_pos
          rw [consecutive_cons, List.length_append, List.length_append]
          omega
        obtain ⟨front, back, rfl, rfl⟩ := exists_cut present held
        have read := readChain_consecutive (tlv :: rest) small front back
        rw [List.length_append] at read
        exact read

/-- All the `127` octets that seven bits can count, for the number `1`. -/
def paddedOne : Bytes :=
  List.replicate 126 0x00 ++ [0x01]

theorem paddedOne_length : paddedOne.length = 127 := by
  rw [paddedOne, List.length_append, List.length_replicate]
  rfl

theorem paddedOne_announced : Announced 1 (0xff :: paddedOne) := by
  have counted : value paddedOne = 1 := value_zeros 126 [0x01]
  have announced : Announced 1 (UInt8.ofNat (128 + paddedOne.length) :: paddedOne) :=
    .long paddedOne (by decide) (by rw [paddedOne_length]) counted
  rw [paddedOne_length] at announced
  exact announced

/-- A short form, a long form with zero octets in front, and one with all of its
`127` octets. -/
def sampleTlvs : List Tlv :=
  [⟨0x02, [0x02, 0x01], [0x05], .encoded _ (.short (by decide))⟩,
    ⟨0x03, [0x03, 0x83, 0x00, 0x00, 0x02], [0x06, 0x07],
      .encoded _ (.long [0x00, 0x00, 0x02] (by decide) (by decide) (by decide))⟩,
    ⟨0x04, 0x04 :: 0xff :: paddedOne, [0x08], .encoded _ paddedOne_announced⟩]

theorem tlv_boundaries_read_sample :
    readTlvHeader (0xaa :: (consecutive sampleTlvs ++ [0xbb])) (some 4) =
        { tag := some 0x03, length := some 2, valueOffset := some 9 } ∧
      readChain (0xaa :: (consecutive sampleTlvs ++ [0xbb])) 3 (some 1) =
        (visitsOf 1 sampleTlvs, some 141) := by
  constructor
  · exact (tlv_boundaries_read (0xaa :: (consecutive sampleTlvs ++ [0xbb])) 4).1 0x03 2
      [0x03, 0x83, 0x00, 0x00, 0x02] (by decide)
      (.encoded _ (.long [0x00, 0x00, 0x02] (by decide) (by decide) (by decide)))
      (by decide +kernel)
  · have small : ∀ tlv ∈ sampleTlvs, tlv.content.length < 2 ^ 31 := by
      intro tlv member
      simp only [sampleTlvs, List.mem_cons, List.not_mem_nil, or_false] at member
      rcases member with rfl | rfl | rfl
      · decide
      · decide
      · decide
    have total : (consecutive sampleTlvs).length = 140 := by decide +kernel
    have read := (tlv_boundaries_read (0xaa :: (consecutive sampleTlvs ++ [0xbb])) 1).2 sampleTlvs
      small (List.prefix_append _ _)
    rw [total] at read
    exact read

/-! ### Signatures -/

theorem toPadded32_of_le {raw : Bytes} (few : raw.length ≤ 32) :
    toPadded32 raw = .ok (encodeWord (BitVec.ofNat 256 (value raw))) := by
  have notSigned : ¬(raw.length = 33 ∧ raw[0]? = some 0x00) := by omega
  have padded : List.replicate (32 - raw.length) 0 ++ raw =
      encodeWord (BitVec.ofNat 256 (value raw)) := by
    apply eq_encodeWord
    · rw [List.length_append, List.length_replicate]
      omega
    · exact value_zeros _ raw
  rw [← padded]
  simp only [toPadded32, if_neg notSigned, if_neg (Nat.not_lt.mpr few), gt_iff_lt]
  rfl

theorem toPadded32_of_sign {rest : Bytes} (full : rest.length = 32) :
    toPadded32 (0 :: rest) = .ok (encodeWord (BitVec.ofNat 256 (value (0 :: rest)))) := by
  have signed : (0 :: rest : Bytes).length = 33 ∧ (0 :: rest : Bytes)[0]? = some 0x00 := by
    rw [List.length_cons, full]
    exact ⟨rfl, rfl⟩
  have same : value (0 :: rest) = value rest := value_zeros 1 rest
  have word : rest = encodeWord (BitVec.ofNat 256 (value rest)) := eq_encodeWord full rfl
  rw [same, ← word]
  simp only [toPadded32, if_pos signed, List.drop_succ_cons, List.drop_zero, full, gt_iff_lt,
    Nat.lt_irrefl, if_false, Nat.sub_self, List.replicate_zero, List.nil_append]
  rfl

theorem toPadded32_integer {number : Nat} (bounded : number < 2 ^ 256) :
    toPadded32 (integer number) = .ok (encodeWord (BitVec.ofNat 256 number)) := by
  have same := value_integer number
  rcases integer_shape bounded with few | ⟨rest, full, signed⟩
  · rw [toPadded32_of_le few, same]
  · rw [signed] at same ⊢
    rw [toPadded32_of_sign full, same]

/-- The two values are those of the first two elements in the sequence. -/
theorem signatureFromKmsDer_of_chain {buf : Bytes} {first second : Visit} {stop : Number}
    (opens : (readTlvHeader buf (some 0)).tag = some 0x30)
    (visited : readChain buf 2 (readTlvHeader buf (some 0)).valueOffset =
      ([first, second], stop)) :
    signatureFromKmsDer buf = do
      let r ← toPadded32 first.value
      let s ← toPadded32 second.value
      return { r := r, s := s } := by
  simp only [readChain, Prod.mk.injEq, List.cons.injEq, and_true] at visited
  obtain ⟨⟨rfl, rfl⟩, _⟩ := visited
  unfold signatureFromKmsDer
  simp only [opens, ne_eq, not_true_eq_false, if_false]

theorem signatureFromKmsDer_tlvs {outer r s : Tlv} {more : Bytes} (opens : outer.tag = 0x30)
    (holds : outer.content = consecutive [r, s] ++ more) (rSmall : r.content.length < 2 ^ 31)
    (sSmall : s.content.length < 2 ^ 31) (trailing : Bytes) :
    signatureFromKmsDer (outer.bytes ++ trailing) = do
      let r ← toPadded32 r.content
      let s ← toPadded32 s.content
      return { r := r, s := s } := by
  have view : outer.bytes ++ trailing =
      outer.header ++ consecutive [r, s] ++ (more ++ trailing) := by
    rw [Tlv.bytes, holds]
    simp only [List.append_assoc]
  have header := readTlvHeader_header outer.encoded [] (outer.content ++ trailing)
  rw [List.nil_append, ← List.append_assoc, List.length_nil, Nat.zero_add] at header
  have small : ∀ tlv ∈ [r, s], tlv.content.length < 2 ^ 31 := by
    intro tlv member
    simp only [List.mem_cons, List.not_mem_nil, or_false] at member
    rcases member with rfl | rfl
    · exact rSmall
    · exact sSmall
  have visited := readChain_consecutive [r, s] small outer.header (more ++ trailing)
  rw [← view] at visited
  have opened : readTlvHeader (outer.bytes ++ trailing) (some 0) = _ := header
  have tag : (readTlvHeader (outer.bytes ++ trailing) (some 0)).tag = some 0x30 := by
    rw [opened, opens]
  have inner : (readTlvHeader (outer.bytes ++ trailing) (some 0)).valueOffset =
      some (outer.header.length : Int) := by
    rw [opened]
  rw [← inner] at visited
  exact signatureFromKmsDer_of_chain tag visited

/-- The shortest encoding of two integers in a sequence. -/
def signatureDer (r s : Nat) : Bytes :=
  shortElement 0x30 (shortElement 0x02 (integer r) ++ shortElement 0x02 (integer s))

/-- Every pair of words survives its encoding, whatever follows it. -/
theorem signatureFromKmsDer_signatureDer (r s : Nat) (trailing : Bytes) (rFits : r < 2 ^ 256)
    (sFits : s < 2 ^ 256) :
    signatureFromKmsDer (signatureDer r s ++ trailing) =
      .ok ⟨encodeWord (BitVec.ofNat 256 r), encodeWord (BitVec.ofNat 256 s)⟩ := by
  have rShort := integer_length_le rFits
  have sShort := integer_length_le sFits
  let rTlv := shortTlv 0x02 (integer r) (by omega)
  let sTlv := shortTlv 0x02 (integer s) (by omega)
  have outerShort : (consecutive [rTlv, sTlv] ++ []).length < 128 := by
    simp only [rTlv, sTlv, consecutive, shortTlv_bytes, shortElement, List.flatMap_cons,
      List.flatMap_nil, List.append_nil, List.length_append, List.length_cons]
    omega
  have bytes : signatureDer r s = (shortTlv 0x30 _ outerShort).bytes := by
    rw [shortTlv_bytes, signatureDer]
    simp only [rTlv, sTlv, consecutive, shortTlv_bytes, List.flatMap_cons, List.flatMap_nil,
      List.append_nil]
  have rSmall : rTlv.content.length < 2 ^ 31 := by
    show (integer r).length < 2 ^ 31
    omega
  have sSmall : sTlv.content.length < 2 ^ 31 := by
    show (integer s).length < 2 ^ 31
    omega
  rw [bytes, signatureFromKmsDer_tlvs rfl rfl rSmall sSmall trailing]
  show (do
    let r ← toPadded32 (integer r)
    let s ← toPadded32 (integer s)
    return { r := r, s := s } : Except Error RawSignature) = _
  rw [toPadded32_integer rFits, toPadded32_integer sFits]
  rfl

/-- All positive words survive their shortest encoding, whatever follows it. -/
theorem signature_survives_der (r s : Nat) (trailing : Bytes) (rPositive : 0 < r)
    (rFits : r < 2 ^ 256) (sPositive : 0 < s) (sFits : s < 2 ^ 256) :
    (value (integer r) = r ∧ Minimal (integer r)) ∧
      (value (integer s) = s ∧ Minimal (integer s)) ∧
      signatureFromKmsDer (signatureDer r s ++ trailing) =
        .ok ⟨encodeWord (BitVec.ofNat 256 r), encodeWord (BitVec.ofNat 256 s)⟩ :=
  ⟨⟨value_integer r, integer_minimal rPositive⟩, ⟨value_integer s, integer_minimal sPositive⟩,
    signatureFromKmsDer_signatureDer r s trailing rFits sFits⟩

/-- One octet for `r`, a sign octet and `32` more for `s`, and one byte behind
them. -/
theorem signature_survives_der_sample :
    signatureFromKmsDer (signatureDer 1 (2 ^ 255) ++ [0xff]) =
      .ok ⟨encodeWord (BitVec.ofNat 256 1), encodeWord (BitVec.ofNat 256 (2 ^ 255))⟩ :=
  (signature_survives_der 1 (2 ^ 255) [0xff] (by decide) (by decide) (by decide)
    (by decide)).2.2

/-! ### Public keys -/

/-- A buffer of the runtime holds at most `2 ^ 32` bytes. -/
structure NodeBuffer where
  bytes : Bytes
  bounded : bytes.length ≤ 2 ^ 32

/-- A public key with its algorithm identifier. -/
def IsSpki (algorithm content buffer : Bytes) : Prop :=
  ∃ algBytes bitBytes, Element 0x30 algorithm algBytes ∧ Element 0x03 content bitBytes ∧
    Element 0x30 (algBytes ++ bitBytes) buffer

/-- No unused bits, the mark of an uncompressed point, and its coordinates. -/
def IsPoint (content : Bytes) : Prop :=
  ∃ point, point.length = 64 ∧ content = 0x00 :: 0x04 :: point

theorem subarray_point (front content : Bytes) :
    subarray (front ++ content) (plus (some (front.length : Int)) (some 2))
        (plus (plus (some (front.length : Int)) (some 2)) (some 64)) =
      (content.drop 2).take 64 := by
  have start : plus (some (front.length : Int)) (some 2) =
      some ((front.length + 2 : Nat) : Int) := rfl
  have stop : plus (some ((front.length + 2 : Nat) : Int)) (some 64) =
      some ((front.length + 66 : Nat) : Int) := by
    rw [show front.length + 66 = front.length + 2 + 64 by omega]
    rfl
  have nonneg (offset : Nat) : ¬((offset : Int) < 0) := by omega
  have beyond (count : Nat) : min (front.length + count) (front ++ content).length =
      front.length + min count content.length := by
    rw [List.length_append]
    omega
  rw [start, stop]
  simp only [subarray, adjustOffset, if_neg (nonneg _), Int.toNat_natCast, beyond]
  rw [List.take_append, List.take_of_length_le (by omega), List.drop_append,
    List.drop_of_length_le (by omega), Nat.add_sub_cancel_left, Nat.add_sub_cancel_left,
    List.nil_append, ← List.take_eq_take_min, List.drop_take]
  rcases Nat.le_total content.length 2 with few | several
  · rw [Nat.min_eq_right few, List.drop_of_length_le (Nat.le_refl _),
      List.drop_of_length_le few, List.take_nil, List.take_nil]
  · rw [Nat.min_eq_left several]

private theorem spki_headers {algorithm content buffer : Bytes}
    (spki : IsSpki algorithm content buffer) :
    ∃ front algHeader bitHeader,
      buffer = front ++ (algHeader ++ algorithm) ++ bitHeader ++ content ∧
      0 < bitHeader.length ∧
      readTlvHeader buffer (some 0) =
        { tag := some 0x30
          length := some (BitVec.ofNat 32 (buffer.length - front.length)).toInt
          valueOffset := some (front.length : Int) } ∧
      readTlvHeader buffer (some (front.length : Int)) =
        { tag := some 0x30
          length := some (BitVec.ofNat 32 algorithm.length).toInt
          valueOffset := some ((front.length + algHeader.length : Nat) : Int) } ∧
      readTlvHeader buffer
          (some ((front.length + algHeader.length + algorithm.length : Nat) : Int)) =
        { tag := some 0x03
          length := some (BitVec.ofNat 32 content.length).toInt
          valueOffset :=
            some ((front ++ (algHeader ++ algorithm) ++ bitHeader).length : Int) } := by
  obtain ⟨algBytes, bitBytes, algorithmElement, contentElement, outerElement⟩ := spki
  obtain ⟨outer, outerTag, holds, rfl⟩ := outerElement.exists_tlv
  obtain ⟨alg, algTag, rfl, rfl⟩ := algorithmElement.exists_tlv
  obtain ⟨bit, bitTag, rfl, rfl⟩ := contentElement.exists_tlv
  have outerView : outer.bytes = [] ++ outer.header ++ (alg.bytes ++ bit.bytes) := by
    rw [Tlv.bytes, holds, List.nil_append]
  have algView : outer.bytes = outer.header ++ alg.header ++ (alg.content ++ bit.bytes) := by
    rw [outerView, List.nil_append, List.append_assoc, Tlv.bytes, List.append_assoc]
  have bitView : outer.bytes = outer.header ++ alg.bytes ++ bit.header ++ bit.content := by
    rw [outerView, List.nil_append, List.append_assoc, List.append_assoc]
    rfl
  have outerRead := readTlvHeader_header outer.encoded [] (alg.bytes ++ bit.bytes)
  have algRead := readTlvHeader_header alg.encoded outer.header (alg.content ++ bit.bytes)
  have bitRead := readTlvHeader_header bit.encoded (outer.header ++ alg.bytes) bit.content
  rw [← outerView, List.length_nil, Nat.zero_add] at outerRead
  rw [← algView] at algRead
  rw [← bitView] at bitRead
  have whole : outer.content.length = outer.bytes.length - outer.header.length := by
    rw [Tlv.bytes, List.length_append, Nat.add_sub_cancel_left]
  have algWhole : (outer.header ++ alg.bytes).length =
      outer.header.length + alg.header.length + alg.content.length := by
    rw [Tlv.bytes, List.length_append, List.length_append]
    omega
  refine ⟨outer.header, alg.header, bit.header, bitView, bit.encoded.length_pos, ?_, ?_, ?_⟩
  · rw [whole, outerTag] at outerRead
    exact outerRead
  · rw [algTag] at algRead
    exact algRead
  · rw [← List.length_append, bitTag, algWhole] at bitRead
    exact bitRead

/-- A public key whose algorithm identifier is shorter than `2 ^ 31` bytes: the
two bytes in front of the point and the length of the bit string are not read. -/
theorem publicKeyFromKmsDer_of_small {algorithm content buffer : Bytes}
    (spki : IsSpki algorithm content buffer) (small : algorithm.length < 2 ^ 31) :
    publicKeyFromKmsDer buffer =
      if ((content.drop 2).take 64).length ≠ 64 then
        .error { message := "Expected a 64-byte uncompressed EC point, got " ++
          toString ((content.drop 2).take 64).length ++ " bytes" }
      else .ok ((content.drop 2).take 64) := by
  obtain ⟨front, algHeader, bitHeader, view, _, outer, algId, bitString⟩ := spki_headers spki
  rw [toInt_of_small small] at algId
  have position := plus_natCast (front.length + algHeader.length) algorithm.length
  have point := subarray_point (front ++ (algHeader ++ algorithm) ++ bitHeader) content
  rw [← view] at point
  unfold publicKeyFromKmsDer
  simp only [outer, algId, position, bitString, point, ne_eq, not_true_eq_false, if_false]
  split
  · rfl
  · rfl

/-- A longer algorithm identifier has a negative length, and the bit string is
looked for in front of the buffer. -/
theorem publicKeyFromKmsDer_of_large {algorithm content : Bytes} (buffer : NodeBuffer)
    (spki : IsSpki algorithm content buffer.bytes) (large : 2 ^ 31 ≤ algorithm.length) :
    publicKeyFromKmsDer buffer.bytes =
      .error { message := "Expected BIT STRING (0x03) for the public key point" } := by
  obtain ⟨front, algHeader, bitHeader, view, bitPresent, outer, algId, _⟩ := spki_headers spki
  have bounded := buffer.bounded
  have total : buffer.bytes.length = front.length + (algHeader.length + algorithm.length) +
      bitHeader.length + content.length := by
    rw [view, List.length_append, List.length_append, List.length_append, List.length_append]
  have wrapped : (BitVec.ofNat 32 algorithm.length).toInt = (algorithm.length : Int) - 2 ^ 32 := by
    have word : (BitVec.ofNat 32 algorithm.length).toNat = algorithm.length := by
      rw [BitVec.toNat_ofNat]
      exact Nat.mod_eq_of_lt (by omega)
    rw [BitVec.toInt_eq_toNat_cond, word, if_neg (by omega)]
    rfl
  have outside (offset : Int) (negative : offset < 0) :
      (readTlvHeader buffer.bytes (some offset)).tag = none := by
    have unread : byteAt buffer.bytes (some offset) = none := by
      simp only [byteAt, Option.bind_eq_bind, Option.bind_some, if_neg (Int.not_le.mpr negative)]
    unfold readTlvHeader
    rw [unread]
    dsimp only
    split
    · rfl
    · rfl
  have position : plus (some ((front.length + algHeader.length : Nat) : Int))
      (some (BitVec.ofNat 32 algorithm.length).toInt) =
        some (((front.length + algHeader.length : Nat) : Int) +
          (BitVec.ofNat 32 algorithm.length).toInt) := rfl
  have negative : ((front.length + algHeader.length : Nat) : Int) +
      (BitVec.ofNat 32 algorithm.length).toInt < 0 := by
    rw [wrapped]
    omega
  unfold publicKeyFromKmsDer
  simp only [outer, algId, position, outside _ negative, ne_eq, not_true_eq_false, if_false,
    reduceCtorEq, not_false_eq_true, if_true]
  rfl

/-- The point is returned where the bit string is one, and every other bit
string is refused. -/
structure ReadsExactPoint (content buffer : Bytes) : Prop where
  returned : ∀ point, point.length = 64 → content = 0x00 :: 0x04 :: point →
    publicKeyFromKmsDer buffer = .ok point
  refused : ¬IsPoint content → ∃ error, publicKeyFromKmsDer buffer = .error error

/-- The marks in front of the point and the length of the bit string count only
where they leave no `64` bytes. -/
theorem reads_exact_point_iff (buffer : NodeBuffer) (algorithm content : Bytes)
    (spki : IsSpki algorithm content buffer.bytes) :
    ReadsExactPoint content buffer.bytes ↔
      (algorithm.length < 2 ^ 31 ∧ (content.length < 66 ∨ IsPoint content)) ∨
        (2 ^ 31 ≤ algorithm.length ∧ ¬IsPoint content) := by
  rcases Nat.lt_or_ge algorithm.length (2 ^ 31) with small | large
  · have read := publicKeyFromKmsDer_of_small spki small
    have counted : ((content.drop 2).take 64).length = min 64 (content.length - 2) := by
      rw [List.length_take, List.length_drop]
    constructor
    · intro reads
      refine Or.inl ⟨small, ?_⟩
      by_cases short : content.length < 66
      · exact Or.inl short
      · by_cases isPoint : IsPoint content
        · exact Or.inr isPoint
        · obtain ⟨error, thrown⟩ := reads.refused isPoint
          rw [read, if_neg (by omega)] at thrown
          cases thrown
    · rintro (⟨_, accepted⟩ | ⟨large, _⟩)
      · constructor
        · intro point length shape
          rw [read, shape, List.drop_succ_cons, List.drop_succ_cons, List.drop_zero,
            List.take_of_length_le (Nat.le_of_eq length), if_neg (by omega)]
        · intro notPoint
          rcases accepted with short | isPoint
          · rw [read, if_pos (by omega)]
            exact ⟨_, rfl⟩
          · exact absurd isPoint notPoint
      · omega
  · have read := publicKeyFromKmsDer_of_large buffer spki large
    constructor
    · intro reads
      refine Or.inr ⟨large, ?_⟩
      rintro ⟨point, length, shape⟩
      have returned := reads.returned point length shape
      rw [read] at returned
      cases returned
    · rintro (⟨small, _⟩ | ⟨_, notPoint⟩)
      · omega
      · constructor
        · intro point length shape
          exact absurd ⟨point, length, shape⟩ notPoint
        · intro _
          exact ⟨_, read⟩

def curveAlgorithm (curve : Bytes) : Bytes :=
  shortElement 0x06 [0x2a, 0x86, 0x48, 0xce, 0x3d, 0x02, 0x01] ++ shortElement 0x06 curve

def spkiDer (curve content : Bytes) : Bytes :=
  shortElement 0x30 (shortElement 0x30 (curveAlgorithm curve) ++ shortElement 0x03 content)

theorem curveAlgorithm_length (curve : Bytes) :
    (curveAlgorithm curve).length = curve.length + 11 := by
  simp only [curveAlgorithm, shortElement, List.length_append, List.length_cons, List.length_nil]
  omega

theorem isSpki_spkiDer {curve content : Bytes} (curveShort : curve.length < 10)
    (contentShort : content.length < 100) :
    IsSpki (curveAlgorithm curve) content (spkiDer curve content) := by
  have algorithmLength := curveAlgorithm_length curve
  refine ⟨_, _, element_of_short 0x30 (by omega), element_of_short 0x03 (by omega),
    element_of_short 0x30 ?_⟩
  simp only [shortElement, List.length_append, List.length_cons, algorithmLength]
  omega

theorem publicKeyFromKmsDer_spkiDer {curve point : Bytes} (curveShort : curve.length < 10)
    (length : point.length = 64) :
    publicKeyFromKmsDer (spkiDer curve (0x00 :: 0x04 :: point)) = .ok point := by
  have contentShort : (0x00 :: 0x04 :: point : Bytes).length < 100 := by
    rw [List.length_cons, List.length_cons, length]
    decide
  have algorithmShort : (curveAlgorithm curve).length < 2 ^ 31 := by
    rw [curveAlgorithm_length]
    omega
  have read := publicKeyFromKmsDer_of_small (isSpki_spkiDer curveShort contentShort) algorithmShort
  rw [List.drop_succ_cons, List.drop_succ_cons, List.drop_zero,
    List.take_of_length_le (Nat.le_of_eq length)] at read
  rw [read, if_neg (by omega)]

/-- The generator of the curve that the keys are created on. -/
def secp256k1Point : Bytes :=
  [0x79, 0xbe, 0x66, 0x7e, 0xf9, 0xdc, 0xbb, 0xac, 0x55, 0xa0, 0x62, 0x95, 0xce, 0x87, 0x0b, 0x07,
    0x02, 0x9b, 0xfc, 0xdb, 0x2d, 0xce, 0x28, 0xd9, 0x59, 0xf2, 0x81, 0x5b, 0x16, 0xf8, 0x17, 0x98,
    0x48, 0x3a, 0xda, 0x77, 0x26, 0xa3, 0xc4, 0x65, 0x5d, 0xa4, 0xfb, 0xfc, 0x0e, 0x11, 0x08, 0xa8,
    0xfd, 0x17, 0xb4, 0x48, 0xa6, 0x85, 0x54, 0x19, 0x9c, 0x47, 0xd0, 0x8f, 0xfb, 0x10, 0xd4, 0xb8]

theorem reads_secp256k1_point :
    ReadsExactPoint (0x00 :: 0x04 :: secp256k1Point)
      (spkiDer [0x2b, 0x81, 0x04, 0x00, 0x0a] (0x00 :: 0x04 :: secp256k1Point)) :=
  (reads_exact_point_iff ⟨_, by decide⟩ _ _ (isSpki_spkiDer (by decide) (by decide))).mpr
    (Or.inl ⟨by decide, Or.inr ⟨secp256k1Point, by decide, rfl⟩⟩)

/-- The generator of a curve with `48` bytes for each coordinate. -/
def secp384r1Point : Bytes :=
  [0xaa, 0x87, 0xca, 0x22, 0xbe, 0x8b, 0x05, 0x37, 0x8e, 0xb1, 0xc7, 0x1e, 0xf3, 0x20, 0xad, 0x74,
    0x6e, 0x1d, 0x3b, 0x62, 0x8b, 0xa7, 0x9b, 0x98, 0x59, 0xf7, 0x41, 0xe0, 0x82, 0x54, 0x2a, 0x38,
    0x55, 0x02, 0xf2, 0x5d, 0xbf, 0x55, 0x29, 0x6c, 0x3a, 0x54, 0x5e, 0x38, 0x72, 0x76, 0x0a, 0xb7,
    0x36, 0x17, 0xde, 0x4a, 0x96, 0x26, 0x2c, 0x6f, 0x5d, 0x9e, 0x98, 0xbf, 0x92, 0x92, 0xdc, 0x29,
    0xf8, 0xf4, 0x1d, 0xbd, 0x28, 0x9a, 0x14, 0x7c, 0xe9, 0xda, 0x31, 0x13, 0xb5, 0xf0, 0xb8, 0xc0,
    0x0a, 0x60, 0xb1, 0xce, 0x1d, 0x7e, 0x81, 0x9d, 0x7a, 0x43, 0x1d, 0x7c, 0x90, 0xea, 0x0e, 0x5f]

/-- A key on that curve is a public key of another shape, and `64` of its bytes
are returned. -/
theorem longer_point_is_cut :
    IsSpki (curveAlgorithm [0x2b, 0x81, 0x04, 0x00, 0x22]) (0x00 :: 0x04 :: secp384r1Point)
        (spkiDer [0x2b, 0x81, 0x04, 0x00, 0x22] (0x00 :: 0x04 :: secp384r1Point)) ∧
      ¬IsPoint (0x00 :: 0x04 :: secp384r1Point) ∧
      publicKeyFromKmsDer
          (spkiDer [0x2b, 0x81, 0x04, 0x00, 0x22] (0x00 :: 0x04 :: secp384r1Point)) =
        .ok (secp384r1Point.take 64) ∧
      ¬ReadsExactPoint (0x00 :: 0x04 :: secp384r1Point)
        (spkiDer [0x2b, 0x81, 0x04, 0x00, 0x22] (0x00 :: 0x04 :: secp384r1Point)) := by
  have notPoint : ¬IsPoint (0x00 :: 0x04 :: secp384r1Point) := by
    rintro ⟨point, length, shape⟩
    have counted : secp384r1Point.length + 2 = point.length + 2 := congrArg List.length shape
    rw [length] at counted
    exact absurd counted (by decide)
  have cut : publicKeyFromKmsDer
      (spkiDer [0x2b, 0x81, 0x04, 0x00, 0x22] (0x00 :: 0x04 :: secp384r1Point)) =
        .ok (secp384r1Point.take 64) := by
    decide +kernel
  refine ⟨isSpki_spkiDer (by decide) (by decide), notPoint, cut, ?_⟩
  intro reads
  obtain ⟨error, thrown⟩ := reads.refused notPoint
  rw [cut] at thrown
  cases thrown

end Dics.SafeOps
