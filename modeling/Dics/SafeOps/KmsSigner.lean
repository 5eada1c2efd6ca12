/-
The signer whose private key stays in KMS.

KMS and the Ethereum library are parameters.  A coordinate stands for its
hexadecimal text, and `s` for `'0x' + s.toString(16).padStart(64, '0')`, which is
no hexadecimal text where `s` is negative.  `null` and the empty text count as no
cached address; the provider is left out.
-/

import Dics.SafeOps.DerUtils
import Dics.Lib.Texts
import Dics.Lib.Transactions

open TypedData Der Texts
open Transactions (bind_eq_ok)

namespace Dics.SafeOps

/-! ### Texts of bytes -/

/-- `Buffer.from(text, 'hex')`: it stops at the first pair that is no byte. -/
def bufferFromHex : List Char → Bytes
  | high :: low :: rest =>
      match hexDigit high, hexDigit low with
      | some first, some second => UInt8.ofNat (first * 16 + second) :: bufferFromHex rest
      | _, _ => []
  | _ => []

def hexDigits (bytes : Bytes) : List Char :=
  bytes.flatMap fun byte => [Nat.digitChar (byte.toNat / 16), Nat.digitChar (byte.toNat % 16)]

def hexlify (bytes : Bytes) : String :=
  String.ofList ('0' :: 'x' :: hexDigits bytes)

theorem bufferFromHex_hexDigits (bytes : Bytes) : bufferFromHex (hexDigits bytes) = bytes := by
  induction bytes with
  | nil => rfl
  | cons byte rest ih =>
      have unfolded : hexDigits (byte :: rest) = Nat.digitChar (byte.toNat / 16) ::
          Nat.digitChar (byte.toNat % 16) :: hexDigits rest := rfl
      rw [unfolded, bufferFromHex, hexDigit_high, hexDigit_low]
      dsimp only
      rw [ofNat_digits, ih]

theorem bufferFromHex_hexlify (bytes : Bytes) :
    bufferFromHex ((hexlify bytes).toList.drop 2) = bytes := by
  rw [hexlify, String.toList_ofList]
  exact bufferFromHex_hexDigits bytes

def toLowerCase (text : String) : List Char :=
  text.toList.map Char.toLower

/-! ### Collaborators -/

inductive Command where
  | getPublicKey (keyId : String)
  | sign (keyId : String) (message : Bytes) (messageType signingAlgorithm : String)

structure Response where
  publicKey : Option Bytes
  signature : Option Bytes

abbrev KmsClient := Command → Except Error Response

structure Signature where
  r : Bytes
  s : Nat
  v : Nat
  deriving DecidableEq

/-- What the signer uses of the Ethereum library. -/
structure Ethers where
  computeAddress : Bytes → Except Error String
  signatureFrom : Bytes → Int → Nat → Except Error Signature
  recoverAddress : String → Signature → Except Error String

/-! ### The signer -/

/-- `SECP256K1_N`, the order of the curve. -/
def secp256k1N : Nat :=
  0xFFFFFFFFFFFFFFFFFFFFFFFFFFFFFFFEBAAEDCE6AF48A03BBFD25E8CD0364141

def secp256k1HalfN : Nat :=
  secp256k1N / 2

structure KmsSigner where
  keyId : String
  cachedAddress : Option String

def bufferFrom : Option Bytes → Except Error Bytes
  | some bytes => .ok bytes
  | none => .error { message := "The first argument must be of type string or an instance of " ++
      "Buffer, ArrayBuffer, or Array or an Array-like Object. Received undefined" }

variable (ethers : Ethers) (kmsClient : KmsClient)

def getAddress (signer : KmsSigner) : Except Error (String × KmsSigner) :=
  match signer.cachedAddress with
  | some address => .ok (address, signer)
  | none => do
      let response ← kmsClient (.getPublicKey signer.keyId)
      let rawPoint ← publicKeyFromKmsDer (← bufferFrom response.publicKey)
      let address ← ethers.computeAddress (0x04 :: rawPoint)
      return (address, { signer with cachedAddress := some address })

/-- The loop over the candidates. -/
def findAmong (digestHex : String) (r : Bytes) (s : Int) (expectedAddress : String) :
    List Nat → Except Error Nat
  | [] => .error { message := "Could not determine a valid recovery id — signature does not " ++
      "match this signer's address" }
  | recoveryId :: others => do
      let candidateSignature ← ethers.signatureFrom r s (27 + recoveryId)
      let recovered ← ethers.recoverAddress digestHex candidateSignature
      if toLowerCase recovered = toLowerCase expectedAddress then
        return recoveryId
      findAmong digestHex r s expectedAddress others

def findRecoveryId (digestHex : String) (r : Bytes) (s : Int) (expectedAddress : String) :
    Except Error Nat :=
  findAmong ethers digestHex r s expectedAddress [0, 1]

/-- Up to the answer of KMS. -/
def requestSignature (signer : KmsSigner) (digestHex : String) : Except Error RawSignature := do
  let digestBytes := bufferFromHex (digestHex.toList.drop 2)
  if digestBytes.length ≠ 32 then
    throw { message := "_signDigest expects a 32-byte digest, got " ++
      toString digestBytes.length ++ " bytes" }
  let response ← kmsClient (.sign signer.keyId digestBytes "DIGEST" "ECDSA_SHA_256")
  signatureFromKmsDer (← bufferFrom response.signature)

def normalize (s : Nat) : Int :=
  if s > secp256k1HalfN then (secp256k1N : Int) - s else s

/-- From the answer of KMS on. -/
def assemble (signer : KmsSigner) (digestHex : String) (r : Bytes) (s : Int) :
    Except Error Signature × KmsSigner :=
  match getAddress ethers kmsClient signer with
  | .error error => (.error error, signer)
  | .ok (address, known) =>
      (do
        let recoveryId ← findRecoveryId ethers digestHex r s address
        ethers.signatureFrom r s (27 + recoveryId), known)

def signDigest (signer : KmsSigner) (digestHex : String) : Except Error Signature × KmsSigner :=
  match requestSignature kmsClient signer digestHex with
  | .error error => (.error error, signer)
  | .ok raw => assemble ethers kmsClient signer digestHex raw.r (normalize (value raw.s))

/-! ### Every answer -/

def RecoversTo (digestHex : String) (signature : Signature) (address : String) : Prop :=
  ∃ recovered, ethers.recoverAddress digestHex signature = .ok recovered ∧
    toLowerCase recovered = toLowerCase address

variable {ethers kmsClient}

theorem getAddress_caches {signer known : KmsSigner} {address : String}
    (found : getAddress ethers kmsClient signer = .ok (address, known)) :
    known.cachedAddress = some address := by
  unfold getAddress at found
  cases cached : signer.cachedAddress with
  | some address' =>
      rw [cached] at found
      cases found
      exact cached
  | none =>
      rw [cached] at found
      obtain ⟨_, _, found⟩ := bind_eq_ok.mp found
      obtain ⟨_, _, found⟩ := bind_eq_ok.mp found
      obtain ⟨_, _, found⟩ := bind_eq_ok.mp found
      obtain ⟨computed, _, returned⟩ := bind_eq_ok.mp found
      cases returned
      rfl

theorem getAddress_of_cached {signer : KmsSigner} {address : String}
    (cached : signer.cachedAddress = some address) (later : KmsClient) :
    getAddress ethers later signer = .ok (address, signer) := by
  unfold getAddress
  rw [cached]

/-- The candidate that is found recovers to the expected address. -/
theorem findAmong_sound {digestHex expectedAddress : String} {r : Bytes} {s : Int}
    {candidates : List Nat} {recoveryId : Nat}
    (found : findAmong ethers digestHex r s expectedAddress candidates = .ok recoveryId) :
    recoveryId ∈ candidates ∧
      ∃ candidate, ethers.signatureFrom r s (27 + recoveryId) = .ok candidate ∧
        RecoversTo ethers digestHex candidate expectedAddress := by
  induction candidates with
  | nil => cases found
  | cons first others ih =>
      rw [findAmong] at found
      obtain ⟨candidate, made, found⟩ := bind_eq_ok.mp found
      obtain ⟨recovered, recovers, found⟩ := bind_eq_ok.mp found
      by_cases same : toLowerCase recovered = toLowerCase expectedAddress
      · rw [if_pos same] at found
        cases found
        exact ⟨List.mem_cons_self, candidate, made, recovered, recovers, same⟩
      · rw [if_neg same] at found
        obtain ⟨member, rest⟩ := ih found
        exact ⟨List.mem_cons_of_mem first member, rest⟩

/-- The final signature is the candidate that was found, made once more. -/
theorem assemble_sound {signer next : KmsSigner} {digestHex : String} {r : Bytes} {s : Int}
    {signature : Signature}
    (signed : assemble ethers kmsClient signer digestHex r s = (.ok signature, next)) :
    ∃ address, next.cachedAddress = some address ∧
      RecoversTo ethers digestHex signature address := by
  unfold assemble at signed
  cases found : getAddress ethers kmsClient signer with
  | error error =>
      rw [found] at signed
      cases signed
  | ok answer =>
      obtain ⟨address, known⟩ := answer
      rw [found] at signed
      obtain ⟨made, rfl⟩ := Prod.mk.inj signed
      obtain ⟨recoveryId, searched, made⟩ := bind_eq_ok.mp made
      obtain ⟨_, candidate, candidateMade, recovers⟩ := findAmong_sound searched
      rw [candidateMade] at made
      cases made
      exact ⟨address, getAddress_caches found, recovers⟩

theorem signDigest_sound {signer next : KmsSigner} {digestHex : String} {signature : Signature}
    (signed : signDigest ethers kmsClient signer digestHex = (.ok signature, next)) :
    ∃ address, next.cachedAddress = some address ∧
      RecoversTo ethers digestHex signature address := by
  unfold signDigest at signed
  cases requested : requestSignature kmsClient signer digestHex with
  | error error =>
      rw [requested] at signed
      cases signed
  | ok raw =>
      rw [requested] at signed
      exact assemble_sound signed

/-! ### Low halves -/

/-- The smaller of the two numbers that sign the same digest. -/
def lowS (s : Nat) : Nat :=
  min s (secp256k1N - s)

theorem normalize_eq {s : Nat} (bounded : s < secp256k1N) : normalize s = (lowS s : Int) := by
  unfold normalize lowS secp256k1HalfN
  have odd : secp256k1N = 2 * (secp256k1N / 2) + 1 := by decide
  by_cases high : s > secp256k1N / 2
  · rw [if_pos high, Nat.min_eq_right (by omega)]
    omega
  · rw [if_neg high, Nat.min_eq_left (by omega)]

theorem lowS_flip {s : Nat} (bounded : s < secp256k1N) : lowS (secp256k1N - s) = lowS s := by
  unfold lowS
  rw [Nat.sub_sub_self (Nat.le_of_lt bounded), Nat.min_comm]

theorem lowS_le (s : Nat) : lowS s ≤ secp256k1HalfN := by
  unfold lowS secp256k1HalfN
  omega

theorem lowS_pos {s : Nat} (positive : 0 < s) (bounded : s < secp256k1N) : 0 < lowS s := by
  unfold lowS
  omega

/-! ### Valid answers -/

/-- Address recovery as a function of the digest, `r`, `s` and the recovery id.
It has no value where the library throws. -/
abbrev Recover := Bytes → Nat → Nat → Nat → Option String

/-- A signature is built where the library takes it for canonical, its address is
the recovered one, and negating `s` flips the recovery id. -/
structure Ethers.Lawful (ethers : Ethers) (recover : Recover) : Prop where
  signatureFrom_canonical : ∀ (r : Bytes) (s v : Nat), r.length = 32 → s < 2 ^ 255 →
    v = 27 ∨ v = 28 → ethers.signatureFrom r (s : Int) v = .ok ⟨r, s, v⟩
  recoverAddress_eq : ∀ (digest : Bytes) (r s recoveryId : Nat), digest.length = 32 →
    0 < r → r < secp256k1N → 0 < s → s ≤ secp256k1HalfN → recoveryId < 2 →
    (ethers.recoverAddress (hexlify digest)
        ⟨encodeWord (BitVec.ofNat 256 r), s, 27 + recoveryId⟩).toOption =
      recover digest r s recoveryId
  recover_flip : ∀ (digest : Bytes) (r s recoveryId : Nat), 0 < s → s < secp256k1N →
    recoveryId < 2 → recover digest r (secp256k1N - s) (1 - recoveryId) =
      recover digest r s recoveryId

/-- The signer is recovered for one of the two ids. -/
def Signs (recover : Recover) (digest : Bytes) (r s : Nat) (address : String) : Prop :=
  ∃ recoveryId recovered, recoveryId < 2 ∧ recover digest r s recoveryId = some recovered ∧
    toLowerCase recovered = toLowerCase address

/-- What KMS answers to the request for a signature of `digest`. -/
def Answers (kmsClient : KmsClient) (signer : KmsSigner) (digest : Bytes) (r s : Nat) : Prop :=
  ∃ response, kmsClient (.sign signer.keyId digest "DIGEST" "ECDSA_SHA_256") = .ok response ∧
    response.signature = some (signatureDer r s)

theorem signs_lowS {recover : Recover} (lawful : ethers.Lawful recover) {digest : Bytes}
    {r s : Nat} {address : String} (positive : 0 < s) (bounded : s < secp256k1N)
    (signs : Signs recover digest r s address) : Signs recover digest r (lowS s) address := by
  obtain ⟨recoveryId, recovered, small, recovers, same⟩ := signs
  unfold lowS
  rcases Nat.le_total s (secp256k1N - s) with low | high
  · rw [Nat.min_eq_left low]
    exact ⟨recoveryId, recovered, small, recovers, same⟩
  · rw [Nat.min_eq_right high]
    refine ⟨1 - recoveryId, recovered, by omega, ?_, same⟩
    rw [lawful.recover_flip digest r s recoveryId positive bounded small]
    exact recovers

/-- An answer of KMS is read, padded and normalised. -/
theorem signDigest_of_answer {signer : KmsSigner} {digest : Bytes} {r s : Nat}
    (length : digest.length = 32) (rBounded : r < secp256k1N) (sBounded : s < secp256k1N)
    (answers : Answers kmsClient signer digest r s) :
    signDigest ethers kmsClient signer (hexlify digest) =
      assemble ethers kmsClient signer (hexlify digest) (encodeWord (BitVec.ofNat 256 r))
        (lowS s : Int) := by
  obtain ⟨response, answered, signature⟩ := answers
  have fits : secp256k1N < 2 ^ 256 := by decide
  have sWord : value (encodeWord (BitVec.ofNat 256 s)) = s := value_encodeWord_ofNat (by omega)
  have read := signatureFromKmsDer_signatureDer r s [] (by omega) (by omega)
  rw [List.append_nil] at read
  have requested : requestSignature kmsClient signer (hexlify digest) =
      .ok ⟨encodeWord (BitVec.ofNat 256 r), encodeWord (BitVec.ofNat 256 s)⟩ := by
    unfold requestSignature
    simp only [bufferFromHex_hexlify, length, ne_eq, not_true_eq_false, if_false]
    rw [answered]
    show (bufferFrom response.signature >>= signatureFromKmsDer) = _
    rw [signature]
    exact read
  unfold signDigest
  rw [requested]
  dsimp only
  rw [sWord, normalize_eq sBounded]

section Valid

variable {recover : Recover} {digest : Bytes} {r s : Nat} {address : String}

/-- One round of the search, on the low form of an answer. -/
theorem findAmong_lowS (lawful : ethers.Lawful recover) (length : digest.length = 32)
    (rPositive : 0 < r) (rBounded : r < secp256k1N) (sPositive : 0 < s)
    (sBounded : s < secp256k1N) {recoveryId : Nat} (small : recoveryId < 2)
    (others : List Nat) :
    (findAmong ethers (hexlify digest) (encodeWord (BitVec.ofNat 256 r)) (lowS s : Int) address
        (recoveryId :: others)).toOption =
      match recover digest r (lowS s) recoveryId with
      | none => none
      | some recovered =>
          if toLowerCase recovered = toLowerCase address then some recoveryId
          else (findAmong ethers (hexlify digest) (encodeWord (BitVec.ofNat 256 r))
            (lowS s : Int) address others).toOption := by
  have half : secp256k1HalfN < 2 ^ 255 := by decide
  have low := lowS_le s
  have made := lawful.signatureFrom_canonical (encodeWord (BitVec.ofNat 256 r)) (lowS s)
    (27 + recoveryId) (encodeWord_length _) (by omega) (by omega)
  have recovers := lawful.recoverAddress_eq digest r (lowS s) recoveryId length rPositive rBounded
    (lowS_pos sPositive sBounded) low small
  rw [← recovers, findAmong, made]
  cases answer : ethers.recoverAddress (hexlify digest)
      ⟨encodeWord (BitVec.ofNat 256 r), lowS s, 27 + recoveryId⟩ with
  | error error =>
      show (ethers.recoverAddress _ _ >>= _).toOption = _
      rw [answer]
      rfl
  | ok recovered =>
      show (ethers.recoverAddress _ _ >>= _).toOption = _
      rw [answer]
      by_cases same : toLowerCase recovered = toLowerCase address
      · show (if _ then _ else _ : Except Error Nat).toOption = if _ then _ else _
        rw [if_pos same, if_pos same]
        rfl
      · show (if _ then _ else _ : Except Error Nat).toOption = if _ then _ else _
        rw [if_neg same, if_neg same]

/-- The search on a valid answer ends well exactly where the first candidate
recovers some address. -/
theorem findRecoveryId_of_signs (lawful : ethers.Lawful recover) (length : digest.length = 32)
    (rPositive : 0 < r) (rBounded : r < secp256k1N) (sPositive : 0 < s)
    (sBounded : s < secp256k1N) (signs : Signs recover digest r s address) :
    (∃ recoveryId,
        findRecoveryId ethers (hexlify digest) (encodeWord (BitVec.ofNat 256 r)) (lowS s : Int)
          address = .ok recoveryId) ↔
      recover digest r (lowS s) 0 ≠ none := by
  have round {recoveryId : Nat} (small : recoveryId < 2) := fun others =>
    @findAmong_lowS ethers recover digest r s address lawful length rPositive rBounded sPositive
      sBounded _ small others
  have toOption_ok {search : Except Error Nat} {found : Nat}
      (same : search.toOption = some found) : search = .ok found := by
    cases search with
    | error error => cases same
    | ok result =>
        cases same
        rfl
  have first := round (show 0 < 2 by decide) [1]
  have second := round (show 1 < 2 by decide) []
  constructor
  · rintro ⟨recoveryId, found⟩ missing
    unfold findRecoveryId at found
    rw [missing, found] at first
    cases first
  · intro present
    obtain ⟨recovered, recovers⟩ := Option.ne_none_iff_exists'.mp present
    rw [recovers] at first
    dsimp only at first
    by_cases same : toLowerCase recovered = toLowerCase address
    · rw [if_pos same] at first
      exact ⟨0, toOption_ok first⟩
    · obtain ⟨recoveryId, signer, small, signerRecovered, signerSame⟩ :=
        signs_lowS lawful sPositive sBounded signs
      have isSecond : recoveryId = 1 := by
        by_contra other
        have isFirst : recoveryId = 0 := by omega
        rw [isFirst, recovers] at signerRecovered
        cases signerRecovered
        exact same signerSame
      rw [isSecond] at signerRecovered
      rw [signerRecovered] at second
      dsimp only at second
      rw [if_pos signerSame] at second
      rw [if_neg same, second] at first
      exact ⟨1, toOption_ok first⟩

end Valid

/-- A valid answer ends in a signature exactly where the first candidate recovers
some address. -/
theorem signDigest_of_signs {recover : Recover} {signer known : KmsSigner} {digest : Bytes}
    {r s : Nat} {address : String} (lawful : ethers.Lawful recover)
    (length : digest.length = 32) (rPositive : 0 < r) (rBounded : r < secp256k1N)
    (sPositive : 0 < s) (sBounded : s < secp256k1N)
    (addressKnown : getAddress ethers kmsClient signer = .ok (address, known))
    (answers : Answers kmsClient signer digest r s)
    (signs : Signs recover digest r s address) :
    (∃ signature next,
        signDigest ethers kmsClient signer (hexlify digest) = (.ok signature, next) ∧
          signature.r = encodeWord (BitVec.ofNat 256 r) ∧ signature.s ≤ secp256k1HalfN ∧
          RecoversTo ethers (hexlify digest) signature address) ↔
      recover digest r (lowS s) 0 ≠ none := by
  have search := findRecoveryId_of_signs lawful length rPositive rBounded sPositive sBounded signs
  have reduced := @signDigest_of_answer ethers kmsClient signer digest r s length rBounded sBounded
    answers
  rw [← search, reduced]
  unfold assemble
  rw [addressKnown]
  constructor
  · rintro ⟨signature, next, signed, _⟩
    obtain ⟨recoveryId, found, _⟩ := bind_eq_ok.mp (Prod.mk.inj signed).1
    exact ⟨recoveryId, found⟩
  · rintro ⟨recoveryId, found⟩
    obtain ⟨member, candidate, made, recovers⟩ := findAmong_sound found
    have small : recoveryId < 2 := by
      rcases List.mem_cons.mp member with first | later
      · omega
      · have second := List.mem_singleton.mp later
        omega
    have half : secp256k1HalfN < 2 ^ 255 := by decide
    have low := lowS_le s
    have canonical := lawful.signatureFrom_canonical (encodeWord (BitVec.ofNat 256 r)) (lowS s)
      (27 + recoveryId) (encodeWord_length _) (by omega) (by omega)
    rw [canonical] at made
    cases made
    refine ⟨_, known, ?_, rfl, low, recovers⟩
    dsimp only
    rw [found]
    exact Prod.ext canonical rfl

/-- A valid answer gives the low signature of the signer, the other valid answer
gives the same one, and no answer gives a signature of another address. -/
structure SignsForItsAddress (ethers : Ethers) (kmsClient : KmsClient) (signer : KmsSigner)
    (digest : Bytes) (r s : Nat) (address : String) : Prop where
  signed : ∃ signature next,
    signDigest ethers kmsClient signer (hexlify digest) = (.ok signature, next) ∧
      signature.r = encodeWord (BitVec.ofNat 256 r) ∧ signature.s ≤ secp256k1HalfN ∧
      RecoversTo ethers (hexlify digest) signature address
  symmetric : ∀ other : KmsClient,
    other (.getPublicKey signer.keyId) = kmsClient (.getPublicKey signer.keyId) →
      Answers other signer digest r (secp256k1N - s) →
      signDigest ethers other signer (hexlify digest) =
        signDigest ethers kmsClient signer (hexlify digest)
  neverAnother : ∀ (anyClient : KmsClient) (digestHex : String) (signature : Signature)
    (next : KmsSigner),
    signDigest ethers anyClient signer digestHex = (.ok signature, next) →
      ∀ later : KmsClient, ∃ known, getAddress ethers later next = .ok (known, next) ∧
        RecoversTo ethers digestHex signature known

/-- The search gives up where the first candidate recovers no address at all. -/
theorem signs_for_its_address_iff (ethers : Ethers) (recover : Recover)
    (lawful : ethers.Lawful recover) (kmsClient : KmsClient) (signer known : KmsSigner)
    (digest : Bytes) (r s : Nat) (address : String) (length : digest.length = 32)
    (rPositive : 0 < r) (rBounded : r < secp256k1N) (sPositive : 0 < s)
    (sBounded : s < secp256k1N)
    (addressKnown : getAddress ethers kmsClient signer = .ok (address, known))
    (answers : Answers kmsClient signer digest r s)
    (signs : Signs recover digest r s address) :
    SignsForItsAddress ethers kmsClient signer digest r s address ↔
      recover digest r (lowS s) 0 ≠ none := by
  have ends := signDigest_of_signs lawful length rPositive rBounded sPositive sBounded
    addressKnown answers signs
  constructor
  · intro holds
    exact ends.mp holds.signed
  · intro present
    constructor
    · exact ends.mpr present
    · intro other samePublicKey otherAnswers
      have sameAddress : getAddress ethers other signer = getAddress ethers kmsClient signer := by
        unfold getAddress
        rw [samePublicKey]
      rw [signDigest_of_answer length rBounded (by omega) otherAnswers,
        signDigest_of_answer length rBounded sBounded answers, lowS_flip sBounded]
      unfold assemble
      rw [sameAddress]
    · intro anyClient digestHex signature next signed later
      obtain ⟨cached, same, recovers⟩ := signDigest_sound signed
      exact ⟨cached, getAddress_of_cached same later, recovers⟩

/-! ### One key -/

/-- Recovery for one digest, one `r` and the two values of `s` that go with it. -/
def recoverAt (digest : Bytes) (r low : Nat) (answer : Nat → Option String) : Recover :=
  fun digest' r' s recoveryId =>
    if digest' = digest ∧ r' = r ∧ lowS s = low then
      answer (if s ≤ secp256k1HalfN then recoveryId else 1 - recoveryId)
    else none

def ethersAt (point : Bytes) (address : String) (recover : Recover) : Ethers :=
  { computeAddress := fun key =>
      if key = 0x04 :: point then .ok address else .error { message := "invalid public key" }
    signatureFrom := fun r s v =>
      if r.length = 32 ∧ 0 ≤ s ∧ s < 2 ^ 255 ∧ (v = 27 ∨ v = 28) then .ok ⟨r, s.toNat, v⟩
      else .error { message := "invalid signature" }
    recoverAddress := fun digestHex signature =>
      match recover (bufferFromHex (digestHex.toList.drop 2)) (value signature.r) signature.s
          (signature.v - 27) with
      | some recovered => .ok recovered
      | none => .error { message := "point at infinity" } }

theorem recoverAt_flip (digest : Bytes) (r low : Nat) (answer : Nat → Option String)
    (digest' : Bytes) (r' s recoveryId : Nat) (bounded : s < secp256k1N)
    (small : recoveryId < 2) :
    recoverAt digest r low answer digest' r' (secp256k1N - s) (1 - recoveryId) =
      recoverAt digest r low answer digest' r' s recoveryId := by
  have half : secp256k1HalfN = secp256k1N / 2 := rfl
  have odd : secp256k1N = 2 * (secp256k1N / 2) + 1 := by decide
  unfold recoverAt
  rw [lowS_flip bounded]
  by_cases below : s ≤ secp256k1HalfN
  · have above : ¬secp256k1N - s ≤ secp256k1HalfN := by omega
    have twice : 1 - (1 - recoveryId) = recoveryId := by omega
    rw [if_pos below, if_neg above, twice]
  · have above : secp256k1N - s ≤ secp256k1HalfN := by omega
    rw [if_neg below, if_pos above]

theorem ethersAt_lawful (point : Bytes) (address : String) (digest : Bytes) (r low : Nat)
    (answer : Nat → Option String) :
    (ethersAt point address (recoverAt digest r low answer)).Lawful
      (recoverAt digest r low answer) := by
  constructor
  · intro r s v length small candidate
    show (if _ then _ else _ : Except Error Signature) = _
    rw [if_pos ⟨length, by omega, by omega, candidate⟩, Int.toNat_natCast]
  · intro digest' r' s recoveryId _ _ rBounded _ _ _
    have fits : secp256k1N < 2 ^ 256 := by decide
    have rWord : value (encodeWord (BitVec.ofNat 256 r')) = r' :=
      value_encodeWord_ofNat (by omega)
    simp only [ethersAt, bufferFromHex_hexlify, rWord, Nat.add_sub_cancel_left]
    cases recoverAt digest r low answer digest' r' s recoveryId with
    | none => rfl
    | some recovered => rfl
  · intro digest' r' s recoveryId _ bounded small
    exact recoverAt_flip digest r low answer digest' r' s recoveryId bounded small

def kmsAt (point : Bytes) (r s : Nat) : KmsClient
  | .getPublicKey _ =>
      .ok { publicKey := some (spkiDer [0x2b, 0x81, 0x04, 0x00, 0x0a] (0x00 :: 0x04 :: point))
            signature := none }
  | .sign _ _ _ _ => .ok { publicKey := none, signature := some (signatureDer r s) }

theorem getAddress_kmsAt {point : Bytes} (length : point.length = 64) (address keyId : String)
    (recover : Recover) (r s : Nat) :
    getAddress (ethersAt point address recover) (kmsAt point r s) ⟨keyId, none⟩ =
      .ok (address, ⟨keyId, some address⟩) := by
  have read := publicKeyFromKmsDer_spkiDer (show [0x2b, 0x81, 0x04, 0x00, 0x0a].length < 10 by
    decide) length
  have computed : (ethersAt point address recover).computeAddress (0x04 :: point) =
      .ok address := if_pos rfl
  show (publicKeyFromKmsDer _ >>= fun rawPoint =>
    (ethersAt point address recover).computeAddress (0x04 :: rawPoint) >>= _) = _
  rw [read]
  show ((ethersAt point address recover).computeAddress (0x04 :: point) >>= _) = _
  rw [computed]
  rfl

/-- The public key of the private key `3`. -/
def thirdPoint : Bytes :=
  encodeWord 0xf9308a019258c31049344f85f89d5229b531c845836f99b08601f113bce036f9 ++
    encodeWord 0x388f7b0f632de8140fe337e62a37f3566500a99934c2231b6cb9fd7584b8e672

def thirdAddress : String :=
  "0x6813Eb9362372EEF6200f3b1dbC3f819671cBA69"

/-- A digest signed with the nonce `2`: the answer of KMS is high, and the first
candidate is another address. -/
def plainDigest : Bytes :=
  encodeWord 0xd4fd4e189132273036449fc9e11198c739161b4c0116a9a2dccdfa1c492006f1

def plainR : Nat :=
  0xc6047f9441ed7d6d3045406e95c07cd85c778e4b8cef3ca7abac09b95c709ee5

def plainS : Nat :=
  0x9385666aab7d4fbbe38a308ad12987a96c8f8630a4a98f913016ad175f02b08f

def plainRecover : Recover :=
  recoverAt plainDigest plainR (lowS plainS) fun recoveryId =>
    if recoveryId = 0 then some "0xA0Df5d0CbafACC5E3142f73ef903C5E568e4F4aB"
    else some thirdAddress

theorem signs_for_its_address_sample :
    SignsForItsAddress (ethersAt thirdPoint thirdAddress plainRecover)
      (kmsAt thirdPoint plainR plainS) ⟨"test-key-id", none⟩ plainDigest plainR plainS
      thirdAddress := by
  have pointLength : thirdPoint.length = 64 := by decide
  refine (signs_for_its_address_iff _ plainRecover (ethersAt_lawful _ _ _ _ _ _) _ _ _ _ _ _ _
    (encodeWord_length _) (by decide) (by decide) (by decide) (by decide)
    (getAddress_kmsAt pointLength _ _ _ _ _) ⟨_, rfl, rfl⟩
    ⟨0, thirdAddress, by decide, ?_, rfl⟩).mpr ?_
  · unfold plainRecover recoverAt
    rw [if_pos ⟨rfl, rfl, rfl⟩]
    decide +kernel
  · unfold plainRecover recoverAt
    rw [if_pos ⟨rfl, rfl, by decide +kernel⟩]
    decide +kernel

/-- The digest whose other candidate is the point at infinity, for the nonce `1`.
The coordinate `r` is that of the generator. -/
def stuckDigest : Bytes :=
  encodeWord 0x496266418934e67d7f8f6c1f4a356f7436c4e19dea9362f5b8e69c842dc21ddd

def stuckR : Nat :=
  0x79be667ef9dcbbac55a06295ce870b07029bfcdb2dce28d959f2815b16f81798

def stuckS : Nat :=
  0xb69d99be76cb1982807093e0b5ca908a83e9fb48c4b53d4606ebc208a2742364

def stuckRecover : Recover :=
  recoverAt stuckDigest stuckR (lowS stuckS) fun recoveryId =>
    if recoveryId = 0 then none else some thirdAddress

/-- `s` is the signature of the digest with the private key `3` and the nonce `1`,
and the digest and the key cancel in the first candidate. -/
theorem search_gives_up :
    (value stuckDigest + 3 * stuckR) % secp256k1N = stuckS ∧
      (2 * value stuckDigest + 3 * stuckR) % secp256k1N = 0 ∧
      (ethersAt thirdPoint thirdAddress stuckRecover).Lawful stuckRecover ∧
      getAddress (ethersAt thirdPoint thirdAddress stuckRecover)
          (kmsAt thirdPoint stuckR stuckS) ⟨"test-key-id", none⟩ =
        .ok (thirdAddress, ⟨"test-key-id", some thirdAddress⟩) ∧
      Answers (kmsAt thirdPoint stuckR stuckS) ⟨"test-key-id", none⟩ stuckDigest stuckR stuckS ∧
      Signs stuckRecover stuckDigest stuckR stuckS thirdAddress ∧
      ¬SignsForItsAddress (ethersAt thirdPoint thirdAddress stuckRecover)
        (kmsAt thirdPoint stuckR stuckS) ⟨"test-key-id", none⟩ stuckDigest stuckR stuckS
        thirdAddress := by
  have pointLength : thirdPoint.length = 64 := by decide
  have lawful : (ethersAt thirdPoint thirdAddress stuckRecover).Lawful stuckRecover :=
    ethersAt_lawful _ _ _ _ _ _
  have known := getAddress_kmsAt pointLength thirdAddress "test-key-id" stuckRecover stuckR stuckS
  have answers : Answers (kmsAt thirdPoint stuckR stuckS) ⟨"test-key-id", none⟩ stuckDigest stuckR
      stuckS := ⟨_, rfl, rfl⟩
  have signs : Signs stuckRecover stuckDigest stuckR stuckS thirdAddress := by
    refine ⟨0, thirdAddress, by decide, ?_, rfl⟩
    unfold stuckRecover recoverAt
    rw [if_pos ⟨rfl, rfl, rfl⟩]
    decide +kernel
  refine ⟨by decide +kernel, by decide +kernel, lawful, known, answers, signs, ?_⟩
  intro holds
  have present := (signDigest_of_signs lawful (encodeWord_length _) (by decide) (by decide)
    (by decide) (by decide) known answers signs).mp holds.signed
  apply present
  unfold stuckRecover recoverAt
  rw [if_pos ⟨rfl, rfl, by decide +kernel⟩]
  decide +kernel

end Dics.SafeOps
