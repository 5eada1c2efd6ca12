/-
One message, hashed on both sides.

The service hands its wallet a domain and a message as objects, with a list of
member types; the adapter hashes fixed words under a type string of its own.
Both arrive at the same digest, and a digest stands for one message on one chain
and contract.
-/

import Dics.Backend.OracleService

open TypedData

namespace Dics.OracleService

/-! ### What the wallet is asked to sign -/

/-- The object `buildDomain` returns. -/
def domainObject (config : Config) : Object :=
  [("name", .text config.eip712Name), ("version", .text config.eip712Version),
    ("chainId", .number config.chainId),
    ("verifyingContract", .address config.oracleAdapterAddress)]

def payloadObject (payload : OracleAdapter.OracleResponse) : Object :=
  [("claimId", .number payload.claimId), ("requestId", .word payload.requestId),
    ("approved", .flag payload.approved), ("timestamp", .number payload.timestamp)]

/-- The digest of `wallet.signTypedData(domain, ORACLE_RESPONSE_TYPES, payload)`. -/
def typedDigest (crypto : OracleAdapter.Crypto) (config : Config)
    (payload : OracleAdapter.OracleResponse) : Option Digest :=
  objectDigest crypto.keccak256 (domainObject config) "OracleResponse" oracleResponseMembers
    (payloadObject payload)

def recoverSigner (crypto : OracleAdapter.Crypto) (config : Config)
    (payload : OracleAdapter.OracleResponse) (signature : Bytes) : Option Address :=
  (typedDigest crypto config payload).bind (crypto.recover · signature)

/-- The name and version the adapter was set up with, and a chain id that is a
word. -/
structure Config.ForAdapter (config : Config) : Prop where
  name : config.eip712Name = "DICS-OracleAdapter"
  version : config.eip712Version = "1"
  chainId : config.chainId < 2 ^ 256

/-- A response whose numbers are words. -/
structure Fits (payload : OracleAdapter.OracleResponse) : Prop where
  claimId : payload.claimId < 2 ^ 256
  timestamp : payload.timestamp < 2 ^ 256

section Digests

variable {crypto : OracleAdapter.Crypto} {config : Config}
  {payload : OracleAdapter.OracleResponse}

/-- The members spell the type string the contract hashes. -/
theorem encodeType_members :
    encodeType "OracleResponse" oracleResponseMembers = OracleAdapter.oracleResponseType := by
  decide

theorem domainMembers_domainObject (config : Config) :
    domainMembers (domainObject config) = domainFields.take 4 := rfl

theorem hashStruct_domain (chainId : config.chainId < 2 ^ 256) :
    hashStruct crypto.keccak256 "EIP712Domain" (domainMembers (domainObject config))
      (domainObject config) = some (domainSeparator crypto.keccak256 (buildDomain config)) := by
  have typeText : encodeType "EIP712Domain" (domainFields.take 4) =
      "EIP712Domain(string name,string version,uint256 chainId,address verifyingContract)" := by
    decide
  have data : encodeData crypto.keccak256 (domainFields.take 4) (domainObject config) =
      some [crypto.keccak256 (asciiBytes config.eip712Name),
        crypto.keccak256 (asciiBytes config.eip712Version),
        BitVec.ofNat 256 config.chainId, config.oracleAdapterAddress.setWidth 256] :=
    encodeData_cons rfl rfl (encodeData_cons rfl rfl
      (encodeData_cons rfl (encodeValue_uint256 _ chainId) (encodeData_cons rfl rfl rfl)))
  rw [domainMembers_domainObject, hashStruct, typeText, data]
  rfl

theorem hashStruct_payload (fits : Fits payload) :
    hashStruct crypto.keccak256 "OracleResponse" oracleResponseMembers (payloadObject payload) =
      some (structHash crypto.keccak256 OracleAdapter.oracleResponseType payload.fields) := by
  have data : encodeData crypto.keccak256 oracleResponseMembers (payloadObject payload) =
      some payload.fields :=
    encodeData_cons rfl (encodeValue_uint256 _ fits.claimId) (encodeData_cons rfl rfl
      (encodeData_cons rfl rfl
        (encodeData_cons rfl (encodeValue_uint256 _ fits.timestamp) rfl)))
  rw [hashStruct, encodeType_members, data]
  rfl

/-- The three ways to the digest agree: through the objects, through the
service's own words, and through the contract's. -/
theorem typedDigest_eq (matching : config.ForAdapter) (fits : Fits payload) :
    typedDigest crypto config payload =
      some (OracleAdapter.digest crypto config.chainId config.oracleAdapterAddress payload) := by
  have domains : buildDomain config =
      OracleAdapter.domain config.chainId config.oracleAdapterAddress := by
    rw [buildDomain, matching.name, matching.version]
    rfl
  rw [typedDigest, objectDigest, hashStruct_domain matching.chainId, hashStruct_payload fits,
    domains]
  rfl

theorem signedDigest_eq (matching : config.ForAdapter) :
    signedDigest crypto config payload =
      OracleAdapter.digest crypto config.chainId config.oracleAdapterAddress payload := by
  rw [signedDigest, encodeType_members, buildDomain, matching.name, matching.version]
  rfl

/-- The strings the adapter hashes for a response. -/
def responseBytes (crypto : OracleAdapter.Crypto) (chainId : Nat) (adapter : Address)
    (payload : OracleAdapter.OracleResponse) : List Bytes :=
  hashedBytes crypto.keccak256 (OracleAdapter.domain chainId adapter)
    OracleAdapter.oracleResponseType payload.fields

theorem fields_injective {other : OracleAdapter.OracleResponse} (fits : Fits payload)
    (otherFits : Fits other) (same : payload.fields = other.fields) : payload = other := by
  simp only [OracleAdapter.OracleResponse.fields, List.cons.injEq, and_true] at same
  obtain ⟨claimIds, requestIds, decisions, timestamps⟩ := same
  cases payload
  cases other
  congr
  · exact ofNat_injective fits.claimId otherFits.claimId claimIds
  · exact boolWord_injective decisions
  · exact ofNat_injective fits.timestamp otherFits.timestamp timestamps

theorem digest_injective {other : OracleAdapter.OracleResponse} {chainId otherChainId : Nat}
    {adapter otherAdapter : Address} (fits : Fits payload) (otherFits : Fits other)
    (chainIdFits : chainId < 2 ^ 256) (otherChainIdFits : otherChainId < 2 ^ 256)
    (collisionFree : CollisionFree crypto.keccak256
      (responseBytes crypto chainId adapter payload ++
        responseBytes crypto otherChainId otherAdapter other))
    (same : OracleAdapter.digest crypto chainId adapter payload =
      OracleAdapter.digest crypto otherChainId otherAdapter other) :
    payload = other ∧ chainId = otherChainId ∧ adapter = otherAdapter := by
  have lengths : payload.fields.length = other.fields.length := rfl
  unfold responseBytes at collisionFree
  unfold OracleAdapter.digest at same
  obtain ⟨domains, fields⟩ := typedDataHash_injective _ lengths collisionFree same
  simp only [domainWords, OracleAdapter.domain, List.cons.injEq, and_true, true_and] at domains
  exact ⟨fields_injective fits otherFits fields,
    ofNat_injective chainIdFits otherChainIdFits domains.1, setWidth_injective domains.2⟩

end Digests

/-- What the service's wallet signs is what the adapter checks, so the adapter
recovers the service's signer; and no other response, chain or adapter shares
the digest, unless the hash collides on the strings of the two. -/
theorem service_signs_what_adapter_checks (crypto : OracleAdapter.Crypto) (config : Config)
    (matching : config.ForAdapter) (wallets : Wallets) (signer : Address)
    (signs : ∀ digest, crypto.recover digest (wallets.sign digest) = some signer)
    (payload : OracleAdapter.OracleResponse) (fits : Fits payload) :
    typedDigest crypto config payload =
      some (OracleAdapter.digest crypto config.chainId config.oracleAdapterAddress payload) ∧
    signOracleResponse crypto config wallets payload =
      wallets.sign
        (OracleAdapter.digest crypto config.chainId config.oracleAdapterAddress payload) ∧
    crypto.recover
        (OracleAdapter.digest crypto config.chainId config.oracleAdapterAddress payload)
        (signOracleResponse crypto config wallets payload) = some signer ∧
    recoverSigner crypto config payload (signOracleResponse crypto config wallets payload) =
      some signer ∧
    ∀ other otherChainId otherAdapter, Fits other → otherChainId < 2 ^ 256 →
      CollisionFree crypto.keccak256
        (responseBytes crypto config.chainId config.oracleAdapterAddress payload ++
          responseBytes crypto otherChainId otherAdapter other) →
      payload ≠ other ∨ (config.chainId, config.oracleAdapterAddress) ≠
        (otherChainId, otherAdapter) →
      OracleAdapter.digest crypto config.chainId config.oracleAdapterAddress payload ≠
        OracleAdapter.digest crypto otherChainId otherAdapter other := by
  have typed : typedDigest crypto config payload = _ := typedDigest_eq matching fits
  have signed : signOracleResponse crypto config wallets payload = wallets.sign
      (OracleAdapter.digest crypto config.chainId config.oracleAdapterAddress payload) :=
    congrArg wallets.sign (signedDigest_eq matching)
  have recovered := signs
    (OracleAdapter.digest crypto config.chainId config.oracleAdapterAddress payload)
  rw [← signed] at recovered
  refine ⟨typed, signed, recovered, ?_, ?_⟩
  · rw [recoverSigner, typed]
    exact recovered
  · intro other otherChainId otherAdapter otherFits otherChainIdFits collisionFree differ same
    obtain ⟨payloads, chainIds, adapters⟩ := digest_injective fits otherFits matching.chainId
      otherChainIdFits collisionFree same
    rcases differ with payload | place
    · exact payload payloads
    · exact place (congrArg₂ Prod.mk chainIds adapters)

/-! ### A signed response -/

def signedConfig : Config where
  chainId := 31337
  oracleAdapterAddress := 0x5fbdb2315678afecb367f032d93f642f64180aa3
  eip712Name := "DICS-OracleAdapter"
  eip712Version := "1"
  apiKey := "key"

def signedPayload (approved : Bool) : OracleAdapter.OracleResponse where
  claimId := 42
  requestId := 0x1111111111111111111111111111111111111111111111111111111111111111
  approved := approved
  timestamp := 1700000000

/-- The Keccak-256 digests of the texts. -/
def textDigests : List (Bytes × Digest) :=
  [(asciiBytes
      "EIP712Domain(string name,string version,uint256 chainId,address verifyingContract)",
      0x8b73c3c69bb8fe3d512ecc4cf759cc79239f7b179b0ffacaa9a75d522b39400f),
    (asciiBytes "DICS-OracleAdapter",
      0x6fe9796f109f2404dbe675f5187eefe89c6e29da3a91a54f342043a17da7c9bc),
    (asciiBytes "1", 0xc89efdaa54c0f20c7adf612882df0950f5a951637e0307cdcb4c672f298b8bc6),
    (asciiBytes OracleAdapter.oracleResponseType,
      0xf0055cfffa7abcc7d4f040230a785d418351e92f8939deacb37d5a2861a3ae26)]

def separatorSample : Digest :=
  0x4844e21dc08dcfe33f6adcb386e3fa991e958a60074a0226dfe9104d67292204

def structSample (approved : Bool) : Digest :=
  if approved then 0xd39a2fcb3949159bad905dddbd0af4bcb501b34a30e1d2e7b7b1528252fc5f28
  else 0xbb80bc24a93c5e3e49d0d40a93b51865b2209b6486a1b9158fddae62da97d26c

def digestSample (approved : Bool) : Digest :=
  if approved then 0xf3dca4b08d624192c64b8659bb1777200ec73289526062d0b7d302bbfc1d2c73
  else 0xaf870d89eeaee5e4af4ca886f4618ab5c27b326a5094540e69cbf08986423c07

/-- The Keccak-256 digests of everything that is hashed for the two responses. -/
def sampleDigests : List (Bytes × Digest) :=
  textDigests ++
    [(encodeWords
        [0x8b73c3c69bb8fe3d512ecc4cf759cc79239f7b179b0ffacaa9a75d522b39400f,
          0x6fe9796f109f2404dbe675f5187eefe89c6e29da3a91a54f342043a17da7c9bc,
          0xc89efdaa54c0f20c7adf612882df0950f5a951637e0307cdcb4c672f298b8bc6, 31337,
          0x5fbdb2315678afecb367f032d93f642f64180aa3], separatorSample)] ++
    [true, false].flatMap fun approved =>
      [(encodeWords
          (0xf0055cfffa7abcc7d4f040230a785d418351e92f8939deacb37d5a2861a3ae26 ::
            (signedPayload approved).fields), structSample approved),
        ([0x19, 0x01] ++ encodeWord separatorSample ++ encodeWord (structSample approved),
          digestSample approved)]

def signerSample : Address := 0xf39fd6e51aad88f6f4ce6ab8827279cfffb92266

/-- The signer's signature of the approving digest: `r`, `s` and `v`. -/
def signatureSample : Bytes :=
  encodeWords
    [0x412e25c3fe9d4b228cf94496ba0b801bc50466ba94aa1e9d5298641c10debbe8,
      0x3fdd986a787aff6b446b35c79c6d036bd8733aced2d4b60090dd5ab164b193c1] ++ [28]

/-- Off the sample the digest itself stands for its signature. -/
def signSample (digest : Digest) : Bytes :=
  if digest = digestSample true then signatureSample else encodeWord digest

def cryptoSample : OracleAdapter.Crypto where
  keccak256 bytes := (sampleDigests.lookup bytes).getD 0
  recover digest signature := if signature = signSample digest then some signerSample else none

theorem service_signs_what_adapter_checks_sample :
    typedDigest cryptoSample signedConfig (signedPayload true) = some (digestSample true) ∧
      cryptoSample.recover (digestSample true) signatureSample = some signerSample ∧
      OracleAdapter.digest cryptoSample 31337 signedConfig.oracleAdapterAddress
          (signedPayload true) ≠
        OracleAdapter.digest cryptoSample 31337 signedConfig.oracleAdapterAddress
          (signedPayload false) := by
  obtain ⟨typed, signed, recovered, _, separate⟩ :=
    service_signs_what_adapter_checks cryptoSample signedConfig ⟨rfl, rfl, by decide⟩
      ⟨signSample, 0⟩ signerSample (fun _ => if_pos rfl) (signedPayload true)
      ⟨by decide, by decide⟩
  have digest : OracleAdapter.digest cryptoSample signedConfig.chainId
      signedConfig.oracleAdapterAddress (signedPayload true) = digestSample true := by
    decide +kernel
  rw [digest] at typed signed recovered
  rw [signed] at recovered
  refine ⟨typed, recovered, ?_⟩
  apply separate (signedPayload false) 31337 signedConfig.oracleAdapterAddress
    ⟨by decide, by decide⟩ (by decide)
  · unfold CollisionFree
    decide +kernel
  · exact Or.inl (by decide)

end Dics.OracleService
