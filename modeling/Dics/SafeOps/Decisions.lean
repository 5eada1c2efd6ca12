/-
Decisions on claims, from the desk to the registry.

`04-propose-and-execute-transaction` turns a claim id and a word on its command
line into calldata for the Safe; the underwriter service's endpoints turn the
same decisions into calldata of a single key.  Both write the calls of the
registry byte for byte, so a list of decisions given either way, and a payout a
window for what was approved, settles the claims on it.  The encoders of ethers
and web3j are parameters, and so is the provider that the script opens first.
-/

import Dics.Chain.Backlog
import Dics.Chain.RegistryAbi
import Dics.SafeOps.Offboarding

open TypedData Calldata Transactions Texts

namespace Dics.Underwriter

/-! ### The underwriter service's client -/

/-- web3j's `FunctionEncoder.encode` with the wrapping of the arguments; `none`
where a wrapper throws. -/
structure FunctionEncoder where
  encode : Signature → List Int → Option Bytes

/-- Values in range are encoded, negative ones are no unsigned integers. -/
structure FunctionEncoder.Documented (keccak : Bytes → Digest) (encoder : FunctionEncoder) :
    Prop where
  encodes : ∀ (signature : Signature) (values : List Nat), Fits signature.kinds values →
    encoder.encode signature (values.map fun value : Nat => (value : Int)) =
      some (encodeCall keccak signature values)
  refuses : ∀ (signature : Signature) (values : List Int), (∃ value ∈ values, value < 0) →
    encoder.encode signature values = none

namespace ClaimRegistryClient

/-- The numbers of the client's own copy of the enum. -/
def toUint8 : ClaimRegistry.ClaimStatus → Int
  | .submitted => 0
  | .underReview => 1
  | .approved => 2
  | .paid => 3
  | .rejected => 4

/-- `Uint8` holds any byte, whatever the enum of the contract has. -/
def setClaimStatus (encoder : FunctionEncoder) (claimId : Int64)
    (status : ClaimRegistry.ClaimStatus) : Option Bytes :=
  encoder.encode ⟨"setClaimStatus", [.uint256, .enumeration 256]⟩
    [claimId.toInt, toUint8 status]

def payoutClaim (encoder : FunctionEncoder) (claimId : Int64) : Option Bytes :=
  encoder.encode ⟨"payoutClaim", [.uint256]⟩ [claimId.toInt]

end ClaimRegistryClient

/-- What the endpoints of `ClaimController` send to the registry. -/
def approve (encoder : FunctionEncoder) (claimId : Int64) : Option Bytes :=
  ClaimRegistryClient.setClaimStatus encoder claimId .approved

def reject (encoder : FunctionEncoder) (claimId : Int64) : Option Bytes :=
  ClaimRegistryClient.setClaimStatus encoder claimId .rejected

def payout (encoder : FunctionEncoder) (claimId : Int64) : Option Bytes :=
  ClaimRegistryClient.payoutClaim encoder claimId

end Dics.Underwriter

namespace Dics.SafeOps

/-! ### The script -/

/-- `encodeFunctionData` of an `ethers.Interface`, on JavaScript numbers with
`none` for `NaN`; `none` where it throws. -/
structure Interface where
  encodeFunctionData : Calldata.Signature → List (Option Int) → Option Bytes

/-- Numbers are encoded up to the last safe integer, and nothing else is. -/
structure Interface.Documented (keccak : Bytes → Digest) (iface : Interface) : Prop where
  encodes : ∀ (signature : Calldata.Signature) (values : List Nat),
    Fits signature.kinds values → (∀ value ∈ values, value < 2 ^ 53) →
    iface.encodeFunctionData signature (values.map fun value : Nat => some (value : Int)) =
      some (encodeCall keccak signature values)
  refuses : ∀ (signature : Calldata.Signature) (values : List (Option Int)),
    (none ∈ values ∨ ∃ number : Int, some number ∈ values ∧ (number < 0 ∨ 2 ^ 53 ≤ number)) →
    iface.encodeFunctionData signature values = none

/-- `new ethers.JsonRpcProvider`, which may throw; `none` is `NaN` again. -/
abbrev JsonRpcProvider := (rpcUrl : String) → (chainId : Option Int) → Except Error Unit

structure Config where
  rpcUrl : String
  chainId : Option Int
  claimRegistryAddress : String
  awsRegion : String
  ownerKmsKeyIds : List String
  safeAddress : Option String

/-- The variables of `loadConfig` that the script uses or that stop it. -/
def loadConfig (env : String → Option String) : Except Error Config := do
  let rpcUrl ← requireEnv "RPC_URL" (env "RPC_URL")
  let chainId := parseInt (((env "CHAIN_ID").filter fun text => text != "").getD "1337").toList
  let claimRegistryAddress ← requireEnv "CLAIM_REGISTRY_ADDRESS" (env "CLAIM_REGISTRY_ADDRESS")
  let awsRegion ← requireEnv "AWS_REGION" (env "AWS_REGION")
  let ownerKmsKeyIds ← ownerKmsKeyIds (env "OWNER_KMS_KEY_IDS")
  return {
    rpcUrl := rpcUrl
    chainId := chainId
    claimRegistryAddress := claimRegistryAddress
    awsRegion := awsRegion
    ownerKmsKeyIds := ownerKmsKeyIds
    safeAddress := (env "UNDERWRITER_SAFE_ADDRESS").filter fun text => text != "" }

/-- `CLAIM_STATUS`. -/
def claimStatus : ClaimRegistry.ClaimStatus → Int
  | .submitted => 0
  | .underReview => 1
  | .approved => 2
  | .paid => 3
  | .rejected => 4

def invalidArgument : Error := { message := "invalid BigNumberish value" }

def buildCalldata (iface : Interface) (action : String) (claimId : Option Int) :
    Except Error Bytes :=
  if action = "approve" then
    orRevert invalidArgument (iface.encodeFunctionData
      ⟨"setClaimStatus", [.uint256, .enumeration 256]⟩ [claimId, some (claimStatus .approved)])
  else if action = "reject" then
    orRevert invalidArgument (iface.encodeFunctionData
      ⟨"setClaimStatus", [.uint256, .enumeration 256]⟩ [claimId, some (claimStatus .rejected)])
  else if action = "payout" then
    orRevert invalidArgument (iface.encodeFunctionData ⟨"payoutClaim", [.uint256]⟩ [claimId])
  else
    .error { message :=
      "Unknown action \"" ++ action ++ "\" — expected approve, reject, or payout" }

/-- The call that the Safe is asked to make, without value. -/
structure MetaTransaction where
  target : String
  data : Bytes

/-- `main` of `04-propose-and-execute-transaction`, up to the signatures. -/
def proposeTransaction (iface : Interface) (provider : JsonRpcProvider)
    (env : String → Option String) (claimIdArg action : String) : Except Error MetaTransaction :=
  if claimIdArg = "" ∨ action = "" then
    .error { message := "Usage: node scripts/04-propose-and-execute-transaction.js " ++
      "<claimId> <approve|reject|payout>" }
  else do
    let claimId := parseInt claimIdArg.toList
    let config ← loadConfig env
    let _ ← orRevert
      { message := "UNDERWRITER_SAFE_ADDRESS is not set — " ++
          "run 02-create-underwriter-safe.js first" }
      config.safeAddress
    provider config.rpcUrl config.chainId
    let data ← buildCalldata iface action claimId
    return { target := config.claimRegistryAddress, data := data }

/-! ### What the desk orders -/

inductive Action where
  | approve
  | reject
  | payout
  deriving DecidableEq

def Action.text : Action → String
  | .approve => "approve"
  | .reject => "reject"
  | .payout => "payout"

/-- The call of the registry that an action means. -/
def Action.fn (action : Action) (claimId : Nat) : ClaimRegistry.Fn :=
  match action with
  | .approve => .setClaimStatus claimId .approved
  | .reject => .setClaimStatus claimId .rejected
  | .payout => .payoutClaim claimId

/-- Calldata for an action on a claim, from the script or from an endpoint. -/
inductive Orders (iface : Interface) (provider : JsonRpcProvider)
    (encoder : Underwriter.FunctionEncoder) (env : String → Option String) :
    Action → Nat → Bytes → Prop where
  | script {action : Action} {claimId : Nat} {transaction : MetaTransaction}
      (proposed : proposeTransaction iface provider env (toString claimId) action.text =
        .ok transaction) :
      Orders iface provider encoder env action claimId transaction.data
  | approve {claimId : Int64} {data : Bytes}
      (sent : Underwriter.approve encoder claimId = some data) :
      Orders iface provider encoder env .approve claimId.toInt.toNat data
  | reject {claimId : Int64} {data : Bytes}
      (sent : Underwriter.reject encoder claimId = some data) :
      Orders iface provider encoder env .reject claimId.toInt.toNat data
  | payout {claimId : Int64} {data : Bytes}
      (sent : Underwriter.payout encoder claimId = some data) :
      Orders iface provider encoder env .payout claimId.toInt.toNat data

theorem isSpace_of_isDigit {letter : Char} (digit : letter.isDigit = true) :
    isSpace letter = false := by
  obtain ⟨low, high⟩ := toNat_of_isDigit digit
  unfold isSpace
  generalize letter.toNat = code at low high
  interval_cases code <;> decide

theorem parseInt_toString (number : Nat) :
    parseInt (toString number).toList = some (number : Int) := by
  have text : (toString number).toList = Nat.toDigits 10 number := Nat.toList_repr
  have digits : ∀ letter ∈ Nat.toDigits 10 number, letter.isDigit = true :=
    fun _ member => Nat.isDigit_of_mem_toDigits (by decide) (by decide) member
  have value : (Nat.toDigits 10 number).foldl
      (fun size digit => size * 10 + (digit.toNat - 48)) 0 = number := by
    have read := Nat.ofDigitChars_toDigits (n := number) (b := 10) (by decide) (by decide)
    rw [Nat.ofDigitChars_eq_foldl] at read
    simp only [Nat.mul_comm 10] at read
    exact read
  rw [text]
  cases shape : Nat.toDigits 10 number with
  | nil => exact absurd shape Nat.toDigits_ne_nil
  | cons first rest =>
      rw [shape] at digits value
      have digit := digits first List.mem_cons_self
      have kept : (first :: rest).dropWhile isSpace = first :: rest :=
        List.dropWhile_cons_of_neg (by rw [isSpace_of_isDigit digit]; decide)
      have all : (first :: rest).takeWhile Char.isDigit = first :: rest :=
        List.takeWhile_eq_self_iff.mpr digits
      unfold parseInt
      simp only [kept]
      split
      · rename_i minus
        cases minus
        exact absurd digit (by decide)
      · rename_i plus
        cases plus
        exact absurd digit (by decide)
      · simp only [all, value, List.cons_ne_nil, if_false, Bool.false_eq_true]

section Orders

variable {keccak : Bytes → Digest} {iface : Interface} {provider : JsonRpcProvider}
  {encoder : Underwriter.FunctionEncoder} {env : String → Option String} {action : Action}
  {claimId : Nat} {data : Bytes}

theorem Action.encodable (action : Action) (fits : claimId < 2 ^ 256) :
    (action.fn claimId).Encodable keccak := by
  cases action with
  | approve => exact List.Forall₂.cons fits (List.Forall₂.cons (by decide) List.Forall₂.nil)
  | reject => exact List.Forall₂.cons fits (List.Forall₂.cons (by decide) List.Forall₂.nil)
  | payout => exact List.Forall₂.cons fits List.Forall₂.nil

/-- The number of a status, as both desks have it, is that of the registry. -/
theorem statusCalldata (status : ClaimRegistry.ClaimStatus) :
    encodeCall keccak ⟨"setClaimStatus", [.uint256, .enumeration 256]⟩
        [claimId, status.index] =
      (ClaimRegistry.Fn.setClaimStatus claimId status).calldata keccak :=
  encodeCall_congr keccak rfl _

theorem status_fits (fits : claimId < 2 ^ 256) (status : ClaimRegistry.ClaimStatus) :
    Fits [.uint256, .enumeration 256] [claimId, status.index] := by
  refine List.Forall₂.cons fits (List.Forall₂.cons ?_ List.Forall₂.nil)
  cases status <;> decide

/-- The script gets calldata for exactly the safe integers. -/
theorem encodeFunctionData_eq_some (documented : iface.Documented keccak)
    {signature : Calldata.Signature} {rest : List Nat}
    (fits : claimId < 2 ^ 53 → Fits signature.kinds (claimId :: rest))
    (small : ∀ value ∈ rest, value < 2 ^ 53) :
    iface.encodeFunctionData signature
        ((claimId :: rest).map fun value : Nat => some (value : Int)) = some data ↔
      claimId < 2 ^ 53 ∧ data = encodeCall keccak signature (claimId :: rest) := by
  by_cases safe : claimId < 2 ^ 53
  · have all : ∀ value ∈ claimId :: rest, value < 2 ^ 53 := by
      intro value member
      rcases List.mem_cons.mp member with rfl | later
      · exact safe
      · exact small value later
    rw [documented.encodes signature _ (fits safe) all, Option.some.injEq, and_iff_right safe,
      eq_comm]
  · have beyond : (2 : Int) ^ 53 ≤ claimId := by omega
    have refused := documented.refuses signature
      ((claimId :: rest).map fun value : Nat => some (value : Int))
      (Or.inr ⟨claimId, List.mem_cons_self, Or.inr beyond⟩)
    rw [refused]
    constructor
    · intro impossible
      cases impossible
    · intro both
      exact absurd both.1 safe

/-- The script's number of a status is that of the registry. -/
theorem encodeFunctionData_status (documented : iface.Documented keccak)
    (status : ClaimRegistry.ClaimStatus) :
    iface.encodeFunctionData ⟨"setClaimStatus", [.uint256, .enumeration 256]⟩
        [some (claimId : Int), some (claimStatus status)] = some data ↔
      claimId < 2 ^ 53 ∧
        data = (ClaimRegistry.Fn.setClaimStatus claimId status).calldata keccak := by
  have number : claimStatus status = (status.index : Int) := by
    cases status <;> rfl
  have small : ∀ value ∈ [status.index], value < 2 ^ 53 := by
    cases status <;> decide
  rw [number, ← statusCalldata]
  exact encodeFunctionData_eq_some documented
    (fun safe => status_fits (Nat.lt_trans safe (by decide)) status) small

theorem payout_fits (fits : claimId < 2 ^ 256) : Fits [.uint256] [claimId] :=
  List.Forall₂.cons fits List.Forall₂.nil

theorem encodeFunctionData_payout (documented : iface.Documented keccak) :
    iface.encodeFunctionData ⟨"payoutClaim", [.uint256]⟩ [some (claimId : Int)] = some data ↔
      claimId < 2 ^ 53 ∧ data = (ClaimRegistry.Fn.payoutClaim claimId).calldata keccak :=
  encodeFunctionData_eq_some documented
    (fun safe => payout_fits (Nat.lt_trans safe (by decide)))
    (fun _ member => absurd member List.not_mem_nil)

theorem orRevert_eq_ok {Value : Type} {error : Error} {value? : Option Value} {value : Value} :
    orRevert error value? = .ok value ↔ value? = some value := by
  cases value? with
  | none =>
      constructor
      · intro impossible
        cases impossible
      · intro impossible
        cases impossible
  | some other =>
      constructor
      · intro same
        cases same
        rfl
      · intro same
        cases same
        rfl

theorem buildCalldata_eq_ok (documented : iface.Documented keccak) :
    buildCalldata iface action.text (some (claimId : Int)) = .ok data ↔
      claimId < 2 ^ 53 ∧ data = (action.fn claimId).calldata keccak := by
  unfold buildCalldata
  cases action with
  | approve =>
      rw [Action.text, if_pos rfl, orRevert_eq_ok]
      exact encodeFunctionData_status documented .approved
  | reject =>
      rw [Action.text, if_neg (by decide), if_pos rfl, orRevert_eq_ok]
      exact encodeFunctionData_status documented .rejected
  | payout =>
      rw [Action.text, if_neg (by decide), if_neg (by decide), if_pos rfl, orRevert_eq_ok]
      exact encodeFunctionData_payout documented

theorem toString_ne_empty (number : Nat) : toString number ≠ "" :=
  Nat.repr_ne_empty

theorem Action.text_ne_empty (action : Action) : action.text ≠ "" := by
  cases action <;> decide

/-- With its variables set and its provider open, the script writes the call for every
safe integer and stops at any other. -/
theorem proposeTransaction_eq_ok (documented : iface.Documented keccak) {config : Config}
    {safeAddress : String} (configured : loadConfig env = .ok config)
    (safe : config.safeAddress = some safeAddress)
    (connected : provider config.rpcUrl config.chainId = .ok ())
    {transaction : MetaTransaction} :
    proposeTransaction iface provider env (toString claimId) action.text = .ok transaction ↔
      claimId < 2 ^ 53 ∧ transaction =
        ⟨config.claimRegistryAddress, (action.fn claimId).calldata keccak⟩ := by
  have given : ¬(toString claimId = "" ∨ action.text = "") := by
    rintro (empty | empty)
    · exact toString_ne_empty claimId empty
    · exact action.text_ne_empty empty
  unfold proposeTransaction
  rw [if_neg given, parseInt_toString, configured]
  simp only [bind_eq_ok, Except.ok.injEq, exists_eq_left', orRevert_eq_ok, safe,
    Option.some.injEq, connected, buildCalldata_eq_ok documented, pure_eq_ok]
  constructor
  · rintro ⟨_, _, data, ⟨small, rfl⟩, rfl⟩
    exact ⟨small, rfl⟩
  · rintro ⟨small, rfl⟩
    exact ⟨(), trivial, _, ⟨small, rfl⟩, rfl⟩

theorem data_of_proposeTransaction (documented : iface.Documented keccak)
    {transaction : MetaTransaction}
    (proposed : proposeTransaction iface provider env (toString claimId) action.text =
      .ok transaction) :
    claimId < 2 ^ 53 ∧ transaction.data = (action.fn claimId).calldata keccak := by
  have loaded := proposed
  unfold proposeTransaction at loaded
  split at loaded
  · cases loaded
  · obtain ⟨config, configured, checking⟩ := bind_eq_ok.mp loaded
    obtain ⟨safeAddress, safe, opening⟩ := bind_eq_ok.mp checking
    obtain ⟨_, connected, _⟩ := bind_eq_ok.mp opening
    obtain ⟨small, rfl⟩ := (proposeTransaction_eq_ok documented configured
      (orRevert_eq_ok.mp safe) connected).mp proposed
    exact ⟨small, rfl⟩

/-- The service's client encodes exactly the ids that are not negative. -/
theorem encode_eq_some (documented : encoder.Documented keccak) {number : Int64}
    {signature : Calldata.Signature} (rest : List Nat)
    (fits : Fits signature.kinds (number.toInt.toNat :: rest))
    (sent : encoder.encode signature (number.toInt :: rest.map fun value : Nat => (value : Int)) =
      some data) :
    data = encodeCall keccak signature (number.toInt.toNat :: rest) := by
  by_cases negative : number.toInt < 0
  · rw [documented.refuses signature _ ⟨_, List.mem_cons_self, negative⟩] at sent
    cases sent
  · have same : ((number.toInt.toNat : Nat) : Int) = number.toInt := by omega
    have written := documented.encodes signature _ fits
    rw [List.map_cons, same, sent] at written
    exact Option.some.inj written

theorem int64_toNat_lt (number : Int64) : number.toInt.toNat < 2 ^ 256 := by
  have bound := number.toInt_lt
  have small : (2 : Nat) ^ 63 < 2 ^ 256 := by decide
  omega

/-- Either desk writes the call of the registry that the action means. -/
theorem Orders.calldata (scripted : iface.Documented keccak)
    (served : encoder.Documented keccak)
    (orders : Orders iface provider encoder env action claimId data) :
    data = (action.fn claimId).calldata keccak ∧ (action.fn claimId).Encodable keccak := by
  cases orders with
  | script proposed =>
      obtain ⟨small, same⟩ := data_of_proposeTransaction scripted proposed
      exact ⟨same, action.encodable (Nat.lt_trans small (by decide))⟩
  | @approve number data sent =>
      refine ⟨?_, Action.encodable .approve (int64_toNat_lt number)⟩
      have written := encode_eq_some served [2]
        (status_fits (int64_toNat_lt number) .approved) sent
      rw [written]
      exact statusCalldata .approved
  | @reject number data sent =>
      refine ⟨?_, Action.encodable .reject (int64_toNat_lt number)⟩
      have written := encode_eq_some served [4]
        (status_fits (int64_toNat_lt number) .rejected) sent
      rw [written]
      exact statusCalldata .rejected
  | @payout number data sent =>
      refine ⟨?_, Action.encodable .payout (int64_toNat_lt number)⟩
      have written := encode_eq_some served []
        (payout_fits (int64_toNat_lt number)) sent
      rw [written]
      rfl

end Orders

/-! ### Settling a list of claims -/

open ClaimRegistry (World Call Commit payment exec callFn)

inductive Verdict where
  | approved
  | rejected
  deriving DecidableEq

def Verdict.action : Verdict → Action
  | .approved => .approve
  | .rejected => .reject

def Verdict.status : Verdict → ClaimRegistry.ClaimStatus
  | .approved => .approved
  | .rejected => .rejected

abbrev Verdicts := List (Nat × Verdict)

def Verdicts.claimIds (verdicts : Verdicts) : List Nat := verdicts.map Prod.fst

def Verdicts.approved (verdicts : Verdicts) : List Nat :=
  (verdicts.filter fun entry => decide (entry.2 = .approved)).map Prod.fst

def verdictCalls (registries : Address → PolicyRegistry) (msg : Msg) (verdicts : Verdicts) :
    List Call :=
  verdicts.map fun entry => ⟨msg, registries, .registry (.setClaimStatus entry.1 entry.2.status)⟩

def withVerdict (world : World) (claimId : Nat) (status : ClaimRegistry.ClaimStatus)
    (processedAt : BitVec 40) : World :=
  { world with
    registry := { world.registry with
      claims := Function.update world.registry.claims claimId
        { world.registry.claims claimId with
          status := status
          processedAt := processedAt } } }

/-- Only the claims on the list have changed, and only by their verdict. -/
structure DecidedAll (verdicts : Verdicts) (world next : World) : Prop where
  frame : ∃ claims, next =
    { world with registry := { world.registry with claims := claims } }
  decided : ∀ entry ∈ verdicts, ∃ processedAt, next.registry.claims entry.1 =
    { world.registry.claims entry.1 with
      status := entry.2.status
      processedAt := processedAt }
  others : ∀ claimId, claimId ∉ verdicts.claimIds →
    next.registry.claims claimId = world.registry.claims claimId

section Verdicts

variable {here : Address} {registries : Address → PolicyRegistry} {msg : Msg} {world : World}
  {verdicts : Verdicts}

theorem setClaimStatus_commits {claimId : Nat} (status : ClaimRegistry.ClaimStatus)
    (unpaused : world.registry.paused = false)
    (underwriter : world.registry.roles .underwriter msg.sender = true)
    (filed : (world.registry.claims claimId).claimant ≠ 0) :
    ∃ processedAt, callFn here registries msg world (.setClaimStatus claimId status) =
      .ok (withVerdict world claimId status processedAt,
        ⟨[.claimStatusChanged claimId status], []⟩) := by
  have written : ∃ processedAt, ClaimRegistry.setClaimStatus claimId status msg world.registry =
      .ok ((withVerdict world claimId status processedAt).registry,
        [.claimStatusChanged claimId status]) := by
    simp only [ClaimRegistry.setClaimStatus, ClaimRegistry.whenNotPaused,
      ClaimRegistry.onlyRole, require_bind_eq_ok, pure_eq_ok]
    exact ⟨_, unpaused, underwriter, filed, rfl⟩
  obtain ⟨processedAt, written⟩ := written
  exact ⟨processedAt, bind_eq_ok.mpr ⟨_, written, rfl⟩⟩

theorem withVerdict_of_ne {claimId other : Nat} (different : other ≠ claimId)
    (status : ClaimRegistry.ClaimStatus) (processedAt : BitVec 40) :
    (withVerdict world claimId status processedAt).registry.claims other =
      world.registry.claims other :=
  Function.update_of_ne different _ _

theorem ne_of_absent {entry other : Nat × Verdict} (absent : entry.1 ∉ verdicts.claimIds)
    (member : other ∈ verdicts) : other.1 ≠ entry.1 := by
  intro same
  exact absent (same ▸ List.mem_map_of_mem member)

theorem DecidedAll.cons {entry : Nat × Verdict} {processedAt : BitVec 40} {next : World}
    (absent : entry.1 ∉ verdicts.claimIds)
    (rest : DecidedAll verdicts (withVerdict world entry.1 entry.2.status processedAt) next) :
    DecidedAll (entry :: verdicts) world next := by
  refine ⟨?_, ?_, ?_⟩
  · obtain ⟨claims, frame⟩ := rest.frame
    exact ⟨claims, frame⟩
  · intro other member
    rcases List.mem_cons.mp member with rfl | later
    · refine ⟨processedAt, ?_⟩
      rw [rest.others other.1 absent]
      exact Function.update_self _ _ _
    · obtain ⟨decidedAt, decided⟩ := rest.decided other later
      rw [withVerdict_of_ne (ne_of_absent absent later)] at decided
      exact ⟨decidedAt, decided⟩
  · intro claimId outside
    have apart : claimId ≠ entry.1 := by
      rintro rfl
      exact outside List.mem_cons_self
    rw [rest.others claimId (fun member => outside (List.mem_cons_of_mem _ member)),
      withVerdict_of_ne apart]

theorem verdicts_run (unpaused : world.registry.paused = false)
    (underwriter : world.registry.roles .underwriter msg.sender = true)
    (distinct : verdicts.claimIds.Nodup)
    (filed : ∀ entry ∈ verdicts, (world.registry.claims entry.1).claimant ≠ 0) :
    DecidedAll verdicts world
        (run (exec here) world (verdictCalls registries msg verdicts)) ∧
      (history (exec here) world (verdictCalls registries msg verdicts)).flatMap
        (fun commit => commit.output.movements) = [] := by
  induction verdicts generalizing world with
  | nil =>
      exact ⟨⟨⟨world.registry.claims, rfl⟩, fun _ member => absurd member List.not_mem_nil,
        fun _ _ => rfl⟩, rfl⟩
  | cons entry rest ih =>
      obtain ⟨absent, apart⟩ := List.nodup_cons.mp distinct
      obtain ⟨processedAt, done⟩ := @setClaimStatus_commits here registries msg world entry.1
        entry.2.status unpaused underwriter (filed entry List.mem_cons_self)
      have committed : exec here world
          ⟨msg, registries, .registry (.setClaimStatus entry.1 entry.2.status)⟩ = _ := done
      have found : ∀ other ∈ rest, ((withVerdict world entry.1 entry.2.status
          processedAt).registry.claims other.1).claimant ≠ 0 := by
        intro other member
        rw [withVerdict_of_ne (ne_of_absent absent member)]
        exact filed other (List.mem_cons_of_mem _ member)
      obtain ⟨decided, silent⟩ := @ih (withVerdict world entry.1 entry.2.status processedAt)
        unpaused underwriter apart found
      rw [verdictCalls, List.map_cons, run, List.foldl_cons, settle_of_ok committed, history,
        committed_of_ok committed, settle_of_ok committed]
      exact ⟨decided.cons absent, silent⟩

end Verdicts

/-- The desk can settle the list from `time` on: nothing is paused, the sender is
an underwriter, the claims are there, and what is to be approved fits the window
one by one and the registry's balance all together. -/
structure Desk (here underwriter : Address) (verdicts : Verdicts) (time : Nat) (world : World) :
    Prop where
  unpaused : world.registry.paused = false
  underwriter : world.registry.roles .underwriter underwriter = true
  distinct : verdicts.claimIds.Nodup
  filed : ∀ entry ∈ verdicts, (world.registry.claims entry.1).claimant ≠ 0
  fits : ∀ claimId ∈ verdicts.approved,
    (world.registry.claims claimId).amount.toNat ≤ world.registry.maxPayoutPerWindow
  funded : (verdicts.approved.map fun claimId =>
      (world.registry.claims claimId).amount.toNat).sum ≤
    (world.tokens world.registry.payoutToken).balances here
  ended : world.registry.windowStart + world.registry.rateLimitWindowSeconds ≤ time
  lasts : time + verdicts.approved.length * world.registry.rateLimitWindowSeconds <
    Words.wordBound

theorem mem_approved {verdicts : Verdicts} {claimId : Nat}
    (member : claimId ∈ verdicts.approved) : (claimId, Verdict.approved) ∈ verdicts := by
  obtain ⟨entry, chosen, rfl⟩ := List.mem_map.mp member
  obtain ⟨listed, positive⟩ := List.mem_filter.mp chosen
  rw [← of_decide_eq_true positive]
  exact listed

/-- Once decided, the approved claims are a backlog. -/
theorem Desk.backlog {here underwriter : Address} {verdicts : Verdicts} {time : Nat}
    {world next : World} (desk : Desk here underwriter verdicts time world)
    (decided : DecidedAll verdicts world next) :
    ClaimRegistry.Backlog here underwriter verdicts.approved time next := by
  have claim : ∀ claimId ∈ verdicts.approved, ∃ processedAt, next.registry.claims claimId =
      { world.registry.claims claimId with
        status := .approved
        processedAt := processedAt } := by
    intro claimId member
    exact decided.decided _ (mem_approved member)
  have amount : ∀ claimId ∈ verdicts.approved,
      (next.registry.claims claimId).amount = (world.registry.claims claimId).amount := by
    intro claimId member
    obtain ⟨processedAt, same⟩ := claim claimId member
    rw [same]
  have apart : verdicts.approved.Nodup :=
    desk.distinct.sublist (List.filter_sublist.map Prod.fst)
  have total : (verdicts.approved.map fun claimId =>
      (next.registry.claims claimId).amount.toNat) = verdicts.approved.map fun claimId =>
        (world.registry.claims claimId).amount.toNat := by
    apply List.map_congr_left
    intro claimId member
    rw [amount claimId member]
  have approved : ∀ claimId ∈ verdicts.approved,
      (next.registry.claims claimId).status = .approved := by
    intro claimId member
    obtain ⟨processedAt, same⟩ := claim claimId member
    rw [same]
  have fits : ∀ claimId ∈ verdicts.approved,
      (next.registry.claims claimId).amount.toNat ≤ world.registry.maxPayoutPerWindow := by
    intro claimId member
    rw [amount claimId member]
    exact desk.fits claimId member
  obtain ⟨claims, frame⟩ := decided.frame
  subst frame
  exact ⟨desk.unpaused, desk.underwriter, apart, approved, fits, total ▸ desk.funded, desk.ended,
    desk.lasts⟩

/-! ### From the command line to the claimants -/

open ClaimRegistry (Transaction Written receive drainCalls)

/-- The verdicts go out together. -/
def sendVerdicts (registries : Address → PolicyRegistry) (msg : Msg) (sent : List Bytes) :
    List Transaction :=
  sent.map fun data => ⟨msg, registries, .calldata data⟩

/-- The payouts go out a window apart. -/
def sendPayouts (registries : Address → PolicyRegistry) (underwriter : Address) (width : Nat) :
    Nat → List Bytes → List Transaction
  | _, [] => []
  | time, data :: rest =>
      ⟨{ sender := underwriter, timestamp := time }, registries, .calldata data⟩ ::
        sendPayouts registries underwriter width (time + width) rest

/-- Every approved claim is paid in full, once and to its claimant, every other
claim of the list is rejected, and no other claim is touched. -/
structure Settled (here : Address) (verdicts : Verdicts) (world next : World)
    (receipts : List (Receipt ClaimRegistry.Event)) : Prop where
  movements : receipts.flatMap Receipt.movements =
    verdicts.approved.map (payment here world.registry)
  approved : ∀ claimId, (claimId, Verdict.approved) ∈ verdicts →
    (next.registry.claims claimId).status = .paid
  rejected : ∀ claimId, (claimId, Verdict.rejected) ∈ verdicts →
    (next.registry.claims claimId).status = .rejected
  others : ∀ claimId, claimId ∉ verdicts.claimIds →
    next.registry.claims claimId = world.registry.claims claimId

section Settling

variable {keccak : Bytes → Digest} {iface : Interface} {provider : JsonRpcProvider}
  {encoder : Underwriter.FunctionEncoder} {env : String → Option String}
  {registries : Address → PolicyRegistry} {verdicts : Verdicts}

theorem written_exactly {fn : ClaimRegistry.Fn} (msg : Msg) (encodable : fn.Encodable keccak) :
    Written keccak ⟨msg, registries, .calldata (fn.calldata keccak)⟩
      ⟨msg, registries, .registry fn⟩ := by
  have written := @Written.registry keccak msg registries fn encodable []
  rw [List.append_nil] at written
  exact written

theorem verdicts_written (scripted : iface.Documented keccak) (served : encoder.Documented keccak)
    {msg : Msg} {sent : List Bytes}
    (orders : List.Forall₂ (fun (entry : Nat × Verdict) data =>
      Orders iface provider encoder env entry.2.action entry.1 data) verdicts sent) :
    List.Forall₂ (Written keccak) (sendVerdicts registries msg sent)
      (verdictCalls registries msg verdicts) := by
  induction orders with
  | nil => exact List.Forall₂.nil
  | @cons entry data verdicts sent order _ ih =>
      obtain ⟨rfl, encodable⟩ := order.calldata scripted served
      have fn : entry.2.action.fn entry.1 = .setClaimStatus entry.1 entry.2.status := by
        cases entry.2 <;> rfl
      rw [fn] at encodable ⊢
      exact List.Forall₂.cons (written_exactly msg encodable) ih

theorem payouts_written (scripted : iface.Documented keccak) (served : encoder.Documented keccak)
    {underwriter : Address} {width : Nat} {claimIds : List Nat} {sent : List Bytes}
    (orders : List.Forall₂ (Orders iface provider encoder env .payout) claimIds sent) (time : Nat) :
    List.Forall₂ (Written keccak) (sendPayouts registries underwriter width time sent)
      (drainCalls registries underwriter width time claimIds) := by
  induction orders generalizing time with
  | nil => exact List.Forall₂.nil
  | @cons claimId data claimIds sent order _ ih =>
      obtain ⟨rfl, encodable⟩ := order.calldata scripted served
      exact List.Forall₂.cons (written_exactly _ encodable) (ih (time + width))

theorem DecidedAll.approvedFound {world next : World} (decided : DecidedAll verdicts world next)
    (found : ClaimRegistry.ApprovedFound world.registry)
    (filed : ∀ entry ∈ verdicts, (world.registry.claims entry.1).claimant ≠ 0) :
    ClaimRegistry.ApprovedFound next.registry := by
  intro claimId approved
  by_cases listed : claimId ∈ verdicts.claimIds
  · obtain ⟨entry, member, rfl⟩ := List.mem_map.mp listed
    obtain ⟨processedAt, same⟩ := decided.decided entry member
    rw [same]
    exact filed entry member
  · rw [decided.others claimId listed] at approved ⊢
    exact found claimId approved

theorem DecidedAll.payment_approved {here : Address} {world next : World}
    (decided : DecidedAll verdicts world next) :
    verdicts.approved.map (payment here next.registry) =
      verdicts.approved.map (payment here world.registry) := by
  apply List.map_congr_left
  intro claimId member
  obtain ⟨processedAt, same⟩ := decided.decided _ (mem_approved member)
  obtain ⟨claims, frame⟩ := decided.frame
  have token : next.registry.payoutToken = world.registry.payoutToken := by
    rw [frame]
  rw [payment, payment, same, token]

theorem approved_of_mem {claimId : Nat} (member : (claimId, Verdict.approved) ∈ verdicts) :
    claimId ∈ verdicts.approved :=
  List.mem_map.mpr ⟨_, List.mem_filter.mpr ⟨member, decide_eq_true rfl⟩, rfl⟩

/-- A claim has one verdict. -/
theorem not_approved_of_rejected {claimId : Nat} (distinct : verdicts.claimIds.Nodup)
    (member : (claimId, Verdict.rejected) ∈ verdicts) : claimId ∉ verdicts.approved := by
  intro approved
  have same := List.inj_on_of_nodup_map distinct member (mem_approved approved) rfl
  cases same

/-- The calls behind the bytes settle the list. -/
theorem settled_run {here underwriter : Address} {time : Nat} {world : World}
    (deployed : here ≠ 0) (found : ClaimRegistry.ApprovedFound world.registry)
    (desk : Desk here underwriter verdicts time world) :
    Settled here verdicts world
      (run (exec here) world
        (verdictCalls registries { sender := underwriter, timestamp := time } verdicts ++
          drainCalls registries underwriter world.registry.rateLimitWindowSeconds time
            verdicts.approved))
      ((history (exec here) world
        (verdictCalls registries { sender := underwriter, timestamp := time } verdicts ++
          drainCalls registries underwriter world.registry.rateLimitWindowSeconds time
            verdicts.approved)).map Commit.output) := by
  obtain ⟨decided, silent⟩ := @verdicts_run here registries
    { sender := underwriter, timestamp := time } world verdicts desk.unpaused desk.underwriter
    desk.distinct desk.filed
  have drained := @ClaimRegistry.drained_of_backlog here underwriter registries deployed _ _ _
    (decided.approvedFound found desk.filed) (desk.backlog decided)
  have width : (run (exec here) world (verdictCalls registries
      { sender := underwriter, timestamp := time } verdicts)).registry.rateLimitWindowSeconds =
        world.registry.rateLimitWindowSeconds := by
    obtain ⟨claims, frame⟩ := decided.frame
    rw [frame]
  rw [width] at drained
  rw [run_append, history_append]
  refine ⟨?_, ?_, ?_, ?_⟩
  · rw [List.map_append, List.flatMap_append, List.flatMap_map, List.flatMap_map, silent,
      List.nil_append, List.flatMap_def, drained.movements, ← List.flatMap_def,
      ← List.map_eq_flatMap, decided.payment_approved]
  · intro claimId member
    exact drained.paid claimId (approved_of_mem member)
  · intro claimId member
    obtain ⟨processedAt, same⟩ := decided.decided _ member
    rw [drained.others claimId (not_approved_of_rejected desk.distinct member), same]
    rfl
  · intro claimId outside
    have unapproved : claimId ∉ verdicts.approved := by
      intro member
      exact outside (List.mem_map_of_mem (mem_approved member))
    rw [drained.others claimId unapproved, decided.others claimId outside]

end Settling

/-- From every state a run can reach, the script has calldata for every action on
a claim whose id is a safe integer.  Whichever desk the calldata of the verdicts
and payouts come from, sending them leaves every approved claim paid in full,
once and to its own claimant, every other claim of the list rejected, and all
other claims as they were. -/
theorem desk_settles_claims (keccak : Bytes → Digest) (distinct : ClaimRegistry.Distinct keccak)
    (iface : Interface) (scripted : iface.Documented keccak)
    (encoder : Underwriter.FunctionEncoder) (served : encoder.Documented keccak)
    (env : String → Option String) (config : Config) (safeAddress : String)
    (configured : loadConfig env = .ok config) (safe : config.safeAddress = some safeAddress)
    (provider : JsonRpcProvider)
    (connected : provider config.rpcUrl config.chainId = .ok ())
    (inherited : World → Transaction → Except (Option ClaimRegistry.Error)
      (World × Receipt ClaimRegistry.Event))
    (deployment : ClaimRegistry.Deployment) (deployed : deployment.self ≠ 0) (calls : List Call)
    (registries : Address → PolicyRegistry) (underwriter : Address) (verdicts : Verdicts)
    (time : Nat)
    (desk : Desk deployment.self underwriter verdicts time (deployment.run calls)) :
    (∀ claimId, claimId < 2 ^ 53 → ∀ action : Action, ∃ transaction,
      proposeTransaction iface provider env (toString claimId) action.text = .ok transaction) ∧
    ∀ decided paid : List Bytes,
      List.Forall₂ (fun (entry : Nat × Verdict) data =>
        Orders iface provider encoder env entry.2.action entry.1 data) verdicts decided →
      List.Forall₂ (Orders iface provider encoder env .payout) verdicts.approved paid →
      Settled deployment.self verdicts (deployment.run calls)
        (run (receive keccak inherited deployment.self) (deployment.run calls)
          (sendVerdicts registries { sender := underwriter, timestamp := time } decided ++
            sendPayouts registries underwriter
              (deployment.run calls).registry.rateLimitWindowSeconds time paid))
        ((history (receive keccak inherited deployment.self) (deployment.run calls)
          (sendVerdicts registries { sender := underwriter, timestamp := time } decided ++
            sendPayouts registries underwriter
              (deployment.run calls).registry.rateLimitWindowSeconds time paid)).map
            Commit.output) := by
  constructor
  · intro claimId small action
    exact ⟨_, (proposeTransaction_eq_ok scripted configured safe connected).mpr ⟨small, rfl⟩⟩
  · intro decided paid verdictOrders payoutOrders
    have verdictsWritten := @verdicts_written _ _ _ _ _ registries _ scripted served
      { sender := underwriter, timestamp := time } _ verdictOrders
    have payoutsWritten := @payouts_written _ _ _ _ _ registries scripted served underwriter
      (deployment.run calls).registry.rateLimitWindowSeconds _ _ payoutOrders time
    obtain ⟨states, outputs⟩ := ClaimRegistry.run_receive_written keccak inherited distinct
      deployment.self (deployment.run calls) (List.rel_append verdictsWritten payoutsWritten)
    have settled := @settled_run registries verdicts deployment.self underwriter time
      (deployment.run calls) deployed (ClaimRegistry.approvedFound_run deployment calls) desk
    rw [← states, ← outputs] at settled
    exact settled

section Sample

open ClaimRegistry (interfaceKeccak interfaceKeccak_distinct sampleInherited sampleDeployment
  samplePolicies sampleCall)

def isSafeInteger : Option Int → Bool
  | some number => decide (0 ≤ number ∧ number < 2 ^ 53)
  | none => false

theorem isSafeInteger_some {number : Int} :
    isSafeInteger (some number) = true ↔ 0 ≤ number ∧ number < 2 ^ 53 := by
  rw [isSafeInteger, decide_eq_true_eq]

def sampleInterface : Interface where
  encodeFunctionData signature values :=
    if values.all isSafeInteger then
      some (encodeCall interfaceKeccak signature (values.map fun value => (value.getD 0).toNat))
    else none

def sampleEncoder : Underwriter.FunctionEncoder where
  encode signature values :=
    if values.all (fun value => decide (0 ≤ value)) then
      some (encodeCall interfaceKeccak signature (values.map Int.toNat))
    else none

theorem sampleInterface_documented : sampleInterface.Documented interfaceKeccak where
  encodes := by
    intro signature values _ small
    have all : (values.map fun value : Nat => some (value : Int)).all isSafeInteger = true := by
      rw [List.all_map, List.all_eq_true]
      intro value member
      have safe : (value : Int) < 2 ^ 53 := by
        exact_mod_cast small value member
      rw [Function.comp_apply, isSafeInteger_some]
      exact ⟨Int.natCast_nonneg value, safe⟩
    have numbers : (values.map fun value : Nat => some (value : Int)).map
        (fun value => (value.getD 0).toNat) = values := by
      rw [List.map_map]
      exact List.map_id'' (fun _ => rfl) values
    simp only [sampleInterface, all, if_true, numbers]
  refuses := by
    intro signature values bad
    have some_refused : values.all isSafeInteger = false := by
      rw [List.all_eq_false]
      rcases bad with missing | ⟨number, member, outside⟩
      · exact ⟨none, missing, Bool.false_ne_true⟩
      · refine ⟨some number, member, fun safe => ?_⟩
        have both := isSafeInteger_some.mp safe
        rcases outside with negative | large
        · exact absurd both.1 (Int.not_le.mpr negative)
        · exact absurd both.2 (Int.not_lt.mpr large)
    simp only [sampleInterface, some_refused, Bool.false_eq_true, if_false]

theorem sampleEncoder_documented : sampleEncoder.Documented interfaceKeccak where
  encodes := by
    intro signature values _
    have all : (values.map fun value : Nat => (value : Int)).all
        (fun value => decide (0 ≤ value)) = true := by
      rw [List.all_map, List.all_eq_true]
      intro value _
      exact decide_eq_true (Int.natCast_nonneg value)
    have numbers : (values.map fun value : Nat => (value : Int)).map Int.toNat = values := by
      rw [List.map_map]
      exact List.map_id'' (fun _ => rfl) values
    simp only [sampleEncoder, all, if_true, numbers]
  refuses := by
    intro signature values bad
    obtain ⟨value, member, negative⟩ := bad
    have some_refused : values.all (fun value => decide (0 ≤ value)) = false := by
      rw [List.all_eq_false]
      refine ⟨value, member, ?_⟩
      rw [decide_eq_true_eq]
      omega
    simp only [sampleEncoder, some_refused, Bool.false_eq_true, if_false]

def sampleEnv (name : String) : Option String :=
  if name = "OWNER_KMS_KEY_IDS" then some "key-1,key-2"
  else if name = "UNDERWRITER_SAFE_ADDRESS" then some "0x00000000000000000000000000000000000000D1"
  else if name = "CLAIM_REGISTRY_ADDRESS" then some "0x00000000000000000000000000000000000000C1"
  else if name = "RPC_URL" then some "http://localhost:8545"
  else if name = "AWS_REGION" then some "eu-central-1"
  else none

def sampleConfig : Config where
  rpcUrl := "http://localhost:8545"
  chainId := some 1337
  claimRegistryAddress := "0x00000000000000000000000000000000000000C1"
  awsRegion := "eu-central-1"
  ownerKmsKeyIds := ["key-1", "key-2"]
  safeAddress := some "0x00000000000000000000000000000000000000D1"

def sampleProvider : JsonRpcProvider
  | _, some _ => .ok ()
  | _, none => .error { message := "invalid network" }

/-- Two claims are filed, and the Safe `0xD1` is the underwriter. -/
def sampleDeskCalls : List Call :=
  [sampleCall 0xAD (.changeRole (.grantRole .underwriter 0xD1)),
   sampleCall 0xA1 (.submitClaim 7 0 600),
   sampleCall 0xA1 (.submitClaim 8 0 400)]

def sampleVerdicts : Verdicts := [(1, .approved), (2, .rejected)]

theorem sample_desk :
    Desk sampleDeployment.self 0xD1 sampleVerdicts 100 (sampleDeployment.run sampleDeskCalls) where
  unpaused := by decide
  underwriter := by decide
  distinct := by decide
  filed := by decide
  fits := by decide
  funded := by decide
  ended := by decide
  lasts := by decide

theorem sampleConfig_loaded : loadConfig sampleEnv = .ok sampleConfig := by
  rfl

theorem sample_script {action : Action} {claimId : Nat} (small : claimId < 2 ^ 53) :
    Orders sampleInterface sampleProvider sampleEncoder sampleEnv action claimId
      ((action.fn claimId).calldata interfaceKeccak) := by
  have proposed : proposeTransaction sampleInterface sampleProvider sampleEnv
      (toString claimId) action.text =
      .ok ⟨sampleConfig.claimRegistryAddress, (action.fn claimId).calldata interfaceKeccak⟩ :=
    (proposeTransaction_eq_ok sampleInterface_documented sampleConfig_loaded rfl rfl).mpr
      ⟨small, rfl⟩
  exact Orders.script proposed

/-- The Safe approves the first claim and pays it; the second is rejected at the
service. -/
theorem desk_settles_claims_sample :
    Desk sampleDeployment.self 0xD1 sampleVerdicts 100 (sampleDeployment.run sampleDeskCalls) ∧
      ∃ decided paid, Settled sampleDeployment.self sampleVerdicts
        (sampleDeployment.run sampleDeskCalls)
        (run (receive interfaceKeccak sampleInherited sampleDeployment.self)
          (sampleDeployment.run sampleDeskCalls)
          (sendVerdicts (fun _ => samplePolicies) ⟨0xD1, 100⟩ decided ++
            sendPayouts (fun _ => samplePolicies) 0xD1 100 100 paid))
        ((history (receive interfaceKeccak sampleInherited sampleDeployment.self)
          (sampleDeployment.run sampleDeskCalls)
          (sendVerdicts (fun _ => samplePolicies) ⟨0xD1, 100⟩ decided ++
            sendPayouts (fun _ => samplePolicies) 0xD1 100 100 paid)).map Commit.output) := by
  have rejected : Underwriter.reject sampleEncoder 2 =
      some ((Action.reject.fn 2).calldata interfaceKeccak) := by
    exact congrArg some (statusCalldata .rejected)
  have settled := (desk_settles_claims interfaceKeccak interfaceKeccak_distinct sampleInterface
    sampleInterface_documented sampleEncoder sampleEncoder_documented sampleEnv sampleConfig _
    sampleConfig_loaded rfl sampleProvider rfl sampleInherited sampleDeployment (by decide)
    sampleDeskCalls (fun _ => samplePolicies) 0xD1 sampleVerdicts 100 sample_desk).2
  refine ⟨sample_desk, _, _, settled _ _
    (List.Forall₂.cons (sample_script (by decide)) (List.Forall₂.cons (Orders.reject rejected)
      List.Forall₂.nil))
    (List.Forall₂.cons (sample_script (by decide)) List.Forall₂.nil)⟩

end Sample

end Dics.SafeOps
