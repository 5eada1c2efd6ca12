/-
Removing a departing owner.

`06-remove-owner` builds the removal and `signAndExecute` signs it with the
first keys of `OWNER_KMS_KEY_IDS`, as many as the threshold asks for.  Which
owners these keys belong to is not looked at: the departing owner's key is used
when it stands among them, and a key that is no owner's any more stops the
script, however many other owners' keys follow.
-/

import Dics.SafeOps.KmsSigner
import Dics.Lib.Quorums
import Dics.Lib.Texts

open Quorums TypedData Texts
open Transactions (bind_eq_ok)

namespace Dics.SafeOps

/-! ### Configuration and arguments -/

/-- What `trim` removes and `parseInt` skips. -/
def isSpace (letter : Char) : Bool :=
  [9, 10, 11, 12, 13, 32, 160, 0x1680, 0x2028, 0x2029, 0x202F, 0x205F, 0x3000, 0xFEFF].contains
      letter.toNat ||
    (0x2000 ≤ letter.toNat && letter.toNat ≤ 0x200A)

def trim (text : List Char) : List Char := stripped isSpace text

def requireEnv (name : String) (value : Option String) : Except Error String :=
  match value with
  | some text =>
      if text = "" then
        .error { message := "Required environment variable " ++ name ++ " is not set" }
      else .ok text
  | none => .error { message := "Required environment variable " ++ name ++ " is not set" }

def ownerKmsKeyIds (value : Option String) : Except Error (List String) := do
  let text ← requireEnv "OWNER_KMS_KEY_IDS" value
  return (text.toList.splitOn ',').map fun part => String.ofList (trim part)

/-- `parseInt(text, 10)`, with `none` for `NaN`. -/
def parseInt (text : List Char) : Option Int :=
  let start := text.dropWhile isSpace
  let (negative, digits) :=
    match start with
    | '-' :: rest => (true, rest.takeWhile Char.isDigit)
    | '+' :: rest => (false, rest.takeWhile Char.isDigit)
    | _ => (false, start.takeWhile Char.isDigit)
  if digits = [] then none
  else
    let size : Nat := digits.foldl (fun size digit => size * 10 + (digit.toNat - 48)) 0
    some (if negative then -size else size)

/-! ### The Safe and its kit -/

/-- The owners, as `getOwners` lists them, and the threshold. -/
structure Safe where
  owners : List String
  threshold : Nat
  distinct : (owners.map toLowerCase).Nodup
  positive : 1 ≤ threshold
  bounded : threshold ≤ owners.length

/-- Addresses are compared without their case. -/
def Safe.accounts (safe : Safe) : List (List Char) :=
  safe.owners.map toLowerCase

/-- A removal, with the owners who have signed it. -/
structure SafeTransaction where
  ownerAddress : String
  threshold : Int
  signatures : List (List Char)

def SafeTransaction.addSignature (transaction : SafeTransaction) (signer : String) :
    SafeTransaction :=
  { transaction with signatures := add transaction.signatures (toLowerCase signer) }

/-- What the scripts use of `protocol-kit`, initialised for one Safe. -/
structure ProtocolKit where
  createRemoveOwnerTx : Safe → String → Option Int → Except Error SafeTransaction
  signTransaction : Safe → String → SafeTransaction → Except Error SafeTransaction
  executeTransaction : Safe → String → SafeTransaction → Except Error String

/-- A new transaction is unsigned.  An owner's kit adds the owner's signature,
and nobody else's kit signs. -/
structure ProtocolKit.Documented (kit : ProtocolKit) : Prop where
  unsigned : ∀ {safe ownerAddress threshold transaction},
    kit.createRemoveOwnerTx safe ownerAddress threshold = .ok transaction →
      transaction.signatures = []
  signs : ∀ {safe : Safe} {signer}, toLowerCase signer ∈ safe.accounts → ∀ transaction,
    kit.signTransaction safe signer transaction = .ok (transaction.addSignature signer)
  refuses : ∀ {safe : Safe} {signer}, toLowerCase signer ∉ safe.accounts → ∀ transaction,
    ∃ error, kit.signTransaction safe signer transaction = .error error

/-! ### The scripts -/

variable (ethers : Ethers) (kmsClient : KmsClient) (kit : ProtocolKit) (safe : Safe)

/-- The address of a signer for `ownerKmsKeyIds[i]`; KMS takes no request without a key. -/
def ownerAddressAt (keyId : Option String) : Except Error String :=
  match keyId with
  | some keyId => do
      let (address, _) ← getAddress ethers kmsClient { keyId := keyId, cachedAddress := none }
      return address
  | none => .error { message := "Value null at 'keyId' failed to satisfy constraint: " ++
      "Member must not be null" }

/-- The loop that signs, with `remaining` turns to go from `i` on. -/
def signWithOwners (keyIds : List String) :
    Nat → Nat → SafeTransaction → Except Error SafeTransaction
  | 0, _, signedTransaction => .ok signedTransaction
  | remaining + 1, i, signedTransaction => do
      let ownerAddress ← ownerAddressAt ethers kmsClient keyIds[i]?
      let next ← kit.signTransaction safe ownerAddress signedTransaction
      signWithOwners keyIds remaining (i + 1) next

/-- The executor, and the transaction that is handed to `executeTransaction`. -/
def collectSignatures (keyIds : List String) (unsignedSafeTransaction : SafeTransaction) :
    Except Error (String × SafeTransaction) := do
  let executor ← ownerAddressAt ethers kmsClient keyIds[0]?
  let signedTransaction ←
    signWithOwners ethers kmsClient kit safe keyIds safe.threshold 0 unsignedSafeTransaction
  return (executor, signedTransaction)

def signAndExecute (keyIds : List String) (unsignedSafeTransaction : SafeTransaction) :
    Except Error String := do
  let (executor, signedTransaction) ←
    collectSignatures ethers kmsClient kit safe keyIds unsignedSafeTransaction
  kit.executeTransaction safe executor signedTransaction

def newThreshold (newThresholdArg : Option String) : Option Int :=
  match newThresholdArg with
  | some text => if text = "" then some safe.threshold else parseInt text.toList
  | none => some safe.threshold

/-- `newThreshold > remainingOwnerCount`; nothing compares with `NaN`. -/
def exceeds (threshold : Option Int) (remainingOwnerCount : Int) : Bool :=
  match threshold with
  | some number => remainingOwnerCount < number
  | none => false

/-- The first part of `main`: the transaction that removes the owner. -/
def removeOwnerTx (departingOwnerAddress : String) (newThresholdArg : Option String) :
    Except Error SafeTransaction :=
  if toLowerCase departingOwnerAddress ∉ safe.accounts then
    .error { message := departingOwnerAddress ++
      " is not currently an owner of this Safe — nothing to remove" }
  else
    let remainingOwnerCount : Int := safe.owners.length - 1
    if exceeds (newThreshold safe newThresholdArg) remainingOwnerCount then
      .error { message := "Threshold " ++ toString ((newThreshold safe newThresholdArg).getD 0) ++
        " would exceed the remaining " ++ toString remainingOwnerCount ++
        " owner(s) after removal — pass an explicit lower newThreshold argument" }
    else kit.createRemoveOwnerTx safe departingOwnerAddress (newThreshold safe newThresholdArg)

/-- `main` of `06-remove-owner`. -/
def removeOwner (keyIdsValue : Option String) (departingOwnerAddress : String)
    (newThresholdArg : Option String) : Except Error String :=
  if departingOwnerAddress = "" then
    .error { message :=
      "Usage: node scripts/06-remove-owner.js <departingOwnerAddress> [newThreshold]" }
  else do
    let keyIds ← ownerKmsKeyIds keyIdsValue
    let removeOwnerTx ← removeOwnerTx kit safe departingOwnerAddress newThresholdArg
    signAndExecute ethers kmsClient kit safe keyIds removeOwnerTx

/-! ### Who signs -/

/-- The account behind a key, where KMS knows one. -/
def accountOf (keyId : String) : Option (List Char) :=
  match getAddress ethers kmsClient { keyId := keyId, cachedAddress := none } with
  | .ok (address, _) => some (toLowerCase address)
  | .error _ => none

/-- The accounts behind `count` keys from `start` on. -/
def Asked (keyIds : List String) (count start : Nat) (accounts : List (List Char)) : Prop :=
  ((keyIds.drop start).take count).map (accountOf ethers kmsClient) = accounts.map some ∧
    accounts.length = count

section Loop

variable {ethers kmsClient kit safe} {keyIds : List String}

theorem ownerAddressAt_some {keyId : String} {address : String} :
    ownerAddressAt ethers kmsClient (some keyId) = .ok address →
      accountOf ethers kmsClient keyId = some (toLowerCase address) := by
  intro found
  obtain ⟨⟨known, _⟩, asked, same⟩ := bind_eq_ok.mp found
  cases same
  rw [accountOf, asked]

theorem exists_ownerAddressAt {keyId : String} {account : List Char}
    (known : accountOf ethers kmsClient keyId = some account) :
    ∃ address, ownerAddressAt ethers kmsClient (some keyId) = .ok address ∧
      toLowerCase address = account := by
  unfold accountOf at known
  split at known
  · rename_i address next asked
    refine ⟨address, ?_, Option.some.inj known⟩
    rw [ownerAddressAt, asked]
    rfl
  · cases known

theorem signTransaction_eq_ok (documented : kit.Documented) {signer : String}
    {transaction next : SafeTransaction} :
    kit.signTransaction safe signer transaction = .ok next ↔
      toLowerCase signer ∈ safe.accounts ∧ next = transaction.addSignature signer := by
  by_cases owner : toLowerCase signer ∈ safe.accounts
  · rw [documented.signs owner]
    constructor
    · intro same
      cases same
      exact ⟨owner, rfl⟩
    · intro signed
      rw [signed.2]
  · obtain ⟨error, refused⟩ := documented.refuses owner transaction
    rw [refused]
    constructor
    · intro same
      cases same
    · intro signed
      exact absurd signed.1 owner

theorem take_drop_succ {start : Nat} {keyId : String} (found : keyIds[start]? = some keyId)
    (count : Nat) :
    (keyIds.drop start).take (count + 1) = keyId :: (keyIds.drop (start + 1)).take count := by
  obtain ⟨bound, same⟩ := List.getElem?_eq_some_iff.mp found
  rw [List.drop_eq_getElem_cons bound, List.take_succ_cons, same]

theorem asked_succ {count start : Nat} {accounts : List (List Char)} :
    Asked ethers kmsClient keyIds (count + 1) start accounts ↔
      ∃ keyId account rest, keyIds[start]? = some keyId ∧
        accountOf ethers kmsClient keyId = some account ∧
        Asked ethers kmsClient keyIds count (start + 1) rest ∧ accounts = account :: rest := by
  unfold Asked
  constructor
  · rintro ⟨known, length⟩
    cases accounts with
    | nil => cases length
    | cons account rest =>
        cases found : keyIds[start]? with
        | none =>
            rw [List.drop_eq_nil_of_le (List.getElem?_eq_none_iff.mp found)] at known
            cases known
        | some keyId =>
            rw [take_drop_succ found, List.map_cons, List.map_cons, List.cons_eq_cons] at known
            exact ⟨keyId, account, rest, rfl, known.1, ⟨known.2, Nat.succ.inj length⟩, rfl⟩
  · rintro ⟨keyId, account, rest, found, known, ⟨others, length⟩, rfl⟩
    rw [take_drop_succ found, List.map_cons, List.map_cons, known, others, List.length_cons, length]
    exact ⟨rfl, rfl⟩

theorem signWithOwners_succ (documented : kit.Documented) {remaining start : Nat}
    {transaction signed : SafeTransaction} :
    signWithOwners ethers kmsClient kit safe keyIds (remaining + 1) start transaction =
        .ok signed ↔
      ∃ keyId account, keyIds[start]? = some keyId ∧
        accountOf ethers kmsClient keyId = some account ∧ account ∈ safe.accounts ∧
        signWithOwners ethers kmsClient kit safe keyIds remaining (start + 1)
          { transaction with signatures := add transaction.signatures account } = .ok signed := by
  rw [signWithOwners, bind_eq_ok]
  constructor
  · rintro ⟨address, found, turn⟩
    obtain ⟨next, signs, others⟩ := bind_eq_ok.mp turn
    obtain ⟨owner, rfl⟩ := (signTransaction_eq_ok documented).mp signs
    cases key : keyIds[start]? with
    | none =>
        rw [key] at found
        cases found
    | some keyId =>
        rw [key] at found
        exact ⟨keyId, toLowerCase address, rfl, ownerAddressAt_some found, owner, others⟩
  · rintro ⟨keyId, account, key, known, owner, others⟩
    obtain ⟨address, found, rfl⟩ := exists_ownerAddressAt known
    refine ⟨address, ?_, bind_eq_ok.mpr ⟨_, documented.signs owner transaction, others⟩⟩
    rw [key]
    exact found

/-- The loop ends exactly when every key it comes to is an owner's, and then
their signatures are what it has added. -/
theorem signWithOwners_eq_ok (documented : kit.Documented) {remaining start : Nat}
    {transaction signed : SafeTransaction} :
    signWithOwners ethers kmsClient kit safe keyIds remaining start transaction = .ok signed ↔
      ∃ accounts, Asked ethers kmsClient keyIds remaining start accounts ∧
        (∀ account ∈ accounts, account ∈ safe.accounts) ∧
        signed = { transaction with signatures := gather transaction.signatures accounts } := by
  induction remaining generalizing start transaction with
  | zero =>
      constructor
      · intro done
        cases done
        refine ⟨[], ⟨?_, rfl⟩, fun account member => absurd member List.not_mem_nil, rfl⟩
        rw [List.take_zero]
        rfl
      · rintro ⟨accounts, ⟨_, length⟩, _, rfl⟩
        rw [List.length_eq_zero_iff] at length
        rw [length]
        rfl
  | succ remaining ih =>
      rw [signWithOwners_succ documented]
      constructor
      · rintro ⟨keyId, account, key, known, owner, others⟩
        obtain ⟨rest, asked, owners, rfl⟩ := ih.mp others
        refine ⟨account :: rest, asked_succ.mpr ⟨keyId, account, rest, key, known, asked, rfl⟩,
          ?_, rfl⟩
        intro other member
        rcases List.mem_cons.mp member with rfl | later
        · exact owner
        · exact owners other later
      · rintro ⟨accounts, asked, owners, rfl⟩
        obtain ⟨keyId, account, rest, key, known, others, rfl⟩ := asked_succ.mp asked
        refine ⟨keyId, account, key, known, owners account List.mem_cons_self,
          ih.mpr ⟨rest, others, ?_, rfl⟩⟩
        intro other member
        exact owners other (List.mem_cons_of_mem _ member)

theorem collectSignatures_eq_ok (documented : kit.Documented)
    {transaction signed : SafeTransaction} :
    (∃ executor, collectSignatures ethers kmsClient kit safe keyIds transaction =
        .ok (executor, signed)) ↔
      ∃ accounts, Asked ethers kmsClient keyIds safe.threshold 0 accounts ∧
        (∀ account ∈ accounts, account ∈ safe.accounts) ∧
        signed = { transaction with signatures := gather transaction.signatures accounts } := by
  rw [← signWithOwners_eq_ok documented]
  constructor
  · rintro ⟨executor, collected⟩
    obtain ⟨_, _, turns⟩ := bind_eq_ok.mp collected
    obtain ⟨next, signs, same⟩ := bind_eq_ok.mp turns
    cases same
    exact signs
  · intro signs
    -- The threshold is positive, so the executor's key is the first one to sign.
    have turns := signs
    rw [← Nat.sub_add_cancel safe.positive] at turns
    obtain ⟨keyId, account, key, known, _⟩ := (signWithOwners_succ documented).mp turns
    obtain ⟨executor, found, _⟩ := exists_ownerAddressAt known
    rw [← key] at found
    refine ⟨executor, ?_⟩
    rw [collectSignatures, found]
    show (signWithOwners _ _ _ _ _ _ _ _ >>= _) = _
    rw [signs]
    rfl

theorem removeOwnerTx_unsigned (documented : kit.Documented) {departingOwnerAddress : String}
    {newThresholdArg : Option String} {transaction : SafeTransaction}
    (built : removeOwnerTx kit safe departingOwnerAddress newThresholdArg = .ok transaction) :
    transaction.signatures = [] := by
  unfold removeOwnerTx at built
  split at built
  · cases built
  · dsimp only at built
    split at built
    · cases built
    · exact documented.unsigned built

end Loop

/-! ### The departing owner -/

def remains (departingOwnerAddress : String) (account : List Char) : Bool :=
  account ∈ safe.accounts ∧ account ≠ toLowerCase departingOwnerAddress

def EnoughKeys (keyIds : List String) (departingOwnerAddress : String) : Prop :=
  safe.threshold ≤
    (suitable (accountOf ethers kmsClient) (remains safe departingOwnerAddress) keyIds).length

/-- Signed by as many different owners as it takes, and not by the departing one. -/
structure SignedByRemaining (departingOwnerAddress : String) (signed : SafeTransaction) :
    Prop where
  count : signed.signatures.length = safe.threshold
  distinct : signed.signatures.Nodup
  owners : ∀ account ∈ signed.signatures, account ∈ safe.accounts
  departing : toLowerCase departingOwnerAddress ∉ signed.signatures

/-- The removal that is executed carries the signatures of remaining owners. -/
def RemovedByRemaining (keyIds : List String) (departingOwnerAddress : String)
    (transaction : SafeTransaction) : Prop :=
  ∃ executor signed,
    collectSignatures ethers kmsClient kit safe keyIds transaction = .ok (executor, signed) ∧
      SignedByRemaining safe departingOwnerAddress signed

/-- The keys at the front of the configuration belong to different remaining owners. -/
def FirstKeysRemain (keyIds : List String) (departingOwnerAddress : String) : Prop :=
  ∃ accounts : List (List Char),
    (keyIds.take safe.threshold).map (accountOf ethers kmsClient) = accounts.map some ∧
      accounts.length = safe.threshold ∧ accounts.Nodup ∧
      ∀ account ∈ accounts, remains safe departingOwnerAddress account = true

section Removals

variable {ethers kmsClient kit safe} {keyIds : List String} {departingOwnerAddress : String}
variable {transaction : SafeTransaction}

theorem remains_iff {account : List Char} :
    remains safe departingOwnerAddress account = true ↔
      account ∈ safe.accounts ∧ account ≠ toLowerCase departingOwnerAddress :=
  decide_eq_true_iff

theorem removedByRemaining_iff (documented : kit.Documented)
    (unsigned : transaction.signatures = []) :
    RemovedByRemaining ethers kmsClient kit safe keyIds departingOwnerAddress transaction ↔
      FirstKeysRemain ethers kmsClient safe keyIds departingOwnerAddress := by
  constructor
  · rintro ⟨executor, signed, collected, byRemaining⟩
    obtain ⟨accounts, asked, owners, rfl⟩ :=
      (collectSignatures_eq_ok documented).mp ⟨executor, collected⟩
    have count := byRemaining.count
    have departing := byRemaining.departing
    dsimp only at count departing
    rw [unsigned] at count departing
    have distinct : accounts.Nodup := nodup_of_length_gather (by rw [count, asked.2])
    refine ⟨accounts, asked.1, asked.2, distinct, ?_⟩
    intro account member
    rw [remains_iff]
    refine ⟨owners account member, ?_⟩
    rintro rfl
    exact departing (mem_gather.mpr (Or.inr member))
  · rintro ⟨accounts, known, length, distinct, remaining⟩
    have owners : ∀ account ∈ accounts, account ∈ safe.accounts :=
      fun account member => (remains_iff.mp (remaining account member)).1
    obtain ⟨executor, collected⟩ :=
      (@collectSignatures_eq_ok ethers kmsClient kit safe keyIds documented transaction _).mpr
        ⟨accounts, ⟨known, length⟩, owners, rfl⟩
    refine ⟨executor, _, collected, ?_⟩
    rw [unsigned, gather_of_distinct (by rw [List.nil_append]; exact distinct), List.nil_append]
    refine ⟨length, distinct, owners, ?_⟩
    intro member
    exact (remains_iff.mp (remaining _ member)).2 rfl

theorem signAndExecute_eq_ok {hash : String} :
    signAndExecute ethers kmsClient kit safe keyIds transaction = .ok hash ↔
      ∃ executor signed,
        collectSignatures ethers kmsClient kit safe keyIds transaction = .ok (executor, signed) ∧
          kit.executeTransaction safe executor signed = .ok hash := by
  rw [signAndExecute, bind_eq_ok]
  constructor
  · rintro ⟨⟨executor, signed⟩, collected, executed⟩
    exact ⟨executor, signed, collected, executed⟩
  · rintro ⟨executor, signed, collected, executed⟩
    exact ⟨(executor, signed), collected, executed⟩

theorem signedByRemaining_iff (documented : kit.Documented)
    (unsigned : transaction.signatures = []) {executor : String} {signed : SafeTransaction}
    (collected : collectSignatures ethers kmsClient kit safe keyIds transaction =
      .ok (executor, signed)) :
    SignedByRemaining safe departingOwnerAddress signed ↔
      FirstKeysRemain ethers kmsClient safe keyIds departingOwnerAddress := by
  rw [← removedByRemaining_iff documented unsigned]
  constructor
  · intro byRemaining
    exact ⟨executor, signed, collected, byRemaining⟩
  · rintro ⟨other, found, again, byRemaining⟩
    rw [collected] at again
    cases again
    exact byRemaining

/-- A script that ends has executed the removal it has built, and remaining owners
alone have signed it exactly when their keys come first. -/
theorem removeOwner_executes (documented : kit.Documented) {keyIdsValue : Option String}
    {newThresholdArg : Option String} {hash : String}
    (ended : removeOwner ethers kmsClient kit safe keyIdsValue departingOwnerAddress
      newThresholdArg = .ok hash) :
    ∃ keyIds transaction executor signed, ownerKmsKeyIds keyIdsValue = .ok keyIds ∧
      removeOwnerTx kit safe departingOwnerAddress newThresholdArg = .ok transaction ∧
      kit.executeTransaction safe executor signed = .ok hash ∧
      signed.ownerAddress = transaction.ownerAddress ∧
      signed.threshold = transaction.threshold ∧
      (SignedByRemaining safe departingOwnerAddress signed ↔
        FirstKeysRemain ethers kmsClient safe keyIds departingOwnerAddress) := by
  unfold removeOwner at ended
  split at ended
  · cases ended
  · obtain ⟨keyIds, configured, rest⟩ := bind_eq_ok.mp ended
    obtain ⟨transaction, built, signs⟩ := bind_eq_ok.mp rest
    obtain ⟨executor, signed, collected, executed⟩ := signAndExecute_eq_ok.mp signs
    obtain ⟨accounts, _, _, same⟩ :=
      (collectSignatures_eq_ok documented).mp ⟨executor, collected⟩
    have byRemaining := @signedByRemaining_iff _ _ _ _ _ departingOwnerAddress _ documented
      (removeOwnerTx_unsigned documented built) _ _ collected
    refine ⟨keyIds, transaction, executor, signed, configured, built, executed, ?_, ?_,
      byRemaining⟩
    · rw [same]
    · rw [same]

end Removals

/-- Enough keys of remaining owners sign the removal exactly when they come
first in the configuration. -/
theorem removal_signed_by_remaining_iff (documented : kit.Documented) (keyIds : List String)
    (departingOwnerAddress : String) (newThresholdArg : Option String)
    {transaction : SafeTransaction}
    (built : removeOwnerTx kit safe departingOwnerAddress newThresholdArg = .ok transaction) :
    (EnoughKeys ethers kmsClient safe keyIds departingOwnerAddress →
        RemovedByRemaining ethers kmsClient kit safe keyIds departingOwnerAddress transaction) ↔
      (EnoughKeys ethers kmsClient safe keyIds departingOwnerAddress →
        FirstKeysRemain ethers kmsClient safe keyIds departingOwnerAddress) := by
  rw [removedByRemaining_iff documented (removeOwnerTx_unsigned documented built)]

/-! ### Three owners -/

def firstAddress : String :=
  "0x7E5F4552091A69125d5DfCb7b8C2659029395Bdf"

/-- The public key of the private key `2`. -/
def secondPoint : Bytes :=
  encodeWord 0xc6047f9441ed7d6d3045406e95c07cd85c778e4b8cef3ca7abac09b95c709ee5 ++
    encodeWord 0x1ae168fea63dc339a3c58419466ceaeef7f632653266d0e1236431a950cfe52a

def secondAddress : String :=
  "0x2B5AD5c4795c026514f8317c7a215E218DcCD6cF"

def sampleKms : KmsClient
  | .getPublicKey keyId =>
      match [("key-1", secp256k1Point), ("key-2", secondPoint), ("key-3", thirdPoint)].lookup
          keyId with
      | some point =>
          .ok { publicKey := some (spkiDer [0x2b, 0x81, 0x04, 0x00, 0x0a] (0x00 :: 0x04 :: point))
                signature := none }
      | none => .error { message := "Key does not exist" }
  | .sign _ _ _ _ => .error { message := "Key does not exist" }

def sampleEthers : Ethers :=
  { ethersAt thirdPoint thirdAddress plainRecover with
    computeAddress := fun key =>
      match [(0x04 :: secp256k1Point, firstAddress), (0x04 :: secondPoint, secondAddress),
          (0x04 :: thirdPoint, thirdAddress)].lookup key with
      | some address => .ok address
      | none => .error { message := "invalid public key" } }

def sampleKit : ProtocolKit where
  createRemoveOwnerTx safe ownerAddress threshold :=
    match threshold with
    | some number =>
        if 1 ≤ number ∧ number < safe.owners.length then .ok ⟨ownerAddress, number, []⟩
        else .error { message := "Threshold cannot exceed owner count" }
    | none => .error { message := "Invalid threshold" }
  signTransaction safe signer transaction :=
    if toLowerCase signer ∈ safe.accounts then .ok (transaction.addSignature signer)
    else .error { message := "Transactions can only be signed by Safe owners" }
  executeTransaction safe _ transaction :=
    if transaction.signatures.length < safe.threshold then
      .error { message := "Signatures missing" }
    else .ok "0x5a"

theorem sampleKit_documented : sampleKit.Documented where
  unsigned := by
    intro safe ownerAddress threshold transaction created
    unfold sampleKit at created
    dsimp only at created
    split at created
    · split at created
      · cases created
        rfl
      · cases created
    · cases created
  signs := by
    intro safe signer owner transaction
    exact if_pos owner
  refuses := by
    intro safe signer stranger transaction
    exact ⟨_, if_neg stranger⟩

def sampleSafe : Safe where
  owners := [firstAddress, secondAddress, thirdAddress]
  threshold := 2
  distinct := by decide +kernel
  positive := by decide
  bounded := by decide

theorem sample_accounts :
    accountOf sampleEthers sampleKms "key-1" = some (toLowerCase firstAddress) ∧
      accountOf sampleEthers sampleKms "key-2" = some (toLowerCase secondAddress) ∧
      accountOf sampleEthers sampleKms "key-3" = some (toLowerCase thirdAddress) := by
  decide +kernel

theorem sample_built :
    removeOwnerTx sampleKit sampleSafe firstAddress none = .ok ⟨firstAddress, 2, []⟩ := by
  have owner : toLowerCase firstAddress ∈ sampleSafe.accounts := List.mem_cons_self
  rw [removeOwnerTx, if_neg (not_not_intro owner)]
  rfl

theorem removal_signed_by_remaining_sample :
    removeOwnerTx sampleKit sampleSafe firstAddress none = .ok ⟨firstAddress, 2, []⟩ ∧
      EnoughKeys sampleEthers sampleKms sampleSafe ["key-2", "key-3", "key-1"] firstAddress ∧
      RemovedByRemaining sampleEthers sampleKms sampleKit sampleSafe ["key-2", "key-3", "key-1"]
        firstAddress ⟨firstAddress, 2, []⟩ := by
  have enough : EnoughKeys sampleEthers sampleKms sampleSafe ["key-2", "key-3", "key-1"]
      firstAddress := by
    unfold EnoughKeys
    decide +kernel
  have front : FirstKeysRemain sampleEthers sampleKms sampleSafe ["key-2", "key-3", "key-1"]
      firstAddress := by
    refine ⟨[toLowerCase secondAddress, toLowerCase thirdAddress], ?_, rfl, ?_, ?_⟩
    · show [accountOf _ _ "key-2", accountOf _ _ "key-3"] = _
      rw [sample_accounts.2.1, sample_accounts.2.2]
      rfl
    · decide +kernel
    · decide +kernel
  exact ⟨sample_built, enough, (removal_signed_by_remaining_iff _ _ _ _ sampleKit_documented _ _ _
    sample_built).mpr (fun _ => front) enough⟩

theorem sample_collected :
    ∃ executor, collectSignatures sampleEthers sampleKms sampleKit sampleSafe
        ["key-1", "key-2", "key-3"] ⟨firstAddress, 2, []⟩ =
      .ok (executor, ⟨firstAddress, 2, [toLowerCase firstAddress, toLowerCase secondAddress]⟩) := by
  apply (collectSignatures_eq_ok sampleKit_documented).mpr
  refine ⟨[toLowerCase firstAddress, toLowerCase secondAddress], ⟨?_, rfl⟩, ?_, ?_⟩
  · show [accountOf _ _ "key-1", accountOf _ _ "key-2"] = _
    rw [sample_accounts.1, sample_accounts.2.1]
    rfl
  · decide +kernel
  · rw [gather_of_distinct (by decide +kernel), List.nil_append]

/-- The departing owner's key comes first and signs, although two other keys are there. -/
theorem departing_owner_signs :
    sampleKit.Documented ∧
      removeOwnerTx sampleKit sampleSafe firstAddress none = .ok ⟨firstAddress, 2, []⟩ ∧
      EnoughKeys sampleEthers sampleKms sampleSafe ["key-1", "key-2", "key-3"] firstAddress ∧
      (∃ executor, collectSignatures sampleEthers sampleKms sampleKit sampleSafe
          ["key-1", "key-2", "key-3"] ⟨firstAddress, 2, []⟩ =
        .ok (executor,
          ⟨firstAddress, 2, [toLowerCase firstAddress, toLowerCase secondAddress]⟩)) ∧
      ¬RemovedByRemaining sampleEthers sampleKms sampleKit sampleSafe ["key-1", "key-2", "key-3"]
        firstAddress ⟨firstAddress, 2, []⟩ := by
  refine ⟨sampleKit_documented, sample_built, ?_, sample_collected, ?_⟩
  · unfold EnoughKeys
    decide +kernel
  · intro removed
    obtain ⟨accounts, known, _, _, remaining⟩ :=
      (removedByRemaining_iff sampleKit_documented rfl).mp removed
    have front : [accountOf sampleEthers sampleKms "key-1",
        accountOf sampleEthers sampleKms "key-2"] = accounts.map some := known
    rw [sample_accounts.1] at front
    have asked : some (toLowerCase firstAddress) ∈ accounts.map some := by
      rw [← front]
      exact List.mem_cons_self
    obtain ⟨account, member, same⟩ := List.mem_map.mp asked
    cases same
    exact (remains_iff.mp (remaining _ member)).2 rfl

end Dics.SafeOps
