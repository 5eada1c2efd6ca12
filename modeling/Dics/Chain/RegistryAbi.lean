/-
The registry's calls as bytes.

The frontend, the oracle adapter, the underwriter service and the Safe's scripts
reach the registry through calldata alone.  The contract takes exactly the byte
strings that its interface describes for the functions that change its state,
and no byte string stands for two of them.  What inherited code does with an
upgrade, or with a role that no function asks for, is left open.  Keccak-256 is
a parameter; the compiler makes sure that no two selectors coincide.
-/

import Dics.Chain.RegistryRuns
import Dics.Lib.Calldata
import Mathlib.Tactic.IntervalCases

open TypedData Calldata

namespace Dics.ClaimRegistry

/-- The external functions that change the state. -/
inductive Entry where
  | submitClaim
  | setClaimStatus
  | recordOracleVerification
  | payoutClaim
  | releaseStuckPayout
  | pause
  | unpause
  | updateRateLimits
  | setPolicyRegistry
  | rescueForeignToken
  | grantRole
  | revokeRole
  | renounceRole
  deriving DecidableEq

def entries : List Entry :=
  [.submitClaim, .setClaimStatus, .recordOracleVerification, .payoutClaim, .releaseStuckPayout,
   .pause, .unpause, .updateRateLimits, .setPolicyRegistry, .rescueForeignToken, .grantRole,
   .revokeRole, .renounceRole]

def Entry.signature : Entry → Signature
  | .submitClaim => ⟨"submitClaim", [.uint256, .bytes32, .uint256]⟩
  | .setClaimStatus => ⟨"setClaimStatus", [.uint256, .enumeration 5]⟩
  | .recordOracleVerification => ⟨"recordOracleVerification", [.uint256, .bytes32, .bool]⟩
  | .payoutClaim => ⟨"payoutClaim", [.uint256]⟩
  | .releaseStuckPayout => ⟨"releaseStuckPayout", [.uint256]⟩
  | .pause => ⟨"pause", []⟩
  | .unpause => ⟨"unpause", []⟩
  | .updateRateLimits => ⟨"updateRateLimits", [.uint256, .uint256, .uint256]⟩
  | .setPolicyRegistry => ⟨"setPolicyRegistry", [.address]⟩
  | .rescueForeignToken => ⟨"rescueForeignToken", [.address, .address, .uint256]⟩
  | .grantRole => ⟨"grantRole", [.bytes32, .address]⟩
  | .revokeRole => ⟨"revokeRole", [.bytes32, .address]⟩
  | .renounceRole => ⟨"renounceRole", [.bytes32, .address]⟩

variable (keccak : Bytes → Digest)

/-- The `bytes32` constants of the roles. -/
def Role.id : Role → Bytes32
  | .defaultAdmin => 0
  | .admin => keccak (asciiBytes "ADMIN_ROLE")
  | .upgrader => keccak (asciiBytes "UPGRADER_ROLE")
  | .pauser => keccak (asciiBytes "PAUSER_ROLE")
  | .underwriter => keccak (asciiBytes "UNDERWRITER_ROLE")
  | .oracle => keccak (asciiBytes "ORACLE_ROLE")

def roles : List Role := [.defaultAdmin, .admin, .upgrader, .pauser, .underwriter, .oracle]

def roleOfId (id : Bytes32) : Option Role :=
  roles.find? fun role => decide (role.id keccak = id)

def statuses : List ClaimStatus := [.submitted, .underReview, .approved, .paid, .rejected]

/-! ### Writing a call -/

def Fn.entry : Fn → Entry
  | .submitClaim _ _ _ => .submitClaim
  | .setClaimStatus _ _ => .setClaimStatus
  | .recordOracleVerification _ _ _ => .recordOracleVerification
  | .payoutClaim _ => .payoutClaim
  | .releaseStuckPayout _ => .releaseStuckPayout
  | .pause => .pause
  | .unpause => .unpause
  | .updateRateLimits _ _ _ => .updateRateLimits
  | .setPolicyRegistry _ => .setPolicyRegistry
  | .rescueForeignToken _ _ _ => .rescueForeignToken
  | .changeRole (.grantRole _ _) => .grantRole
  | .changeRole (.revokeRole _ _) => .revokeRole
  | .changeRole (.renounceRole _ _) => .renounceRole

def Fn.arguments : Fn → List Nat
  | .submitClaim policyId merkleRoot amount => [policyId, merkleRoot.toNat, amount]
  | .setClaimStatus claimId status => [claimId, status.index]
  | .recordOracleVerification claimId requestId approved =>
      [claimId, requestId.toNat, approved.toNat]
  | .payoutClaim claimId => [claimId]
  | .releaseStuckPayout claimId => [claimId]
  | .pause => []
  | .unpause => []
  | .updateRateLimits maxPerClaim maxPerWindow windowSeconds =>
      [maxPerClaim, maxPerWindow, windowSeconds]
  | .setPolicyRegistry newPolicyRegistry => [newPolicyRegistry.toNat]
  | .rescueForeignToken token recipient amount => [token.toNat, recipient.toNat, amount]
  | .changeRole (.grantRole role account) => [(role.id keccak).toNat, account.toNat]
  | .changeRole (.revokeRole role account) => [(role.id keccak).toNat, account.toNat]
  | .changeRole (.renounceRole role account) => [(role.id keccak).toNat, account.toNat]

def Fn.calldata (fn : Fn) : Bytes :=
  encodeCall keccak fn.entry.signature (fn.arguments keccak)

/-- Every number of the call is a word. -/
def Fn.Encodable (fn : Fn) : Prop :=
  Fits fn.entry.signature.kinds (fn.arguments keccak)

/-! ### Taking a call -/

/-- `none` also stands for a role that the contract has no use for. -/
def fnOf : Entry → List Nat → Option Fn
  | .submitClaim, [policyId, merkleRoot, amount] =>
      some (.submitClaim policyId (BitVec.ofNat 256 merkleRoot) amount)
  | .setClaimStatus, [claimId, status] => (statuses[status]?).map (Fn.setClaimStatus claimId)
  | .recordOracleVerification, [claimId, requestId, approved] =>
      some (.recordOracleVerification claimId (BitVec.ofNat 256 requestId) (approved != 0))
  | .payoutClaim, [claimId] => some (.payoutClaim claimId)
  | .releaseStuckPayout, [claimId] => some (.releaseStuckPayout claimId)
  | .pause, [] => some .pause
  | .unpause, [] => some .unpause
  | .updateRateLimits, [maxPerClaim, maxPerWindow, windowSeconds] =>
      some (.updateRateLimits maxPerClaim maxPerWindow windowSeconds)
  | .setPolicyRegistry, [newPolicyRegistry] =>
      some (.setPolicyRegistry (BitVec.ofNat 160 newPolicyRegistry))
  | .rescueForeignToken, [token, recipient, amount] =>
      some (.rescueForeignToken (BitVec.ofNat 160 token) (BitVec.ofNat 160 recipient) amount)
  | .grantRole, [role, account] =>
      (roleOfId keccak (BitVec.ofNat 256 role)).map fun role =>
        .changeRole (.grantRole role (BitVec.ofNat 160 account))
  | .revokeRole, [role, account] =>
      (roleOfId keccak (BitVec.ofNat 256 role)).map fun role =>
        .changeRole (.revokeRole role (BitVec.ofNat 160 account))
  | .renounceRole, [role, account] =>
      (roleOfId keccak (BitVec.ofNat 256 role)).map fun role =>
        .changeRole (.renounceRole role (BitVec.ofNat 160 account))
  | _, _ => none

/-- The function that the contract finds in the calldata of a transaction. -/
def decode (data : Bytes) : Option Fn :=
  (decodeCall keccak Entry.signature entries data).bind fun call => fnOf keccak call.1 call.2

/-- The selector of the function that is inherited with the upgrades. -/
def upgradeSelector : Bytes :=
  (encodeWord (keccak (asciiBytes "upgradeToAndCall(address,bytes)"))).take 4

/-- An upgrade of the code, or a change of a role that is none of the contract's own. -/
def inheritedOnly (data : Bytes) : Bool :=
  decide (data.take 4 = upgradeSelector keccak) ||
    (decodeCall keccak Entry.signature entries data).any fun call =>
      (fnOf keccak call.1 call.2).isNone

/-- Selectors differ, and so do the roles. -/
structure Distinct : Prop where
  selectors : Apart keccak Entry.signature entries
  upgrade : ∀ entry ∈ entries,
    selector keccak (Entry.signature entry) ≠ upgradeSelector keccak
  roles : ∀ left right : Role, left.id keccak = right.id keccak → left = right

theorem mem_entries (entry : Entry) : entry ∈ entries := by
  cases entry <;> decide

theorem mem_roles (role : Role) : role ∈ roles := by
  cases role <;> decide

theorem statuses_index (status : ClaimStatus) : statuses[status.index]? = some status := by
  cases status <;> rfl

theorem index_of_statuses {number : Nat} {status : ClaimStatus}
    (found : statuses[number]? = some status) : status.index = number := by
  rcases number with _ | _ | _ | _ | _ | number <;> cases found <;> rfl

theorem id_of_roleOfId {id : Bytes32} {role : Role} (found : roleOfId keccak id = some role) :
    role.id keccak = id := by
  have same := List.find?_some found
  rw [decide_eq_true_eq] at same
  exact same

theorem roleOfId_id (distinct : Distinct keccak) (role : Role) :
    roleOfId keccak (role.id keccak) = some role := by
  cases search : roleOfId keccak (role.id keccak) with
  | none =>
      have missing := List.find?_eq_none.mp search role (mem_roles role)
      exact absurd (decide_eq_true rfl) missing
  | some other => rw [distinct.roles other role (id_of_roleOfId keccak search)]

/-- The function is found again from its entry and arguments. -/
theorem fnOf_arguments (distinct : Distinct keccak) (fn : Fn) :
    fnOf keccak fn.entry (fn.arguments keccak) = some fn := by
  have named := roleOfId_id keccak distinct
  cases fn with
  | setClaimStatus claimId status =>
      simp only [Fn.entry, Fn.arguments, fnOf, statuses_index, Option.map_some]
  | recordOracleVerification claimId requestId approved =>
      cases approved <;>
        simp [Fn.entry, Fn.arguments, fnOf, BitVec.ofNat_toNat, BitVec.setWidth_eq]
  | changeRole change =>
      cases change <;>
        simp only [Fn.entry, Fn.arguments, fnOf, BitVec.ofNat_toNat, BitVec.setWidth_eq, named,
          Option.map_some]
  | _ => simp only [Fn.entry, Fn.arguments, fnOf, BitVec.ofNat_toNat, BitVec.setWidth_eq]

/-- The two words of a role change. -/
theorem words_of_roleOfId {word account : Nat} {role : Role}
    (fits : Fits [.bytes32, .address] [word, account])
    (named : roleOfId keccak (BitVec.ofNat 256 word) = some role) :
    [(role.id keccak).toNat, (BitVec.ofNat 160 account).toNat] = [word, account] := by
  simp only [Fits, List.forall₂_cons, Kind.bound] at fits
  obtain ⟨wordFits, accountFits, _⟩ := fits
  rw [id_of_roleOfId keccak named, BitVec.toNat_ofNat, BitVec.toNat_ofNat,
    Nat.mod_eq_of_lt wordFits, Nat.mod_eq_of_lt accountFits]

/-- Words in range are read without loss. -/
theorem entry_arguments_of_fnOf {entry : Entry} {values : List Nat} {fn : Fn}
    (fits : Fits entry.signature.kinds values) (found : fnOf keccak entry values = some fn) :
    fn.entry = entry ∧ fn.arguments keccak = values := by
  unfold fnOf at found
  split at found
  · simp only [Entry.signature, Fits, List.forall₂_cons, Kind.bound] at fits
    cases found
    exact ⟨rfl, by simp only [Fn.arguments, BitVec.toNat_ofNat, Nat.mod_eq_of_lt fits.2.1]⟩
  · obtain ⟨status, named, rfl⟩ := Option.map_eq_some_iff.mp found
    exact ⟨rfl, by rw [Fn.arguments, index_of_statuses named]⟩
  · rename_i claimId requestId approved
    simp only [Entry.signature, Fits, List.forall₂_cons, Kind.bound] at fits
    cases found
    have flag : (approved != 0).toNat = approved := by
      have small := fits.2.2.1
      interval_cases approved <;> rfl
    exact ⟨rfl, by
      simp only [Fn.arguments, BitVec.toNat_ofNat, Nat.mod_eq_of_lt fits.2.1, flag]⟩
  · cases found
    exact ⟨rfl, rfl⟩
  · cases found
    exact ⟨rfl, rfl⟩
  · cases found
    exact ⟨rfl, rfl⟩
  · cases found
    exact ⟨rfl, rfl⟩
  · cases found
    exact ⟨rfl, rfl⟩
  · simp only [Entry.signature, Fits, List.forall₂_cons, Kind.bound] at fits
    cases found
    exact ⟨rfl, by simp only [Fn.arguments, BitVec.toNat_ofNat, Nat.mod_eq_of_lt fits.1]⟩
  · simp only [Entry.signature, Fits, List.forall₂_cons, Kind.bound] at fits
    cases found
    exact ⟨rfl, by simp only [Fn.arguments, BitVec.toNat_ofNat, Nat.mod_eq_of_lt fits.1,
      Nat.mod_eq_of_lt fits.2.1]⟩
  · obtain ⟨role, named, rfl⟩ := Option.map_eq_some_iff.mp found
    exact ⟨rfl, words_of_roleOfId keccak fits named⟩
  · obtain ⟨role, named, rfl⟩ := Option.map_eq_some_iff.mp found
    exact ⟨rfl, words_of_roleOfId keccak fits named⟩
  · obtain ⟨role, named, rfl⟩ := Option.map_eq_some_iff.mp found
    exact ⟨rfl, words_of_roleOfId keccak fits named⟩
  · cases found

/-- The registry takes a byte string for a function exactly when the string is
that function's calldata, with anything behind it. -/
theorem decode_eq_some (distinct : Distinct keccak) {data : Bytes} {fn : Fn} :
    decode keccak data = some fn ↔
      fn.Encodable keccak ∧ ∃ rest, data = fn.calldata keccak ++ rest := by
  constructor
  · intro decoded
    obtain ⟨⟨entry, values⟩, call, found⟩ := Option.bind_eq_some_iff.mp decoded
    obtain ⟨_, fits, rest, written⟩ := (decodeCall_eq_some distinct.selectors).mp call
    obtain ⟨rfl, rfl⟩ := entry_arguments_of_fnOf keccak fits found
    exact ⟨fits, rest, written⟩
  · rintro ⟨fits, rest, rfl⟩
    have call : decodeCall keccak Entry.signature entries (fn.calldata keccak ++ rest) =
        some (fn.entry, fn.arguments keccak) :=
      (decodeCall_eq_some distinct.selectors).mpr ⟨mem_entries fn.entry, fits, rest, rfl⟩
    rw [decode, call]
    exact fnOf_arguments keccak distinct fn

/-- No call of the contract is an upgrade or about somebody else's role. -/
theorem inheritedOnly_of_decode (distinct : Distinct keccak) {data : Bytes} {fn : Fn}
    (decoded : decode keccak data = some fn) : inheritedOnly keccak data = false := by
  obtain ⟨⟨entry, values⟩, call, found⟩ := Option.bind_eq_some_iff.mp decoded
  obtain ⟨_, _, rest, rfl⟩ := (decodeCall_eq_some distinct.selectors).mp call
  have own : (encodeCall keccak entry.signature values ++ rest).take 4 =
      selector keccak entry.signature := by
    rw [encodeCall, List.append_assoc, List.take_left' (selector_length keccak _)]
  have other : (encodeCall keccak entry.signature values ++ rest).take 4 ≠
      upgradeSelector keccak := by
    rw [own]
    exact distinct.upgrade entry (mem_entries entry)
  rw [inheritedOnly, decide_eq_false other, call, Option.any_some, found]
  rfl

/-! ### Runs of byte strings -/

/-- What a transaction carries to the registry, or an act on a token. -/
inductive Input where
  | calldata (data : Bytes)
  | token (token : Address) (act : Tokens.Act Address)

structure Transaction where
  msg : Msg
  registries : Address → PolicyRegistry
  input : Input

def Transaction.call (transaction : Transaction) : Option Call :=
  match transaction.input with
  | .calldata data => (decode keccak data).map fun fn =>
      ⟨transaction.msg, transaction.registries, .registry fn⟩
  | .token token act => some ⟨transaction.msg, transaction.registries, .token token act⟩

def Transaction.inheritedOnly (transaction : Transaction) : Bool :=
  match transaction.input with
  | .calldata data => ClaimRegistry.inheritedOnly keccak data
  | .token _ _ => false

/-- Run one transaction.  `inherited` is what happens with the calls of inherited code
that no `Fn` stands for; all other calldata are refused by the dispatcher or belong to a
view. -/
def receive (inherited : World → Transaction → Except (Option Error) (World × Receipt Event))
    (here : Address) (world : World) (transaction : Transaction) :
    Except (Option Error) (World × Receipt Event) :=
  if transaction.inheritedOnly keccak then inherited world transaction
  else Transactions.behind (Transaction.call keccak) (exec here) world transaction

/-- The transaction has the bytes of the call, and maybe more behind them. -/
inductive Written : Transaction → Call → Prop where
  | registry (msg : Msg) (registries : Address → PolicyRegistry) {fn : Fn}
      (encodable : fn.Encodable keccak) (rest : Bytes) :
      Written ⟨msg, registries, .calldata (fn.calldata keccak ++ rest)⟩
        ⟨msg, registries, .registry fn⟩
  | token (msg : Msg) (registries : Address → PolicyRegistry) (token : Address)
      (act : Tokens.Act Address) :
      Written ⟨msg, registries, .token token act⟩ ⟨msg, registries, .token token act⟩

theorem call_eq_some (distinct : Distinct keccak) {transaction : Transaction} {call : Call} :
    transaction.call keccak = some call ↔ Written keccak transaction call := by
  constructor
  · intro read
    obtain ⟨msg, registries, input⟩ := transaction
    cases input with
    | calldata data =>
        obtain ⟨fn, found, rfl⟩ := Option.map_eq_some_iff.mp read
        obtain ⟨encodable, rest, rfl⟩ := (decode_eq_some keccak distinct).mp found
        exact Written.registry msg registries encodable rest
    | token token act =>
        cases read
        exact Written.token msg registries token act
  · intro written
    cases written with
    | @registry msg registries fn encodable rest =>
        have found : decode keccak (fn.calldata keccak ++ rest) = some fn :=
          (decode_eq_some keccak distinct).mpr ⟨encodable, rest, rfl⟩
        show (decode keccak (fn.calldata keccak ++ rest)).map _ = _
        rw [found]
        rfl
    | token msg registries token act => rfl

/-- The calls that are read are written, in their order, in a part of the
transactions. -/
theorem written_calls (distinct : Distinct keccak) (transactions : List Transaction) :
    ∃ accepted, List.Sublist accepted transactions ∧
      List.Forall₂ (Written keccak) accepted
        (transactions.filterMap (Transaction.call keccak)) := by
  induction transactions with
  | nil => exact ⟨[], List.Sublist.slnil, List.Forall₂.nil⟩
  | cons transaction rest ih =>
      obtain ⟨accepted, part, written⟩ := ih
      cases read : transaction.call keccak with
      | none =>
          rw [List.filterMap_cons_none read]
          exact ⟨accepted, part.cons transaction, written⟩
      | some call =>
          rw [List.filterMap_cons_some read]
          exact ⟨transaction :: accepted, part.cons_cons transaction,
            List.Forall₂.cons ((call_eq_some keccak distinct).mp read) written⟩

theorem filterMap_of_written (distinct : Distinct keccak) {transactions : List Transaction}
    {calls : List Call} (written : List.Forall₂ (Written keccak) transactions calls) :
    transactions.filterMap (Transaction.call keccak) = calls := by
  induction written with
  | nil => rfl
  | cons first _ ih =>
      rw [List.filterMap_cons_some ((call_eq_some keccak distinct).mpr first), ih]

theorem inheritedOnly_of_written (distinct : Distinct keccak) {transaction : Transaction}
    {call : Call} (written : Written keccak transaction call) :
    transaction.inheritedOnly keccak = false := by
  cases written with
  | registry msg registries encodable rest =>
      apply inheritedOnly_of_decode keccak distinct
      exact (decode_eq_some keccak distinct).mpr ⟨encodable, rest, rfl⟩
  | token msg registries token act => rfl

section Runs

variable (inherited : World → Transaction → Except (Option Error) (World × Receipt Event))

/-- Transactions for the contract's own functions have the effect and the receipts
of the calls that are read in them. -/
theorem run_receive (here : Address) (start : World) {transactions : List Transaction}
    (own : ∀ transaction ∈ transactions, transaction.inheritedOnly keccak = false) :
    Transactions.run (receive keccak inherited here) start transactions =
        Transactions.run (exec here) start
          (transactions.filterMap (Transaction.call keccak)) ∧
      (Transactions.history (receive keccak inherited here) start transactions).map
          Transactions.Commit.output =
        (Transactions.history (exec here) start
          (transactions.filterMap (Transaction.call keccak))).map
            Transactions.Commit.output := by
  have described : ∀ transaction ∈ transactions, ∀ world,
      receive keccak inherited here world transaction =
        Transactions.behind (Transaction.call keccak) (exec here) world transaction := by
    intro transaction member world
    rw [receive, own transaction member]
    rfl
  obtain ⟨states, histories⟩ := Transactions.run_congr described start
  rw [states, histories]
  exact Transactions.run_behind (Transaction.call keccak) start transactions

theorem run_receive_written (distinct : Distinct keccak) (here : Address) (start : World)
    {transactions : List Transaction} {calls : List Call}
    (written : List.Forall₂ (Written keccak) transactions calls) :
    Transactions.run (receive keccak inherited here) start transactions =
        Transactions.run (exec here) start calls ∧
      (Transactions.history (receive keccak inherited here) start transactions).map
          Transactions.Commit.output =
        (Transactions.history (exec here) start calls).map Transactions.Commit.output := by
  have both := written.imp fun _ _ one =>
    And.intro (inheritedOnly_of_written keccak distinct one) one
  have own := ((List.forall₂_and_left _ _).mp both).1
  have ran := run_receive keccak inherited here start own
  rw [filterMap_of_written keccak distinct written] at ran
  exact ran

end Runs

/-- What byte strings do to the registry is what the calls do that are written in
them: every run of transactions is a run of calls with the same receipts, unless
they upgrade it or change roles that are none of its own, and the bytes of any
calls bring about the run of these calls. -/
theorem bytes_refine_calls (distinct : Distinct keccak)
    (inherited : World → Transaction → Except (Option Error) (World × Receipt Event))
    (deployment : Deployment) :
    (∀ transactions : List Transaction,
      (∀ transaction ∈ transactions, transaction.inheritedOnly keccak = false) →
      ∃ accepted calls,
        List.Sublist accepted transactions ∧ List.Forall₂ (Written keccak) accepted calls ∧
        Transactions.run (receive keccak inherited deployment.self) deployment.start
          transactions = deployment.run calls ∧
        (Transactions.history (receive keccak inherited deployment.self) deployment.start
            transactions).map Transactions.Commit.output =
          (deployment.history calls).map Transactions.Commit.output) ∧
    ∀ transactions calls, List.Forall₂ (Written keccak) transactions calls →
      Transactions.run (receive keccak inherited deployment.self) deployment.start
          transactions = deployment.run calls ∧
        (Transactions.history (receive keccak inherited deployment.self) deployment.start
            transactions).map Transactions.Commit.output =
          (deployment.history calls).map Transactions.Commit.output := by
  constructor
  · intro transactions own
    obtain ⟨accepted, part, written⟩ := written_calls keccak distinct transactions
    obtain ⟨states, outputs⟩ :=
      run_receive keccak inherited deployment.self deployment.start own
    exact ⟨accepted, _, part, written, states, outputs⟩
  · intro transactions calls written
    exact run_receive_written keccak inherited distinct deployment.self deployment.start
      written

/-! ### The interface under its real digests -/

def interfaceDigests : List (String × Digest) :=
  [("submitClaim(uint256,bytes32,uint256)",
    0xeaf1ffa181ff6901aad9a984140fea1397b9612d41dfd353a0084a47a22f702f),
   ("setClaimStatus(uint256,uint8)",
    0xf14e49ae3cd36c5fecb162b734e9e4eb16d4286df9aeeebc7ce16450f449fddd),
   ("recordOracleVerification(uint256,bytes32,bool)",
    0xc9eaebb65b62cfc8980f8416b5d2bcac80c628ad38dbd5d185137c6e9e01b2ca),
   ("payoutClaim(uint256)",
    0x0d13fa5a63016e9472403f28265c0d5d630dcb6ae7323b78053fae8ed13c8a19),
   ("releaseStuckPayout(uint256)",
    0xac6b52964666f15545f2a5e95e1fbfd9ffd0376f8782b15863a7037ee0741d8c),
   ("pause()",
    0x8456cb591a934d53f6ccc6332123a165a1f3562907bf11330d847a29ca49eb89),
   ("unpause()",
    0x3f4ba83af89dc9793996d9e56b8abe6dc88cd97c9c2bb23027806e9c1ffd54dc),
   ("updateRateLimits(uint256,uint256,uint256)",
    0x9631d61810465c1c482b7f562012469347be1c0e0d1cd04e3d360d8e11262507),
   ("setPolicyRegistry(address)",
    0xe015c85d80618fb6fcb35a8146913501482a8c823763921db15e97620262c09a),
   ("rescueForeignToken(address,address,uint256)",
    0x84345fa056680afb620b05c22f1bc7a19d5e63b84f3345aaa26d67a2d29f100d),
   ("grantRole(bytes32,address)",
    0x2f2ff15deca029b64bbc0874ae59c8f39be024a95aa718b4c13ca407db350be8),
   ("revokeRole(bytes32,address)",
    0xd547741fd8d55981251e167708119763c372f2b41e85a1468b0a759b055a009f),
   ("renounceRole(bytes32,address)",
    0x36568abe2c7e6c1d662bad0fe1760ac72cf2f9478a86be824d68ec83895c49e9),
   ("upgradeToAndCall(address,bytes)",
    0x4f1ef2866b98625bdfefae89411f7a82754ac4089eff8e78c8832329a538337f),
   ("ADMIN_ROLE",
    0xa49807205ce4d355092ef5a8a18f56e8913cf4a201fbe287825b095693c21775),
   ("UPGRADER_ROLE",
    0x189ab7a9244df0848122154315af71fe140f3db0fe014031783b0946b8c9d2e3),
   ("PAUSER_ROLE",
    0x65d7a28e3265b37a6474929f336521b332c1681b933f6cb9f3376673440d862a),
   ("UNDERWRITER_ROLE",
    0xf63acc52fa4ad8a2695e14522f3df504db5c225cdd3d3a5acd3569b444572187),
   ("ORACLE_ROLE",
    0x68e79a7bf1e0bc45d0a330c573bc367f9cf464fd326078812f301165fbda4ef1)]

/-- Keccak-256 on the texts of the interface. -/
def interfaceKeccak (bytes : Bytes) : Digest :=
  ((interfaceDigests.find? fun pair => decide (asciiBytes pair.1 = bytes)).map Prod.snd).getD 0

theorem interfaceKeccak_distinct : Distinct interfaceKeccak where
  selectors := by
    unfold Apart
    decide +kernel
  upgrade := by
    decide +kernel
  roles := by
    have listed : ∀ left ∈ roles, ∀ right ∈ roles,
        left.id interfaceKeccak = right.id interfaceKeccak → left = right := by
      decide +kernel
    intro left right same
    exact listed left (mem_roles left) right (mem_roles right) same

/-- The holder files a claim, bytes of no function arrive, and the underwriter
approves with a word too many. -/
def sampleTransactions : List Transaction :=
  [⟨{ sender := 0xAD, timestamp := 1 }, fun _ => samplePolicies, .calldata
      ((Fn.changeRole (.grantRole .underwriter 0xD1)).calldata interfaceKeccak)⟩,
   ⟨{ sender := 0xA1, timestamp := 2 }, fun _ => samplePolicies, .calldata
      ((Fn.submitClaim 7 0 500).calldata interfaceKeccak)⟩,
   ⟨{ sender := 0xA1, timestamp := 3 }, fun _ => samplePolicies, .calldata [0, 1, 2, 3]⟩,
   ⟨{ sender := 0xD1, timestamp := 4 }, fun _ => samplePolicies, .calldata
      ((Fn.setClaimStatus 1 .approved).calldata interfaceKeccak ++ encodeWord 0)⟩]

/-- Nothing is known of upgrades and of roles that are none of the contract's own. -/
def sampleInherited : World → Transaction → Except (Option Error) (World × Receipt Event) :=
  fun _ _ => .error none

theorem bytes_refine_calls_sample :
    ((Transactions.run (receive interfaceKeccak sampleInherited sampleDeployment.self)
        sampleDeployment.start sampleTransactions).registry.claims 1).status = .approved ∧
      ∃ accepted calls, List.Sublist accepted sampleTransactions ∧
        List.Forall₂ (Written interfaceKeccak) accepted calls ∧
        Transactions.run (receive interfaceKeccak sampleInherited sampleDeployment.self)
          sampleDeployment.start sampleTransactions = sampleDeployment.run calls := by
  have own : ∀ transaction ∈ sampleTransactions,
      transaction.inheritedOnly interfaceKeccak = false := by
    decide +kernel
  obtain ⟨accepted, calls, part, written, states, _⟩ :=
    (bytes_refine_calls interfaceKeccak interfaceKeccak_distinct sampleInherited
      sampleDeployment).1 sampleTransactions own
  exact ⟨by decide +kernel, accepted, calls, part, written, states⟩

end Dics.ClaimRegistry
