/-
What the handlers hand to the database.

The arguments of an event are JavaScript big integers.  Each handler turns them
into texts before it stores them, all but the status of a status change; the
texts are then read as the types of the columns they are compared with or
written to.  A value that is refused on the way refuses the whole query.
-/

import Dics.Indexer.Events
import Dics.Lib.Doubles

namespace Dics.Indexer

/-! ### JavaScript values -/

/-- A member of a handler's `data` object: the decimal text of an integer, a
hexadecimal text, the name of a status, or a big integer as it was decoded. -/
inductive Member where
  | decimal (value : Nat)
  | address (value : Address)
  | bytes32 (value : Bytes32)
  | statusName (name : StatusName)
  | bigInt (value : Nat)

/-- `JSON.stringify` throws on a big integer. -/
def Member.stringifies : Member → Bool
  | .bigInt _ => false
  | _ => true

def Parsed.members : Parsed → List (String × Member)
  | .claimSubmitted claimId policyId claimant merkleRoot amount timestamp =>
      [("claimId", .decimal claimId), ("policyId", .decimal policyId),
        ("claimant", .address claimant), ("merkleRoot", .bytes32 merkleRoot),
        ("amount", .decimal amount), ("timestamp", .decimal timestamp)]
  | .claimStatusChanged claimId status =>
      [("claimId", .decimal claimId), ("status", .bigInt status),
        ("statusName", .statusName (Dics.Indexer.statusName status))]
  | .claimPayout claimId recipient amount token =>
      [("claimId", .decimal claimId), ("to", .address recipient), ("amount", .decimal amount),
        ("token", .address token)]
  | .policyRegistered policyId holder validFrom validUntil coverageAmount =>
      [("policyId", .decimal policyId), ("holder", .address holder),
        ("validFrom", .decimal validFrom), ("validUntil", .decimal validUntil),
        ("coverageAmount", .decimal coverageAmount)]
  | .policyRevoked policyId => [("policyId", .decimal policyId)]

/-! ### Columns -/

/-- The first second after the last `timestamptz`, counted from 1970. -/
def timestampEnd : Nat := 9224318016000

inductive Parameter where
  | integer (value : Nat)
  | bigint (value : Nat)
  | numeric (value : Nat)
  | text
  | seconds (value : Nat)
  | jsonb (members : List (String × Member))

/-- A `NUMERIC` has room for every 256-bit integer; the texts are hexadecimal or
the names of statuses and events. -/
def Parameter.accepted : Parameter → Bool
  | .integer value => value < 2 ^ 31
  | .bigint value => value < 2 ^ 63
  | .numeric _ => true
  | .text => true
  | .seconds value => value < timestampEnd
  | .jsonb members => members.all fun entry => entry.2.stringifies

/-- The parameters of the insert into `onchain_events`. -/
def rawParameters (log : Log) (event : Parsed) : List Parameter :=
  [.text, .text, .text, .integer log.index, .bigint log.blockNumber, .jsonb event.members]

def Parsed.parameters (log : Log) : Parsed → List Parameter
  | .claimSubmitted claimId policyId _ _ amount _ =>
      [.bigint claimId, .bigint policyId, .text, .text, .numeric amount, .text,
        .bigint log.blockNumber]
  | .claimStatusChanged claimId _ => [.bigint claimId, .text, .text]
  | .claimPayout claimId _ _ _ => [.bigint claimId, .text]
  | .policyRegistered policyId _ validFrom validUntil coverageAmount =>
      [.bigint policyId, .text, .numeric coverageAmount, .seconds validFrom, .seconds validUntil,
        .text]
  | .policyRevoked policyId => [.bigint policyId]

/-- 2000-01-01, in seconds since 1970. -/
def postgresEpoch : Nat := 946684800

/-- `to_timestamp`, as microseconds since 1970: the database counts from 2000 and
multiplies by a million in double precision. -/
def toTimestamp (seconds : Nat) : Nat :=
  postgresEpoch * 1000000 + Doubles.round ((seconds - postgresEpoch) * 1000000) -
    Doubles.round ((postgresEpoch - seconds) * 1000000)

/-! ### The values that are refused -/

def Parsed.isStatusChange : Parsed → Bool
  | .claimStatusChanged _ _ => true
  | _ => false

def Recordable (log : Log) (event : Parsed) : Prop :=
  event.isStatusChange = false ∧ log.index < 2 ^ 31 ∧ log.blockNumber < 2 ^ 63

instance (log : Log) (event : Parsed) : Decidable (Recordable log event) :=
  inferInstanceAs (Decidable (_ ∧ _ ∧ _))

/-- The identifiers fit a `BIGINT` and the dates a `timestamptz`. -/
def Parsed.Fits : Parsed → Prop
  | .claimSubmitted claimId policyId _ _ _ _ => claimId < 2 ^ 63 ∧ policyId < 2 ^ 63
  | .claimStatusChanged claimId _ => claimId < 2 ^ 63
  | .claimPayout claimId _ _ _ => claimId < 2 ^ 63
  | .policyRegistered policyId _ validFrom validUntil _ =>
      policyId < 2 ^ 63 ∧ validFrom < timestampEnd ∧ validUntil < timestampEnd
  | .policyRevoked policyId => policyId < 2 ^ 63

instance (event : Parsed) : Decidable event.Fits := by
  unfold Parsed.Fits
  split <;> infer_instance

theorem stringifies_iff (event : Parsed) :
    (event.members.all fun entry => entry.2.stringifies) = true ↔
      event.isStatusChange = false := by
  cases event <;> simp [Parsed.members, Member.stringifies, Parsed.isStatusChange]

theorem rawParameters_accepted_iff (log : Log) (event : Parsed) :
    (rawParameters log event).all Parameter.accepted = true ↔ Recordable log event := by
  unfold Recordable
  rw [← stringifies_iff]
  simp [rawParameters, Parameter.accepted]
  tauto

theorem parameters_accepted_iff {log : Log} (block : log.blockNumber < 2 ^ 63)
    (event : Parsed) :
    (event.parameters log).all Parameter.accepted = true ↔ event.Fits := by
  cases event <;> simp [Parsed.parameters, Parameter.accepted, Parsed.Fits]
  omega

/-! ### The dates that are stored as they are -/

/-- Microseconds since 2000 are a multiple of `2 ^ 6`, so an even number of
seconds has seven bits to spare. -/
def StoredExactly (seconds : Nat) : Prop :=
  seconds ≤ 577407437103 ∨ (seconds % 2 = 0 ∧ seconds < 2 ^ 40)

instance (seconds : Nat) : Decidable (StoredExactly seconds) :=
  inferInstanceAs (Decidable (_ ∨ _))

theorem round_microseconds {seconds : Nat}
    (few : seconds ≤ 576460752303 ∨ (seconds % 2 = 0 ∧ seconds < 2 ^ 40)) :
    Doubles.round (seconds * 1000000) = seconds * 1000000 := by
  rcases few with small | ⟨even, below⟩
  · apply @Doubles.round_of_dvd 6
    · exact Nat.dvd_mul_left_of_dvd (by decide) seconds
    · omega
  · apply @Doubles.round_of_dvd 7
    · rw [Nat.pow_succ, Nat.mul_comm (2 ^ 6) 2]
      exact Nat.mul_dvd_mul (Nat.dvd_of_mod_eq_zero even) (by decide)
    · omega

theorem toTimestamp_exact {seconds : Nat} (stored : StoredExactly seconds) :
    toTimestamp seconds = seconds * 1000000 := by
  unfold StoredExactly at stored
  unfold toTimestamp
  rw [@round_microseconds (seconds - postgresEpoch)
    (by unfold postgresEpoch; omega), @round_microseconds (postgresEpoch - seconds)
    (by unfold postgresEpoch; omega)]
  unfold postgresEpoch
  omega

end Dics.Indexer
