/-
The logs the indexer reads.

The human-readable ABIs declare three events of the claim registry and two of
the policy contract; every other log at the two addresses is of no declared
event.  Addresses and hashes stand for their hexadecimal texts.
-/

import Dics.Chain.InsurancePolicy
import Dics.Chain.ClaimRegistry

namespace Dics.Indexer

inductive Contract where
  | insurancePolicy
  | claimRegistry
  deriving DecidableEq

/-- What a log carries; `other` is an event of the proxies' own libraries, such as
`Upgraded` or `Initialized`, by its topic. -/
inductive Emitted where
  | policy (event : InsurancePolicy.Event)
  | registry (event : ClaimRegistry.Event)
  | other (topic : Bytes32)
  deriving DecidableEq

structure Log where
  transactionHash : Bytes32
  index : Nat
  blockNumber : Nat
  emitted : Emitted
  deriving DecidableEq

def Log.key (log : Log) : Bytes32 × Nat := (log.transactionHash, log.index)

inductive Parsed where
  | claimSubmitted (claimId policyId : Nat) (claimant : Address) (merkleRoot : Bytes32)
      (amount timestamp : Nat)
  | claimStatusChanged (claimId status : Nat)
  | claimPayout (claimId : Nat) (recipient : Address) (amount : Nat) (token : Address)
  | policyRegistered (policyId : Nat) (holder : Address)
      (validFrom validUntil coverageAmount : Nat)
  | policyRevoked (policyId : Nat)
  deriving DecidableEq

/-- Which events of which contract the human-readable ABIs declare. -/
def parseLog : Contract → Emitted → Option Parsed
  | .claimRegistry, .registry (.claimSubmitted claimId policyId claimant merkleRoot amount
      timestamp) =>
      some (.claimSubmitted claimId policyId claimant merkleRoot amount timestamp)
  | .claimRegistry, .registry (.claimStatusChanged claimId status) =>
      some (.claimStatusChanged claimId status.index)
  | .claimRegistry, .registry (.claimPayout claimId recipient amount token) =>
      some (.claimPayout claimId recipient amount token)
  | .insurancePolicy, .policy (.policyRegistered policyId holder validFrom validUntil
      coverageAmount _) =>
      some (.policyRegistered policyId holder validFrom validUntil coverageAmount)
  | .insurancePolicy, .policy (.policyRevoked policyId) => some (.policyRevoked policyId)
  | _, _ => none

inductive StatusName where
  | submitted
  | underReview
  | approved
  | paid
  | rejected
  | unknown (status : Nat)
  deriving DecidableEq

/-- `CLAIM_STATUS_NAMES`. -/
def claimStatusNames : List StatusName :=
  [.submitted, .underReview, .approved, .paid, .rejected]

def statusName (status : Nat) : StatusName :=
  (claimStatusNames[status]?).getD (.unknown status)

end Dics.Indexer
