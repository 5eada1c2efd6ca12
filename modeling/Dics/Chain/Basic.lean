/-
Types shared by the DICS contracts.

A 256-bit quantity is a natural number; every place where the machine word
could overflow uses a checked operation.  The packed struct fields keep their
width as a bit vector, so a narrowing cast is `BitVec.ofNat`, which drops the
high bits exactly as the source's cast does.
-/

import Dics.Lib.Tokens
import Mathlib.Data.BitVec

open Tokens

namespace Dics

abbrev Address := BitVec 160

abbrev Bytes32 := BitVec 256

structure Msg where
  sender : Address
  timestamp : Nat

/-- What a committed call emitted: its contract's events, and the token
movements it caused. -/
structure Receipt (Event : Type) where
  events : List Event
  movements : List (Movement Address)

/-- The policy record of `InsurancePolicy`, which `IInsurancePolicyRegistry`
repeats field by field. -/
structure Policy where
  policyId : BitVec 128
  coverageAmount : BitVec 128
  holder : Address
  validFrom : BitVec 40
  validUntil : BitVec 40
  revoked : Bool
  metadataHash : Bytes32
  deriving DecidableEq

/-- `IInsurancePolicyRegistry`: the two views `ClaimRegistry` asks for.  A view
that reverts has no answer. -/
structure PolicyRegistry where
  getPolicy : Nat → Option Policy
  isPremiumCurrent : Nat → Option Bool

end Dics
