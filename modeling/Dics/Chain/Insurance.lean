/-
ClaimRegistry together with the InsurancePolicy contract it asks.

Both contracts and all tokens live in one world, so a policy view the registry
reads is the one the policy contract would give at that very moment.  A
transaction reaches one of the two contracts or a token.
-/

import Dics.Chain.InsurancePolicy
import Dics.Chain.Payouts

open Transactions Tokens Words

namespace Dics.Insurance

structure Addresses where
  policy : Address
  registry : Address
  distinct : policy ≠ registry

structure World where
  policy : InsurancePolicy.State
  registry : ClaimRegistry.State
  tokens : Bank Address

inductive Target where
  | policy (fn : InsurancePolicy.Fn)
  | registry (fn : ClaimRegistry.Fn)
  | token (token : Address) (act : Act Address)
  deriving DecidableEq

/-- A transaction from outside.  The registry only makes the calls in its own
code, so it never is the sender of one.  `others` answers for every policy
registry that is not the InsurancePolicy contract. -/
structure Call (addresses : Addresses) where
  msg : Msg
  others : Address → PolicyRegistry
  target : Target
  outside : msg.sender ≠ addresses.registry

inductive Event where
  | policy (event : InsurancePolicy.Event)
  | registry (event : ClaimRegistry.Event)
  deriving DecidableEq

inductive Error where
  | policy (error : InsurancePolicy.Error)
  | registry (error : ClaimRegistry.Error)
  | token (error : TokenError)
  deriving DecidableEq

def World.claims (world : World) : ClaimRegistry.World :=
  { registry := world.registry, tokens := world.tokens }

def World.policies (world : World) : InsurancePolicy.World :=
  { policy := world.policy, tokens := world.tokens }

section System

variable {addresses : Addresses}

/-- What each address answers as a policy registry at the time of a call. -/
def Call.registries (call : Call addresses) (world : World) : Address → PolicyRegistry :=
  Function.update call.others addresses.policy
    (InsurancePolicy.view world.policy call.msg.timestamp)

theorem registries_policy (call : Call addresses) (world : World) :
    call.registries world addresses.policy =
      InsurancePolicy.view world.policy call.msg.timestamp :=
  Function.update_self _ _ _

def Call.onRegistry (call : Call addresses) (world : World) (target : ClaimRegistry.Target) :
    ClaimRegistry.Call where
  msg := call.msg
  registries := call.registries world
  target := target

def exec (addresses : Addresses) (world : World) (call : Call addresses) :
    Except Error (World × Receipt Event) :=
  match call.target with
  | .policy fn => do
      let (next, receipt) ←
        (InsurancePolicy.callFn addresses.policy call.msg world.policies fn).mapError .policy
      return ({ world with policy := next.policy, tokens := next.tokens },
        { events := receipt.events.map .policy, movements := receipt.movements })
  | .registry fn => do
      let (next, receipt) ←
        (ClaimRegistry.exec addresses.registry world.claims
          (call.onRegistry world (.registry fn))).mapError .registry
      return ({ world with registry := next.registry, tokens := next.tokens },
        { events := receipt.events.map .registry, movements := receipt.movements })
  | .token token act => do
      let (tokens, movements) ← (world.tokens.act token call.msg.sender act).mapError .token
      return ({ world with tokens := tokens }, { events := [], movements := movements })

abbrev Commit (addresses : Addresses) :=
  Transactions.Commit World (Call addresses) (Receipt Event)

/-- The registry's own view of a commit.  Calls that bypass the registry are
not part of its history. -/
def registryCommit (commit : Commit addresses) : List ClaimRegistry.Commit :=
  match commit.call.target with
  | .registry fn =>
      [{ before := commit.before.claims
         call := commit.call.onRegistry commit.before (.registry fn)
         output :=
          { events := commit.output.events.filterMap fun
              | .registry event => some event
              | .policy _ => none
            movements := commit.output.movements }
         after := commit.after.claims }]
  | _ => []

def registryHistory (commits : List (Commit addresses)) : List ClaimRegistry.Commit :=
  commits.flatMap registryCommit

theorem registryHistory_snoc (past : List (Commit addresses)) (commit : Commit addresses) :
    registryHistory (past ++ [commit]) = registryHistory past ++ registryCommit commit := by
  simp only [registryHistory, List.flatMap_append, List.flatMap_cons, List.flatMap_nil,
    List.append_nil]

/-- Every committed transaction is one of the registry's own, or it bypasses the
registry and takes nothing from it. -/
theorem exec_cases {world next : World} {call : Call addresses} {receipt : Receipt Event}
    (unapproved : world.tokens.Unapproved addresses.registry)
    (done : exec addresses world call = .ok (next, receipt)) :
    (∃ fn own,
      call.target = .registry fn ∧ next.policy = world.policy ∧
      ClaimRegistry.exec addresses.registry world.claims (call.onRegistry world (.registry fn)) =
        .ok (next.claims, own) ∧
      receipt.movements = own.movements ∧ receipt.events = own.events.map .registry ∧
      registryCommit ⟨world, call, receipt, next⟩ =
        [⟨world.claims, call.onRegistry world (.registry fn), own, next.claims⟩]) ∨
    (registryCommit ⟨world, call, receipt, next⟩ = [] ∧
      (∀ fn, call.target ≠ .registry fn) ∧
      next.registry = world.registry ∧
      Untouched addresses.registry world.tokens next.tokens receipt.movements) := by
  unfold exec at done
  cases target : call.target with
  | registry fn =>
      rw [target] at done
      obtain ⟨⟨after, own⟩, committed, same⟩ := bind_eq_ok.mp done
      cases same
      refine Or.inl ⟨fn, own, rfl, rfl, mapError_eq_ok.mp committed, rfl, rfl, ?_⟩
      simp only [registryCommit, target, List.filterMap_map]
      congr
      exact List.filterMap_some
  | policy fn =>
      rw [target] at done
      obtain ⟨⟨after, own⟩, committed, same⟩ := bind_eq_ok.mp done
      cases same
      have calls := InsurancePolicy.callFn_tokens (mapError_eq_ok.mp committed)
      refine Or.inr ⟨?_, fun _ => nofun, rfl, ?_⟩
      · simp only [registryCommit, target]
      · rcases calls with ⟨tokens, movements⟩ | ⟨token, treasury, amount, moved⟩
        · simp only [tokens, movements]
          exact Untouched.of_unchanged unapproved
        · exact act_untouched unapproved addresses.distinct moved
  | token token act =>
      rw [target] at done
      obtain ⟨⟨tokens, movements⟩, acted, same⟩ := bind_eq_ok.mp done
      cases same
      refine Or.inr ⟨?_, fun _ => nofun, rfl, ?_⟩
      · simp only [registryCommit, target]
      · exact act_untouched unapproved call.outside (mapError_eq_ok.mp acted)

theorem unapproved_step {world next : World} {call : Call addresses} {receipt : Receipt Event}
    (unapproved : world.tokens.Unapproved addresses.registry)
    (done : exec addresses world call = .ok (next, receipt)) :
    next.tokens.Unapproved addresses.registry := by
  rcases exec_cases unapproved done with ⟨fn, own, _, _, committed, _⟩ | ⟨_, _, _, untouched⟩
  · intro token spender
    have kept := ClaimRegistry.callFn_allowances committed token
    change (next.tokens token).allowances = (world.tokens token).allowances at kept
    rw [kept]
    exact unapproved token spender
  · exact untouched.unapproved

def Call.writes (call : Call addresses) : Option (Nat × ClaimRegistry.ClaimStatus) :=
  match call.target with
  | .registry fn => fn.writes
  | _ => none

end System

/-! ### Runs -/

/-- A freshly initialised registry that points at the policy contract.  The
policy contract may already hold policies; the registry's address is new, so it
has approved nobody. -/
structure Deployment where
  addresses : Addresses
  policy : InsurancePolicy.State
  args : ClaimRegistry.InitArgs
  pointed : args.policyRegistryAddress = addresses.policy
  timestamp : Nat
  tokens : Bank Address
  unapproved : tokens.Unapproved addresses.registry

def Deployment.start (deployment : Deployment) : World :=
  { policy := deployment.policy
    registry := ClaimRegistry.initialized deployment.args deployment.timestamp
    tokens := deployment.tokens }

def Deployment.run (deployment : Deployment) (calls : List (Call deployment.addresses)) : World :=
  Transactions.run (exec deployment.addresses) deployment.start calls

def Deployment.history (deployment : Deployment) (calls : List (Call deployment.addresses)) :
    List (Commit deployment.addresses) :=
  Transactions.history (exec deployment.addresses) deployment.start calls

/-! ### A small deployment to evaluate runs on -/

def sampleAddresses : Addresses where
  policy := 0x90
  registry := 0xC1
  distinct := by decide

/-- Both contracts are administered by `0xAD`; the registry holds `1000` of
every token. -/
def sampleDeployment : Deployment where
  addresses := sampleAddresses
  policy := InsurancePolicy.initialized 0xAD
  args := ClaimRegistry.sampleDeployment.args
  pointed := rfl
  timestamp := 0
  tokens := ClaimRegistry.sampleDeployment.tokens
  unapproved _ _ := rfl

def sampleCall (sender : Address) (outside : sender ≠ 0xC1) (target : Target) :
    Call sampleAddresses where
  msg := { sender := sender, timestamp := 10 }
  others _ := ClaimRegistry.samplePolicies
  target := target
  outside := outside

def adminCall := sampleCall 0xAD (by decide)

def managerCall := sampleCall 0xE1 (by decide)

def holderCall := sampleCall 0xA1 (by decide)

def underwriterCall := sampleCall 0xD1 (by decide)

/-- `0xE1` registers policy `7` of `0xA1` with a coverage of `900`, and `0xD1`
becomes underwriter. -/
def sampleSetupCalls : List (Call sampleAddresses) :=
  [adminCall (.policy (.changeRole (.grantRole .policyManager 0xE1))),
   managerCall (.policy (.registerPolicy 7 0xA1 0 1000 900 0)),
   adminCall (.registry (.changeRole (.grantRole .underwriter 0xD1)))]

end Dics.Insurance
