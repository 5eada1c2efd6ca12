/-
Paying off a backlog of approved claims.

The rate limit may refuse a payout, and an empty registry cannot pay.  Neither
blocks an approved claim for good: whatever run came before, an underwriter
who makes one payout a window gets through any backlog of claims that fit the
window one by one and that the registry can pay together.
-/

import Dics.Chain.RateLimit
import Dics.Chain.StuckPayouts

open Transactions Tokens Words

namespace Dics.ClaimRegistry

/-- One payout a window, from `time` on. -/
def drainCalls (registries : Address → PolicyRegistry) (underwriter : Address) (width : Nat) :
    Nat → List Nat → List Call
  | _, [] => []
  | time, claimId :: rest =>
      { msg := { sender := underwriter, timestamp := time }
        registries := registries
        target := .registry (.payoutClaim claimId) } ::
      drainCalls registries underwriter width (time + width) rest

/-- Approved claims that fit the window one by one and the registry's balance
all together, once the running window is over. -/
structure Backlog (here underwriter : Address) (claimIds : List Nat) (time : Nat)
    (world : World) : Prop where
  unpaused : world.registry.paused = false
  underwriter : world.registry.roles .underwriter underwriter = true
  distinct : claimIds.Nodup
  approved : ∀ claimId ∈ claimIds, (world.registry.claims claimId).status = .approved
  fits : ∀ claimId ∈ claimIds,
    (world.registry.claims claimId).amount.toNat ≤ world.registry.maxPayoutPerWindow
  funded : (claimIds.map fun claimId => (world.registry.claims claimId).amount.toNat).sum ≤
    (world.tokens world.registry.payoutToken).balances here
  ended : world.registry.windowStart + world.registry.rateLimitWindowSeconds ≤ time
  lasts : time + claimIds.length * world.registry.rateLimitWindowSeconds < wordBound

/-! ### Approved claims exist -/

def ApprovedFound (state : State) : Prop :=
  ∀ claimId, (state.claims claimId).status = .approved → (state.claims claimId).claimant ≠ 0

theorem ApprovedFound.of_update {before after : State} (found : ApprovedFound before)
    {claimId : Nat} {claim : Claim}
    (claims : after.claims = Function.update before.claims claimId claim)
    (fine : claim.status = .approved → claim.claimant ≠ 0) : ApprovedFound after := by
  intro id
  rw [claims]
  by_cases same : id = claimId
  · subst same
    rw [Function.update_self]
    exact fine
  · rw [Function.update_of_ne same]
    exact found id

theorem approvedFound_step {self : Address} {world next : World} {call : Call}
    {receipt : Receipt Event} (found : ApprovedFound world.registry)
    (done : exec self world call = .ok (next, receipt)) : ApprovedFound next.registry := by
  rcases exec_cases done with
    ⟨policyId, merkleRoot, amount, policy, consumedSoFar, _, submitted⟩ |
    ⟨claimId, status, _, written⟩ | ⟨claimId, _, paid⟩ | ⟨_, _, claims, _⟩
  · refine found.of_update submitted.claims ?_
    intro impossible
    cases impossible
  · obtain ⟨processedAt, claims⟩ := written.claims
    exact found.of_update claims (fun _ => written.found)
  · obtain ⟨processedAt, claims⟩ := paid.claims
    exact found.of_update claims (fun _ => paid.found)
  · intro claimId
    rw [claims]
    exact found claimId

theorem approvedFound_run (deployment : Deployment) (calls : List Call) :
    ApprovedFound (deployment.run calls).registry := by
  refine @run_induction _ _ _ _ (exec deployment.self)
    (fun world _ => ApprovedFound world.registry) (fun _ => True) deployment.start ?_ ?_ calls
    (fun _ _ => trivial)
  · intro claimId impossible
    cases impossible
  · intro world past call next receipt before done _
    exact approvedFound_step before done

/-! ### One payout after another -/

section Steps

variable {self underwriter : Address} {registries : Address → PolicyRegistry}
  {world next : World} {receipt : Receipt Event} {claimId time : Nat} {claimIds : List Nat}

theorem payoutClaim_frame {msg : Msg}
    (done : callFn self registries msg world (.payoutClaim claimId) = .ok (next, receipt)) :
    next.registry.paused = world.registry.paused ∧
      next.registry.maxPayoutPerWindow = world.registry.maxPayoutPerWindow ∧
      next.registry.rateLimitWindowSeconds = world.registry.rateLimitWindowSeconds := by
  obtain ⟨⟨⟨state, tokens⟩, paid⟩, payout, same⟩ := bind_eq_ok.mp done
  cases same
  simp only [payoutClaim, whenNotPaused, onlyRole, require_bind_eq_ok] at payout
  obtain ⟨_, _, _, _, limiting⟩ := payout
  obtain ⟨limited, limit, transferring⟩ := bind_eq_ok.mp limiting
  obtain ⟨⟨_, _⟩, _, same⟩ := bind_eq_ok.mp transferring
  cases same
  obtain ⟨windowStart, windowTotalPaid, rfl⟩ := enforceRateLimit_ok limit
  exact ⟨rfl, rfl, rfl⟩

/-- The first payout of a backlog goes through. -/
theorem Backlog.payoutClaim_commits (backlog : Backlog self underwriter (claimId :: claimIds)
      time world) (deployed : self ≠ 0) (found : ApprovedFound world.registry) :
    ∃ next receipt, callFn self registries { sender := underwriter, timestamp := time } world
      (.payoutClaim claimId) = .ok (next, receipt) := by
  have approved := backlog.approved claimId List.mem_cons_self
  have exist := found claimId approved
  have funded : Funded self claimId world := by
    have enough := backlog.funded
    rw [List.map_cons, List.sum_cons] at enough
    unfold Funded
    omega
  have fits : FitsWindow (world.registry.claims claimId).amount.toNat
      { sender := underwriter, timestamp := time } world.registry := by
    have small : (world.registry.claims claimId).amount.toNat < wordBound :=
      Nat.lt_trans (world.registry.claims claimId).amount.isLt (by decide)
    have ended := backlog.ended
    have lasts := backlog.lasts
    unfold FitsWindow openWindow
    rw [if_pos ended, Nat.zero_add]
    exact ⟨by omega, small, backlog.fits claimId List.mem_cons_self⟩
  obtain ⟨limited, limit⟩ := enforceRateLimit_eq_ok.mpr fits
  obtain ⟨tokens, movements, sent⟩ := payClaimant_funded deployed exist funded
  have paid : payClaimant self claimId
      (markPaid claimId { sender := underwriter, timestamp := time } limited) world.tokens =
      .ok (tokens, movements) := by
    rw [payClaimant_markPaid]
    obtain ⟨windowStart, windowTotalPaid, rfl⟩ := enforceRateLimit_ok limit
    exact sent
  have payout : ∃ result, payoutClaim self claimId
      { sender := underwriter, timestamp := time } world.registry world.tokens = .ok result := by
    simp only [payoutClaim, whenNotPaused, onlyRole, require_bind_eq_ok]
    exact ⟨_, backlog.unpaused, backlog.underwriter, exist, approved,
      bind_eq_ok.mpr ⟨limited, limit, bind_eq_ok.mpr ⟨(tokens, movements), paid, rfl⟩⟩⟩
  obtain ⟨⟨⟨registry, after⟩, receipt⟩, payout⟩ := payout
  exact ⟨_, receipt, bind_eq_ok.mpr ⟨_, payout, rfl⟩⟩

/-- What is left of a backlog after its first payout is a backlog one window
later. -/
theorem Backlog.rest (backlog : Backlog self underwriter (claimId :: claimIds) time world)
    (done : callFn self registries { sender := underwriter, timestamp := time } world
      (.payoutClaim claimId) = .ok (next, receipt)) :
    Backlog self underwriter claimIds (time + world.registry.rateLimitWindowSeconds) next := by
  obtain ⟨paidOut, _⟩ := payoutClaim_ok done
  obtain ⟨processedAt, claims⟩ := paidOut.claims
  obtain ⟨paused, maxPayoutPerWindow, width⟩ := payoutClaim_frame done
  obtain ⟨absent, distinct⟩ := List.nodup_cons.mp backlog.distinct
  have same : ∀ other ∈ claimIds,
      next.registry.claims other = world.registry.claims other := by
    intro other member
    have apart : other ≠ claimId := by
      rintro rfl
      exact absent member
    rw [claims, Function.update_of_ne apart]
  have reopened : next.registry.windowStart = time := by
    cases payoutClaim_admits done with
    | reopened _ windowStart _ _ => exact windowStart
    | added running _ _ _ => exact absurd backlog.ended running
  have lasts := backlog.lasts
  rw [List.length_cons, Nat.add_mul, Nat.one_mul] at lasts
  refine ⟨paused.trans backlog.unpaused, ?_, distinct, ?_, ?_, ?_, ?_, ?_⟩
  · rw [paidOut.roles]
    exact backlog.underwriter
  · intro other member
    rw [same other member]
    exact backlog.approved other (List.mem_cons_of_mem _ member)
  · intro other member
    rw [same other member, maxPayoutPerWindow]
    exact backlog.fits other (List.mem_cons_of_mem _ member)
  · have enough := backlog.funded
    rw [List.map_cons, List.sum_cons] at enough
    have amounts : (claimIds.map fun other => (next.registry.claims other).amount.toNat) =
        claimIds.map fun other => (world.registry.claims other).amount.toNat := by
      apply List.map_congr_left
      intro other member
      rw [same other member]
    have left := balances_le_move_add (world.tokens world.registry.payoutToken) self
      (world.registry.claims claimId).claimant (world.registry.claims claimId).amount.toNat
    rw [amounts, paidOut.books.payoutToken, paidOut.tokens, Function.update_self]
    omega
  · rw [reopened, width]
  · rw [width]
    omega

end Steps

/-- The payouts of a drained backlog, and what they leave. -/
structure Drained (here : Address) (claimIds : List Nat) (world next : World)
    (commits : List Commit) : Prop where
  movements : commits.map (fun commit => commit.output.movements) =
    claimIds.map fun claimId => [payment here world.registry claimId]
  paid : ∀ claimId ∈ claimIds, (next.registry.claims claimId).status = .paid
  others : ∀ claimId, claimId ∉ claimIds →
    next.registry.claims claimId = world.registry.claims claimId

theorem drained_of_backlog {self underwriter : Address}
    {registries : Address → PolicyRegistry} (deployed : self ≠ 0) {claimIds : List Nat}
    {time : Nat} {world : World} (found : ApprovedFound world.registry)
    (backlog : Backlog self underwriter claimIds time world) :
    Drained self claimIds world
      (Transactions.run (exec self) world (drainCalls registries underwriter
        world.registry.rateLimitWindowSeconds time claimIds))
      (Transactions.history (exec self) world (drainCalls registries underwriter
        world.registry.rateLimitWindowSeconds time claimIds)) := by
  induction claimIds generalizing time world with
  | nil => exact ⟨rfl, fun _ member => absurd member List.not_mem_nil, fun _ _ => rfl⟩
  | cons claimId claimIds ih =>
      obtain ⟨next, receipt, done⟩ :=
        @Backlog.payoutClaim_commits self underwriter registries _ _ _ _ backlog deployed found
      obtain ⟨paidOut, _⟩ := payoutClaim_ok done
      obtain ⟨processedAt, claims⟩ := paidOut.claims
      obtain ⟨_, _, width⟩ := payoutClaim_frame done
      obtain ⟨absent, _⟩ := List.nodup_cons.mp backlog.distinct
      have committed : exec self world
          { msg := { sender := underwriter, timestamp := time }
            registries := registries
            target := .registry (.payoutClaim claimId) } = .ok (next, receipt) := done
      have rest := ih (approvedFound_step found committed) (backlog.rest done)
      rw [width] at rest
      rw [drainCalls, Transactions.history, committed_of_ok committed, settle_of_ok committed,
        Transactions.run, List.foldl_cons, settle_of_ok committed]
      refine ⟨?_, ?_, ?_⟩
      · rw [List.map_append, rest.movements, List.map_singleton, paidOut.movements,
          List.map_cons, List.singleton_append]
        congr 1
        apply List.map_congr_left
        intro other member
        have apart : other ≠ claimId := by
          rintro rfl
          exact absent member
        rw [payment, payment, paidOut.books.payoutToken, claims, Function.update_of_ne apart]
      · intro other member
        rcases List.mem_cons.mp member with rfl | later
        · have kept := rest.others other absent
          rw [claims, Function.update_self] at kept
          exact congrArg Claim.status kept
        · exact rest.paid other later
      · intro other outside
        have kept := rest.others other (fun member => outside (List.mem_cons_of_mem _ member))
        have apart : other ≠ claimId := by
          rintro rfl
          exact outside List.mem_cons_self
        rw [claims, Function.update_of_ne apart] at kept
        exact kept

/-- From every state a run can reach, one payout a window pays off any backlog of
approved claims, each in full and to its own claimant, and touches no other
claim. -/
theorem approved_backlog_drains (deployment : Deployment) (deployed : deployment.self ≠ 0)
    (calls : List Call) (registries : Address → PolicyRegistry) (underwriter : Address)
    (claimIds : List Nat) (time : Nat)
    (backlog : Backlog deployment.self underwriter claimIds time (deployment.run calls)) :
    Drained deployment.self claimIds (deployment.run calls)
      (Transactions.run (exec deployment.self) (deployment.run calls)
        (drainCalls registries underwriter
          (deployment.run calls).registry.rateLimitWindowSeconds time claimIds))
      (Transactions.history (exec deployment.self) (deployment.run calls)
        (drainCalls registries underwriter
          (deployment.run calls).registry.rateLimitWindowSeconds time claimIds)) :=
  drained_of_backlog deployed (approvedFound_run deployment calls) backlog

/-- Two claims on different policies are approved while the window has room for
one of them. -/
def sampleBacklogCalls : List Call :=
  [sampleCall 0xAD (.changeRole (.grantRole .underwriter 0xD1)),
   sampleCall 0xA1 (.submitClaim 7 0 600),
   sampleCall 0xA1 (.submitClaim 8 0 400),
   sampleCall 0xD1 (.setClaimStatus 1 .approved),
   sampleCall 0xD1 (.setClaimStatus 2 .approved),
   sampleCall 0xAD (.updateRateLimits 1000 700 100)]

theorem sample_backlog :
    Backlog sampleDeployment.self 0xD1 [1, 2] 100 (sampleDeployment.run sampleBacklogCalls) where
  unpaused := by decide
  underwriter := by decide
  distinct := by decide
  approved := by decide
  fits := by decide
  funded := by decide
  ended := by decide
  lasts := by decide

theorem approved_backlog_drains_sample :
    (Transactions.history (exec 0xC1) (sampleDeployment.run sampleBacklogCalls)
        (drainCalls (fun _ => samplePolicies) 0xD1 100 100 [1, 2])).length = 2 ∧
      Drained 0xC1 [1, 2] (sampleDeployment.run sampleBacklogCalls)
        (Transactions.run (exec 0xC1) (sampleDeployment.run sampleBacklogCalls)
          (drainCalls (fun _ => samplePolicies) 0xD1 100 100 [1, 2]))
        (Transactions.history (exec 0xC1) (sampleDeployment.run sampleBacklogCalls)
          (drainCalls (fun _ => samplePolicies) 0xD1 100 100 [1, 2])) :=
  ⟨by decide +kernel,
    approved_backlog_drains sampleDeployment (by decide) sampleBacklogCalls
      (fun _ => samplePolicies) 0xD1 [1, 2] 100 sample_backlog⟩

end Dics.ClaimRegistry
