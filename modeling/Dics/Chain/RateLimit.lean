/-
The payout rate limit over whole runs.

`_enforceRateLimit` restarts its window lazily, in the first payout after the
window's end, and `releaseStuckPayout` goes around it.  The payouts of a run
are read off its history as payments of a lazily restarted window, which then
bounds them window by window and over every interval of the window's width.
-/

import Dics.Chain.RegistryRuns
import Dics.Lib.RateWindow

open Transactions Tokens Words RateWindow

namespace Dics.ClaimRegistry

/-- The branch of `_enforceRateLimit` that restarts the window. -/
def WindowEnded (state : State) (msg : Msg) : Prop :=
  state.windowStart + state.rateLimitWindowSeconds ≤ msg.timestamp

instance (state : State) (msg : Msg) : Decidable (WindowEnded state msg) :=
  inferInstanceAs (Decidable (_ ≤ _))

/-- What a committed call moved, as a payment of the limiter's window. -/
def Commit.payment (commit : Commit) : Payment :=
  { time := commit.call.msg.timestamp
    amount := (commit.output.movements.map Movement.amount).sum
    opens := decide (WindowEnded commit.before.registry commit.call.msg) }

/-- Only `payoutClaim` goes through the limiter. -/
def limitedPayout (commit : Commit) : Option Payment :=
  match commit.call.target with
  | .registry (.payoutClaim _) => some (Commit.payment commit)
  | _ => none

def limitedPayouts (commits : List Commit) : List Payment := commits.filterMap limitedPayout

structure SameWindow (before after : State) : Prop where
  windowStart : after.windowStart = before.windowStart
  windowTotalPaid : after.windowTotalPaid = before.windowTotalPaid

/-- How `_enforceRateLimit` lets an amount pass. -/
inductive Admitted (msg : Msg) (amount : Nat) (before after : State) : Prop where
  | reopened (ended : WindowEnded before msg) (windowStart : after.windowStart = msg.timestamp)
      (windowTotalPaid : after.windowTotalPaid = amount)
      (fits : amount ≤ before.maxPayoutPerWindow)
  | added (running : ¬WindowEnded before msg)
      (windowStart : after.windowStart = before.windowStart)
      (windowTotalPaid : after.windowTotalPaid = before.windowTotalPaid + amount)
      (fits : before.windowTotalPaid + amount ≤ before.maxPayoutPerWindow)

theorem enforceRateLimit_admits {amount : Nat} {msg : Msg} {state limited : State}
    (done : enforceRateLimit amount msg state = .ok limited) :
    Admitted msg amount state limited := by
  simp only [enforceRateLimit, orRevert_bind_eq_ok, require_bind_eq_ok, pure_eq_ok,
    checkedAdd_eq_some] at done
  obtain ⟨_, ⟨_, rfl⟩, _, ⟨_, rfl⟩, fits, rfl⟩ := done
  unfold openWindow at fits ⊢
  by_cases ended : state.windowStart + state.rateLimitWindowSeconds ≤ msg.timestamp
  · rw [if_pos ended] at fits ⊢
    rw [Nat.zero_add] at fits
    exact .reopened ended rfl (Nat.zero_add _) fits
  · rw [if_neg ended] at fits ⊢
    exact .added ended rfl rfl fits

theorem payoutClaim_admits {self : Address} {registries : Address → PolicyRegistry} {msg : Msg}
    {world next : World} {receipt : Receipt Event} {claimId : Nat}
    (done : callFn self registries msg world (.payoutClaim claimId) = .ok (next, receipt)) :
    Admitted msg (receipt.movements.map Movement.amount).sum world.registry next.registry := by
  have paidAmount : (receipt.movements.map Movement.amount).sum =
      (world.registry.claims claimId).amount.toNat := by
    rw [(payoutClaim_ok done).1.movements]
    exact Nat.add_zero _
  rw [paidAmount]
  obtain ⟨⟨⟨state, tokens⟩, paid⟩, payout, same⟩ := bind_eq_ok.mp done
  cases same
  simp only [payoutClaim, whenNotPaused, onlyRole, require_bind_eq_ok] at payout
  obtain ⟨_, _, _, _, limiting⟩ := payout
  obtain ⟨limited, limit, transferring⟩ := bind_eq_ok.mp limiting
  obtain ⟨⟨_, _⟩, _, same⟩ := bind_eq_ok.mp transferring
  cases same
  cases enforceRateLimit_admits limit with
  | reopened ended windowStart windowTotalPaid fits =>
      exact .reopened ended windowStart windowTotalPaid fits
  | added running windowStart windowTotalPaid fits =>
      exact .added running windowStart windowTotalPaid fits

theorem callFn_sameWindow {self : Address} {registries : Address → PolicyRegistry} {msg : Msg}
    {world next : World} {receipt : Receipt Event} {fn : Fn}
    (done : callFn self registries msg world fn = .ok (next, receipt))
    (other : ∀ claimId, fn ≠ .payoutClaim claimId) :
    SameWindow world.registry next.registry := by
  cases fn with
  | payoutClaim claimId => exact absurd rfl (other claimId)
  | submitClaim policyId merkleRoot amount =>
      obtain ⟨⟨state, events⟩, submitted, same⟩ := bind_eq_ok.mp done
      cases same
      simp only [submitClaim, whenNotPaused, require_bind_eq_ok, orRevert_bind_eq_ok,
        pure_eq_ok] at submitted
      obtain ⟨_, _, _, _, _, _, _, _, _, _, _, _, _, _, _, _, _, same⟩ := submitted
      cases same
      exact ⟨rfl, rfl⟩
  | setClaimStatus claimId status =>
      simp only [callFn, World.withState, setClaimStatus, whenNotPaused, onlyRole, bind_assoc,
        require_bind_eq_ok, pure_bind, pure_eq_ok] at done
      obtain ⟨_, _, _, same⟩ := done
      cases same
      exact ⟨rfl, rfl⟩
  | recordOracleVerification claimId requestId approved =>
      simp only [callFn, World.withState, recordOracleVerification, whenNotPaused, onlyRole,
        bind_assoc, require_bind_eq_ok, pure_bind, pure_eq_ok] at done
      obtain ⟨_, _, _, _, same⟩ := done
      cases same
      exact ⟨rfl, rfl⟩
  | releaseStuckPayout claimId =>
      simp only [callFn, World.withTokens, releaseStuckPayout, onlyRole, bind_assoc,
        require_bind_eq_ok] at done
      obtain ⟨_, _, _, transferring⟩ := done
      obtain ⟨⟨_, _⟩, _, same⟩ := bind_eq_ok.mp transferring
      cases same
      exact ⟨rfl, rfl⟩
  | pause =>
      simp only [callFn, World.withState, pause, onlyRole, whenNotPaused, bind_assoc,
        require_bind_eq_ok, pure_bind, pure_eq_ok] at done
      obtain ⟨_, _, same⟩ := done
      cases same
      exact ⟨rfl, rfl⟩
  | unpause =>
      simp only [callFn, World.withState, unpause, onlyRole, bind_assoc,
        require_bind_eq_ok, pure_bind, pure_eq_ok] at done
      obtain ⟨_, _, same⟩ := done
      cases same
      exact ⟨rfl, rfl⟩
  | updateRateLimits maxPerClaim maxPerWindow windowSeconds =>
      simp only [callFn, World.withState, updateRateLimits, onlyRole, bind_assoc,
        require_bind_eq_ok, pure_bind, pure_eq_ok] at done
      obtain ⟨_, same⟩ := done
      cases same
      exact ⟨rfl, rfl⟩
  | setPolicyRegistry newPolicyRegistry =>
      simp only [callFn, World.withState, setPolicyRegistry, onlyRole, bind_assoc,
        require_bind_eq_ok, pure_bind, pure_eq_ok] at done
      obtain ⟨_, same⟩ := done
      cases same
      exact ⟨rfl, rfl⟩
  | rescueForeignToken token recipient amount =>
      simp only [callFn, World.withTokens, rescueForeignToken, onlyRole, bind_assoc,
        require_bind_eq_ok] at done
      obtain ⟨_, _, transferring⟩ := done
      obtain ⟨⟨_, _⟩, _, same⟩ := bind_eq_ok.mp transferring
      cases same
      exact ⟨rfl, rfl⟩
  | changeRole change =>
      simp only [callFn, World.withState, changeRole, bind_assoc] at done
      obtain ⟨roles, _, same⟩ := bind_eq_ok.mp done
      cases same
      exact ⟨rfl, rfl⟩

/-- Every committed transaction is a payout the limiter let pass, or leaves the
window alone. -/
theorem exec_window {self : Address} {world next : World} {call : Call}
    {receipt : Receipt Event} (done : exec self world call = .ok (next, receipt)) :
    (limitedPayout ⟨world, call, receipt, next⟩ =
        some (Commit.payment ⟨world, call, receipt, next⟩) ∧
      Admitted call.msg (receipt.movements.map Movement.amount).sum world.registry
        next.registry) ∨
    (limitedPayout ⟨world, call, receipt, next⟩ = none ∧
      SameWindow world.registry next.registry) := by
  unfold exec at done
  unfold limitedPayout
  cases target : call.target with
  | registry fn =>
      rw [target] at done
      by_cases pays : ∃ claimId, fn = .payoutClaim claimId
      · obtain ⟨claimId, rfl⟩ := pays
        exact Or.inl ⟨rfl, payoutClaim_admits done⟩
      · have other : ∀ claimId, fn ≠ .payoutClaim claimId :=
          fun claimId same => pays ⟨claimId, same⟩
        refine Or.inr ⟨?_, callFn_sameWindow done other⟩
        cases fn with
        | payoutClaim claimId => exact absurd rfl (other claimId)
        | _ => rfl
  | token token act =>
      rw [target] at done
      obtain ⟨⟨_, _⟩, _, same⟩ := bind_eq_ok.mp done
      cases same
      exact Or.inr ⟨rfl, rfl, rfl⟩

/-! ### Runs under fixed limits -/

structure SameLimits (commit : Commit) : Prop where
  maxPayoutPerWindow :
    commit.after.registry.maxPayoutPerWindow = commit.before.registry.maxPayoutPerWindow
  rateLimitWindowSeconds :
    commit.after.registry.rateLimitWindowSeconds = commit.before.registry.rateLimitWindowSeconds

instance (commit : Commit) : Decidable (SameLimits commit) :=
  decidable_of_iff
    (commit.after.registry.maxPayoutPerWindow = commit.before.registry.maxPayoutPerWindow ∧
      commit.after.registry.rateLimitWindowSeconds =
        commit.before.registry.rateLimitWindowSeconds)
    ⟨fun ⟨limit, width⟩ => ⟨limit, width⟩,
      fun same => ⟨same.maxPayoutPerWindow, same.rateLimitWindowSeconds⟩⟩

/-- The block times of `initialize` and of the commits after it. -/
def Deployment.times (deployment : Deployment) (commits : List Commit) : List Nat :=
  deployment.timestamp :: commits.map (fun commit => commit.call.msg.timestamp)

theorem Deployment.times_snoc (deployment : Deployment) (past : List Commit) (commit : Commit) :
    deployment.times (past ++ [commit]) = deployment.times past ++ [commit.call.msg.timestamp] := by
  simp only [Deployment.times, List.map_append, List.map_singleton, List.cons_append]

theorem limitedPayouts_snoc (past : List Commit) (commit : Commit) :
    limitedPayouts (past ++ [commit]) =
      limitedPayouts past ++ (limitedPayout commit).toList := by
  rw [limitedPayouts, List.filterMap_append, List.filterMap_cons]
  cases limitedPayout commit with
  | none => rfl
  | some payment => rfl

theorem limitedPayouts_times (deployment : Deployment) (commits : List Commit) :
    ∀ payment ∈ limitedPayouts commits, payment.time ∈ deployment.times commits := by
  intro payment member
  obtain ⟨commit, present, pays⟩ := List.mem_filterMap.mp member
  have sameTime : commit.call.msg.timestamp = payment.time := by
    unfold limitedPayout at pays
    split at pays
    · cases pays
      rfl
    · cases pays
  rw [← sameTime]
  exact List.mem_cons_of_mem _ (List.mem_map_of_mem present)

/-- The registry's window is the one its payouts went through. -/
structure WithinLimits (deployment : Deployment) (world : World) (past : List Commit) :
    Prop where
  limit : world.registry.maxPayoutPerWindow = deployment.args.maxPayoutPerWindow
  width : world.registry.rateLimitWindowSeconds = deployment.args.rateLimitWindowSeconds
  anchored : world.registry.windowStart ∈ deployment.times past
  tracked : ∃ closed, Tracked deployment.args.maxPayoutPerWindow
    deployment.args.rateLimitWindowSeconds world.registry.windowStart
    world.registry.windowTotalPaid (limitedPayouts past) closed

theorem withinLimits_start (deployment : Deployment) :
    WithinLimits deployment deployment.start [] :=
  ⟨rfl, rfl, List.mem_cons_self, [], Tracked.initial _ _ _⟩

private theorem tracked_step {deployment : Deployment} {world next : World}
    {past : List Commit} {call : Call} {receipt : Receipt Event}
    (before : WithinLimits deployment world past)
    (clock : ∀ time ∈ deployment.times past, time ≤ call.msg.timestamp)
    (done : exec deployment.self world call = .ok (next, receipt)) :
    next.registry.windowStart ∈ deployment.times (past ++ [⟨world, call, receipt, next⟩]) ∧
      ∃ closed, Tracked deployment.args.maxPayoutPerWindow
        deployment.args.rateLimitWindowSeconds next.registry.windowStart
        next.registry.windowTotalPaid
        (limitedPayouts (past ++ [⟨world, call, receipt, next⟩])) closed := by
  obtain ⟨closed, tracked⟩ := before.tracked
  rw [deployment.times_snoc, limitedPayouts_snoc]
  rcases exec_window done with ⟨pays, admitted⟩ | ⟨nothing, same⟩
  · rw [pays, Option.toList_some]
    cases admitted with
    | reopened ended windowStart windowTotalPaid fits =>
        rw [windowStart, windowTotalPaid]
        refine ⟨List.mem_append_right _ (List.mem_singleton.mpr rfl), limitedPayouts past, ?_⟩
        apply tracked.payOpening (Commit.payment ⟨world, call, receipt, next⟩)
          (decide_eq_true ended)
        · rw [← before.width]
          exact ended
        · intro payment member
          exact clock _ (limitedPayouts_times deployment past payment member)
        · rw [← before.limit]
          exact fits
    | added running windowStart windowTotalPaid fits =>
        rw [windowStart, windowTotalPaid]
        refine ⟨List.mem_append_left _ before.anchored, closed, ?_⟩
        apply tracked.pay (Commit.payment ⟨world, call, receipt, next⟩)
          (decide_eq_false running)
        · exact clock _ before.anchored
        · rw [← before.limit]
          exact fits
  · rw [nothing, same.windowStart, same.windowTotalPaid]
    refine ⟨List.mem_append_left _ before.anchored, closed, ?_⟩
    rw [Option.toList_none, List.append_nil]
    exact tracked

theorem withinLimits_run (deployment : Deployment) (calls : List Call)
    (limits : ∀ commit ∈ deployment.history calls, SameLimits commit)
    (clock : (deployment.times (deployment.history calls)).Pairwise (· ≤ ·)) :
    WithinLimits deployment (deployment.run calls) (deployment.history calls) := by
  -- The clock is a promise about the whole history, so the induction carries it
  -- as a premise.
  have invariant : (deployment.times (deployment.history calls)).Pairwise (· ≤ ·) →
      WithinLimits deployment (deployment.run calls) (deployment.history calls) := by
    refine @run_induction _ _ _ _ (exec deployment.self)
      (fun world past => (deployment.times past).Pairwise (· ≤ ·) →
        WithinLimits deployment world past)
      SameLimits deployment.start (fun _ => withinLimits_start deployment) ?_ calls limits
    intro world past call next receipt ih done same ordered
    rw [deployment.times_snoc, List.pairwise_append] at ordered
    obtain ⟨earlier, _, last⟩ := ordered
    have before := ih earlier
    have latest : ∀ time ∈ deployment.times past, time ≤ call.msg.timestamp :=
      fun time member => last time member _ (List.mem_singleton.mpr rfl)
    obtain ⟨anchored, tracked⟩ := tracked_step before latest done
    exact ⟨same.maxPayoutPerWindow.trans before.limit,
      same.rateLimitWindowSeconds.trans before.width, anchored, tracked⟩
  exact invariant clock

/-- Under fixed limits and a clock that never runs backwards, the window's total
is the sum of the payouts since its last restart and stays within the limit, a
reverted payout changes nothing, and every half-open interval of the window's
width sees at most twice the limit. -/
theorem payouts_within_limits (deployment : Deployment) (calls : List Call)
    (limits : ∀ commit ∈ deployment.history calls, SameLimits commit)
    (clock : (deployment.times (deployment.history calls)).Pairwise (· ≤ ·)) :
    (deployment.run calls).registry.windowTotalPaid =
        total (sinceOpening (limitedPayouts (deployment.history calls))) ∧
      (deployment.run calls).registry.windowTotalPaid ≤ deployment.args.maxPayoutPerWindow ∧
      (∀ call error, exec deployment.self (deployment.run calls) call = .error error →
        deployment.run (calls ++ [call]) = deployment.run calls ∧
          deployment.history (calls ++ [call]) = deployment.history calls) ∧
      ∀ first, total (within first deployment.args.rateLimitWindowSeconds
        (limitedPayouts (deployment.history calls))) ≤
          2 * deployment.args.maxPayoutPerWindow := by
  obtain ⟨closed, tracked⟩ := (withinLimits_run deployment calls limits clock).tracked
  refine ⟨tracked.exact.symm, tracked.limited, ?_, tracked.intervals⟩
  intro call error failed
  constructor
  · rw [Deployment.run, run_snoc]
    exact settle_of_error failed
  · rw [Deployment.history, history_snoc]
    exact (congrArg _ (committed_of_error failed)).trans (List.append_nil _)

/-- As `sampleCall`, at another time. -/
def sampleCallAt (timestamp : Nat) (sender : Address) (fn : Fn) : Call :=
  { sampleCall sender fn with msg := { sender := sender, timestamp := timestamp } }

/-- Claim `1` is paid at time `60`, claim `2` at time `130` in a new window. -/
def sampleLimitedCalls : List Call :=
  [sampleCallAt 10 0xAD (.changeRole (.grantRole .underwriter 0xD1)),
   sampleCallAt 10 0xA1 (.submitClaim 7 0 500),
   sampleCallAt 20 0xA1 (.submitClaim 7 0 400),
   sampleCallAt 30 0xD1 (.setClaimStatus 1 .approved),
   sampleCallAt 40 0xD1 (.setClaimStatus 2 .approved),
   sampleCallAt 60 0xD1 (.payoutClaim 1),
   sampleCallAt 130 0xD1 (.payoutClaim 2)]

theorem payouts_within_limits_sample :
    (∀ commit ∈ sampleDeployment.history sampleLimitedCalls, SameLimits commit) ∧
      (sampleDeployment.times (sampleDeployment.history sampleLimitedCalls)).Pairwise
        (· ≤ ·) ∧
      limitedPayouts (sampleDeployment.history sampleLimitedCalls) =
        [⟨60, 500, false⟩, ⟨130, 400, true⟩] ∧
      (sampleDeployment.run sampleLimitedCalls).registry.windowTotalPaid =
        total (sinceOpening (limitedPayouts (sampleDeployment.history sampleLimitedCalls))) :=
  ⟨by decide, by decide, by decide,
    (payouts_within_limits sampleDeployment sampleLimitedCalls (by decide) (by decide)).1⟩

end Dics.ClaimRegistry
