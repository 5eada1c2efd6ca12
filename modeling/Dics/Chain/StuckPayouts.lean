/-
Payouts that got stuck, and their release.

`releaseStuckPayout` is meant for claims whose payout failed in the transfer.
A failed attempt is rolled back and leaves nothing behind, so the guard can only
ask whether the claim is still approved.  Which releases of a run follow a
failed attempt is decided here from the calls and the states they met.
-/

import Dics.Chain.RegistryRuns

open Transactions Tokens Words

namespace Dics.ClaimRegistry

/-! ### Attempts and releases by their outcome -/

/-- A payout of the claim, tried while it was approved, that reverted in the
token transfer. -/
def FailedInTransfer (self : Address) (claimId : Nat) (attempt : World × Call) : Prop :=
  attempt.2.target = .registry (.payoutClaim claimId) ∧
    (attempt.1.registry.claims claimId).status = .approved ∧
    ∃ error, exec self attempt.1 attempt.2 = .error (.token error)

/-- Every committed release of a run follows a failed payout of its claim. -/
def ReleasesFollowFailures (deployment : Deployment) (calls : List Call) : Prop :=
  ∀ earlier release later claimId next receipt, calls = earlier ++ release :: later →
    release.target = .registry (.releaseStuckPayout claimId) →
    exec deployment.self (deployment.run earlier) release = .ok (next, receipt) →
    ∃ attempt ∈ attempts (exec deployment.self) deployment.start earlier,
      FailedInTransfer deployment.self claimId attempt

/-! ### The same by what the calls met -/

def FitsWindow (amount : Nat) (msg : Msg) (state : State) : Prop :=
  state.windowStart + state.rateLimitWindowSeconds < wordBound ∧
    (openWindow (state.windowStart + state.rateLimitWindowSeconds) msg state).windowTotalPaid +
      amount < wordBound ∧
    (openWindow (state.windowStart + state.rateLimitWindowSeconds) msg state).windowTotalPaid +
      amount ≤ state.maxPayoutPerWindow

instance (amount : Nat) (msg : Msg) (state : State) : Decidable (FitsWindow amount msg state) :=
  inferInstanceAs (Decidable (_ ∧ _))

def Funded (self : Address) (claimId : Nat) (world : World) : Prop :=
  (world.registry.claims claimId).amount.toNat ≤
    (world.tokens world.registry.payoutToken).balances self

instance (self : Address) (claimId : Nat) (world : World) :
    Decidable (Funded self claimId world) :=
  inferInstanceAs (Decidable (_ ≤ _))

/-- An underwriter's payout call on an approved claim that nothing but the
registry's balance stands against. -/
structure Stuck (here : Address) (claimId : Nat) (attempt : World × Call) : Prop where
  target : attempt.2.target = .registry (.payoutClaim claimId)
  unpaused : attempt.1.registry.paused = false
  underwriter : attempt.1.registry.roles .underwriter attempt.2.msg.sender = true
  found : (attempt.1.registry.claims claimId).claimant ≠ 0
  approved : (attempt.1.registry.claims claimId).status = .approved
  fitsWindow : FitsWindow (attempt.1.registry.claims claimId).amount.toNat attempt.2.msg
    attempt.1.registry
  unfunded : ¬Funded here claimId attempt.1

structure Releasable (here : Address) (claimId : Nat) (world : World) (release : Call) :
    Prop where
  target : release.target = .registry (.releaseStuckPayout claimId)
  admin : world.registry.roles .admin release.msg.sender = true
  found : (world.registry.claims claimId).claimant ≠ 0
  approved : (world.registry.claims claimId).status = .approved
  funded : Funded here claimId world

section Calls

variable {self : Address} {claimId : Nat} {world : World} {call : Call}

theorem payClaimant_markPaid (msg : Msg) (state : State) (tokens : Bank Address) :
    payClaimant self claimId (markPaid claimId msg state) tokens =
      payClaimant self claimId state tokens := by
  simp only [payClaimant, markPaid, Function.update_self]

theorem payClaimant_funded (deployed : self ≠ 0)
    (found : (world.registry.claims claimId).claimant ≠ 0) (funded : Funded self claimId world) :
    ∃ tokens movements,
      payClaimant self claimId world.registry world.tokens = .ok (tokens, movements) := by
  have sent := act_transfer_of_covered world.tokens deployed found funded
  exact ⟨_, _, mapError_eq_ok.mpr sent⟩

theorem payClaimant_unfunded (unfunded : ¬Funded self claimId world) :
    ∃ error, payClaimant self claimId world.registry world.tokens = .error (.token error) := by
  unfold payClaimant
  cases acted : world.tokens.act world.registry.payoutToken self
      (.transfer (world.registry.claims claimId).claimant
        (world.registry.claims claimId).amount.toNat) with
  | error error => exact ⟨error, rfl⟩
  | ok paid => exact absurd (act_transfer_eq_ok acted).1 unfunded

theorem enforceRateLimit_eq_ok {amount : Nat} {msg : Msg} {state : State} :
    (∃ limited, enforceRateLimit amount msg state = .ok limited) ↔
      FitsWindow amount msg state := by
  simp only [enforceRateLimit, orRevert_bind_eq_ok, require_bind_eq_ok, pure_eq_ok,
    checkedAdd_eq_some, FitsWindow]
  constructor
  · rintro ⟨_, _, ⟨windowEnd, rfl⟩, _, ⟨total, rfl⟩, fits, _⟩
    exact ⟨windowEnd, total, fits⟩
  · rintro ⟨windowEnd, total, fits⟩
    exact ⟨_, _, ⟨windowEnd, rfl⟩, _, ⟨total, rfl⟩, fits, rfl⟩

theorem enforceRateLimit_ne_token {amount : Nat} {msg : Msg} {state : State}
    {error : TokenError} : enforceRateLimit amount msg state ≠ .error (.token error) := by
  intro failed
  simp only [enforceRateLimit, orRevert_bind_eq_error, require_bind_eq_error, ne_eq,
    reduceCtorEq, not_false_eq_true] at failed
  obtain ⟨_, _, _, _, _, impossible⟩ := failed
  cases impossible

theorem payoutClaim_eq_token_error {msg : Msg} {state : State} {tokens : Bank Address}
    {error : TokenError} :
    payoutClaim self claimId msg state tokens = .error (.token error) ↔
      state.paused = false ∧ state.roles .underwriter msg.sender = true ∧
        (state.claims claimId).claimant ≠ 0 ∧ (state.claims claimId).status = .approved ∧
        FitsWindow (state.claims claimId).amount.toNat msg state ∧
        payClaimant self claimId state tokens = .error (.token error) := by
  simp only [payoutClaim, whenNotPaused, onlyRole, require_bind_eq_error, ne_eq, reduceCtorEq,
    not_false_eq_true]
  rw [bind_eq_error]
  constructor
  · rintro ⟨unpaused, underwriter, found, approved, limiter | ⟨limited, passed, failed⟩⟩
    · exact absurd limiter enforceRateLimit_ne_token
    · have admitted := enforceRateLimit_eq_ok.mp ⟨limited, passed⟩
      refine ⟨unpaused, underwriter, found, approved, admitted, ?_⟩
      obtain ⟨windowStart, windowTotalPaid, rfl⟩ := enforceRateLimit_ok passed
      rcases bind_eq_error.mp failed with transfer | ⟨paid, _, impossible⟩
      · rw [payClaimant_markPaid] at transfer
        exact transfer
      · cases impossible
  · rintro ⟨unpaused, underwriter, found, approved, fits, transfer⟩
    obtain ⟨limited, passed⟩ := enforceRateLimit_eq_ok.mpr fits
    refine ⟨unpaused, underwriter, found, approved, Or.inr ⟨limited, passed, ?_⟩⟩
    obtain ⟨windowStart, windowTotalPaid, rfl⟩ := enforceRateLimit_ok passed
    apply bind_eq_error.mpr
    left
    rw [payClaimant_markPaid]
    exact transfer

/-- A payout reverts in the transfer exactly when only the balance is missing. -/
theorem failedInTransfer_iff_stuck (deployed : self ≠ 0) :
    FailedInTransfer self claimId (world, call) ↔ Stuck self claimId (world, call) := by
  constructor
  · rintro ⟨target, approved, error, failed⟩
    change call.target = _ at target
    change exec self world call = _ at failed
    rw [exec, target] at failed
    rcases bind_eq_error.mp failed with payout | ⟨paid, _, impossible⟩
    · obtain ⟨unpaused, underwriter, found, _, fits, transfer⟩ :=
        payoutClaim_eq_token_error.mp payout
      refine ⟨target, unpaused, underwriter, found, approved, fits, ?_⟩
      intro funded
      obtain ⟨tokens, movements, done⟩ := payClaimant_funded deployed found funded
      rw [done] at transfer
      cases transfer
    · cases impossible
  · intro stuck
    obtain ⟨error, transfer⟩ := payClaimant_unfunded stuck.unfunded
    refine ⟨stuck.target, stuck.approved, error, ?_⟩
    have target : call.target = _ := stuck.target
    change exec self world call = _
    rw [exec, target]
    apply bind_eq_error.mpr
    left
    exact payoutClaim_eq_token_error.mpr ⟨stuck.unpaused, stuck.underwriter, stuck.found,
      stuck.approved, stuck.fitsWindow, transfer⟩

/-- A release commits exactly when its caller is an admin, the claim is approved
and the registry can pay it.  Nothing of the past is asked. -/
theorem release_commits_iff (deployed : self ≠ 0) :
    (call.target = .registry (.releaseStuckPayout claimId) ∧
        ∃ next receipt, exec self world call = .ok (next, receipt)) ↔
      Releasable self claimId world call := by
  constructor
  · rintro ⟨target, next, receipt, done⟩
    rw [exec, target] at done
    obtain ⟨⟨⟨state, tokens⟩, paid⟩, released, _⟩ := bind_eq_ok.mp done
    simp only [releaseStuckPayout, onlyRole, require_bind_eq_ok] at released
    obtain ⟨admin, found, approved, transferring⟩ := released
    obtain ⟨⟨_, _⟩, transferred, _⟩ := bind_eq_ok.mp transferring
    rw [payClaimant_markPaid] at transferred
    exact ⟨target, admin, found, approved, (act_transfer_eq_ok (mapError_eq_ok.mp transferred)).1⟩
  · intro releasable
    refine ⟨releasable.target, ?_⟩
    obtain ⟨tokens, movements, paid⟩ :=
      payClaimant_funded deployed releasable.found releasable.funded
    rw [← payClaimant_markPaid call.msg] at paid
    rw [exec, releasable.target]
    have released : ∃ result, releaseStuckPayout self claimId call.msg world.registry
        world.tokens = .ok result := by
      simp only [releaseStuckPayout, onlyRole, require_bind_eq_ok]
      exact ⟨_, releasable.admin, releasable.found, releasable.approved,
        bind_eq_ok.mpr ⟨_, paid, rfl⟩⟩
    obtain ⟨result, done⟩ := released
    exact ⟨_, _, bind_eq_ok.mpr ⟨result, done, rfl⟩⟩

end Calls

/-- The releases of a run all follow failed payouts exactly when every release
that an admin makes of an approved, payable claim was preceded by an
underwriter's payout call on that claim which only the balance stood against. -/
theorem releases_follow_failures_iff (deployment : Deployment) (deployed : deployment.self ≠ 0)
    (calls : List Call) :
    ReleasesFollowFailures deployment calls ↔
      ∀ earlier release later claimId, calls = earlier ++ release :: later →
        Releasable deployment.self claimId (deployment.run earlier) release →
        ∃ attempt ∈ attempts (exec deployment.self) deployment.start earlier,
          Stuck deployment.self claimId attempt := by
  constructor
  · intro follow earlier release later claimId cut releasable
    obtain ⟨target, next, receipt, done⟩ := (release_commits_iff deployed).mpr releasable
    obtain ⟨attempt, member, failed⟩ :=
      follow earlier release later claimId next receipt cut target done
    exact ⟨attempt, member, (failedInTransfer_iff_stuck deployed).mp failed⟩
  · intro follow earlier release later claimId next receipt cut target done
    have releasable := (release_commits_iff deployed).mp ⟨target, next, receipt, done⟩
    obtain ⟨attempt, member, stuck⟩ := follow earlier release later claimId cut releasable
    exact ⟨attempt, member, (failedInTransfer_iff_stuck deployed).mpr stuck⟩

def approvedCalls : List Call :=
  [sampleCall 0xAD (.changeRole (.grantRole .underwriter 0xD1)),
   sampleCall 0xA1 (.submitClaim 7 0 500),
   sampleCall 0xD1 (.setClaimStatus 1 .approved)]

def release : Call := sampleCall 0xAD (.releaseStuckPayout 1)

/-- The admin releases the approved claim although nobody has tried to pay it. -/
theorem approved_claim_released_without_failure :
    ¬ReleasesFollowFailures sampleDeployment (approvedCalls ++ [release]) := by
  intro follow
  obtain ⟨attempt, member, target, _⟩ := follow approvedCalls release [] 1 _ _ rfl rfl rfl
  have untried : ∀ attempt ∈ attempts (exec sampleDeployment.self) sampleDeployment.start
      approvedCalls, attempt.2.target ≠ .registry (.payoutClaim 1) := by decide
  exact untried attempt member target

/-- As `sampleDeployment`, but the registry holds `100` and `0xBB` the rest. -/
def poorDeployment : Deployment :=
  { sampleDeployment with
    tokens := fun _ =>
      { balances := fun account => if account = 0xC1 then 100 else if account = 0xBB then 900 else 0
        allowances := fun _ _ => 0
        totalSupply := 1000 } }

def refundedCalls : List Call :=
  approvedCalls ++
    [sampleCall 0xD1 (.payoutClaim 1),
     { msg := { sender := 0xBB, timestamp := 10 }
       registries := fun _ => samplePolicies
       target := .token 0x70 (.transfer 0xC1 400) }]

theorem releases_follow_failures_iff_refunded :
    (∃ next receipt, exec 0xC1 (poorDeployment.run refundedCalls) release = .ok (next, receipt)) ∧
      ReleasesFollowFailures poorDeployment (refundedCalls ++ [release]) := by
  refine ⟨⟨_, _, rfl⟩, (releases_follow_failures_iff poorDeployment (by decide) _).mpr ?_⟩
  intro earlier released later claimId cut releasable
  rcases List.eq_nil_or_concat later with rfl | ⟨front, last, rfl⟩
  · obtain ⟨sameCalls, sameRelease⟩ := List.append_inj' cut rfl
    have named : release = released := List.head_eq_of_cons_eq sameRelease
    subst sameCalls named
    have target := releasable.target
    cases target
    refine ⟨(poorDeployment.run approvedCalls, sampleCall 0xD1 (.payoutClaim 1)), ?_, ?_⟩
    · exact List.Mem.tail _ (List.Mem.tail _ (List.Mem.tail _ (List.Mem.head _)))
    · exact ⟨rfl, by decide, by decide, by decide, by decide, by decide, by decide⟩
  · rw [List.concat_eq_append, ← List.cons_append, ← List.append_assoc] at cut
    obtain ⟨sameCalls, _⟩ := List.append_inj' cut rfl
    have member : released ∈ refundedCalls := by
      rw [sameCalls]
      exact List.mem_append_right _ List.mem_cons_self
    have others : ∀ call ∈ refundedCalls,
        call.pays = none ∨ call.target = .registry (.payoutClaim 1) := by decide
    rcases others released member with paysNothing | paysOnce
    · rw [Call.pays, releasable.target] at paysNothing
      cases paysNothing
    · rw [releasable.target] at paysOnce
      cases paysOnce

end Dics.ClaimRegistry
