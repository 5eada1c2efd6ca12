/-
The registry while it is paused.

Pausing stops submissions, decisions and `payoutClaim`.  An admin can still
release approved claims one by one, and since no decision can be written any
more, none of them twice: what leaves a paused registry is bounded by the claims
that were approved when it was paused.  Calls on the tokens themselves take
nothing from it, since it lets nobody spend for it and sends no calls.
-/

import Dics.Chain.Payouts
import Dics.Chain.RateLimit

open Transactions Tokens Words

namespace Dics.ClaimRegistry

def Call.unpauses (call : Call) : Bool :=
  match call.target with
  | .registry .unpause => true
  | _ => false

/-- The claims that the paying calls were about, in order. -/
def paidIds (commits : List Commit) : List Nat :=
  commits.filterMap fun commit => commit.call.pays

/-- What left an account of one token, empty transfers left out. -/
def outgoing (here token : Address) (movements : List (Movement Address)) :
    List (Movement Address) :=
  movements.filter fun movement =>
    movement.token = token ∧ movement.sender = here ∧ movement.amount ≠ 0

def balanceOf (here token : Address) (world : World) : Nat :=
  (world.tokens token).balances here

/-- What the claims were for, taken together. -/
def amountsOf (state : State) (claimIds : List Nat) : Nat :=
  (claimIds.map fun id => (state.claims id).amount.toNat).sum

/-- An admin released the claim. -/
structure ReleasedByAdmin (commit : Commit) (claimId : Nat) : Prop where
  target : commit.call.target = .registry (.releaseStuckPayout claimId)
  admin : commit.before.registry.roles .admin commit.call.msg.sender = true

structure SameSubmissions (before after : State) : Prop where
  books : SameBooks before after
  usedOracleRequestIds : after.usedOracleRequestIds = before.usedOracleRequestIds
  window : SameWindow before after

/-- What holds since the registry was paused, `stopped` being the world of that
moment. -/
structure Frozen (here : Address) (stopped world : World) (past : List Commit) : Prop where
  paused : world.registry.paused = true
  submissions : SameSubmissions stopped.registry world.registry
  untouched : ∀ id, id ∉ paidIds past → world.registry.claims id = stopped.registry.claims id
  released : ∀ id ∈ paidIds past, (stopped.registry.claims id).status = .approved ∧
    ∃ processedAt, world.registry.claims id =
      { stopped.registry.claims id with status := .paid, processedAt := processedAt }
  once : (paidIds past).Nodup
  byAdmin : ∀ commit ∈ past, ∀ id, commit.call.pays = some id → ReleasedByAdmin commit id
  unapproved : world.tokens.Unapproved here
  transfers : (past.flatMap fun commit =>
      outgoing here stopped.registry.payoutToken commit.output.movements) =
    outgoing here stopped.registry.payoutToken
      ((paidIds past).map (payment here stopped.registry))
  balance : balanceOf here stopped.registry.payoutToken stopped ≤
    balanceOf here stopped.registry.payoutToken world +
      amountsOf stopped.registry (paidIds past)

theorem Frozen.start {here : Address} {world : World} (paused : world.registry.paused = true)
    (unapproved : world.tokens.Unapproved here) : Frozen here world world [] where
  paused := paused
  submissions := ⟨SameBooks.refl _, rfl, ⟨rfl, rfl⟩⟩
  untouched _ _ := rfl
  released _ member := absurd member List.not_mem_nil
  once := List.nodup_nil
  byAdmin _ member := absurd member List.not_mem_nil
  unapproved := unapproved
  transfers := rfl
  balance := Nat.le_refl _

section Calls

variable {self : Address} {registries : Address → PolicyRegistry} {msg : Msg}
  {world next : World} {receipt : Receipt Event} {fn : Fn}

/-- Only releases and administration get through. -/
theorem callFn_whilePaused (paused : world.registry.paused = true)
    (done : callFn self registries msg world fn = .ok (next, receipt)) :
    (∃ claimId, fn = .releaseStuckPayout claimId ∧
      world.registry.roles .admin msg.sender = true) ∨ fn.administrative = true := by
  have stopped : ¬world.registry.paused = false := by
    rw [paused]
    exact Bool.noConfusion
  cases fn with
  | submitClaim policyId merkleRoot amount =>
      obtain ⟨_, _, submitted⟩ := submitClaim_ok done
      exact absurd submitted.unpaused stopped
  | setClaimStatus claimId status =>
      simp only [callFn, World.withState, setClaimStatus, whenNotPaused, bind_assoc,
        require_bind_eq_ok] at done
      exact absurd done.1 stopped
  | recordOracleVerification claimId requestId approved =>
      simp only [callFn, World.withState, recordOracleVerification, whenNotPaused, bind_assoc,
        require_bind_eq_ok] at done
      exact absurd done.1 stopped
  | payoutClaim claimId =>
      simp only [callFn, World.withTokens, payoutClaim, whenNotPaused, bind_assoc,
        require_bind_eq_ok] at done
      exact absurd done.1 stopped
  | releaseStuckPayout claimId =>
      simp only [callFn, World.withTokens, releaseStuckPayout, onlyRole, bind_assoc,
        require_bind_eq_ok] at done
      exact Or.inl ⟨claimId, rfl, done.1⟩
  | _ => exact Or.inr rfl

/-- Nothing but `unpause` ends a pause. -/
theorem callFn_staysPaused (paused : world.registry.paused = true)
    (done : callFn self registries msg world fn = .ok (next, receipt))
    (other : fn ≠ .unpause) : next.registry.paused = true := by
  rcases callFn_whilePaused paused done with ⟨claimId, rfl, _⟩ | administrative
  · simp only [callFn, World.withTokens, releaseStuckPayout, onlyRole, bind_assoc,
      require_bind_eq_ok] at done
    obtain ⟨_, _, _, transferring⟩ := done
    obtain ⟨⟨_, _⟩, _, same⟩ := bind_eq_ok.mp transferring
    cases same
    exact paused
  · cases fn with
    | pause =>
        simp only [callFn, World.withState, pause, onlyRole, whenNotPaused, bind_assoc,
          require_bind_eq_ok, pure_bind, pure_eq_ok] at done
        obtain ⟨_, _, same⟩ := done
        cases same
        rfl
    | unpause => exact absurd rfl other
    | updateRateLimits maxPerClaim maxPerWindow windowSeconds =>
        simp only [callFn, World.withState, updateRateLimits, onlyRole, bind_assoc,
          require_bind_eq_ok, pure_bind, pure_eq_ok] at done
        obtain ⟨_, same⟩ := done
        cases same
        exact paused
    | setPolicyRegistry newPolicyRegistry =>
        simp only [callFn, World.withState, setPolicyRegistry, onlyRole, bind_assoc,
          require_bind_eq_ok, pure_bind, pure_eq_ok] at done
        obtain ⟨_, same⟩ := done
        cases same
        exact paused
    | rescueForeignToken token recipient amount =>
        simp only [callFn, World.withTokens, rescueForeignToken, onlyRole, bind_assoc,
          require_bind_eq_ok] at done
        obtain ⟨_, _, transferring⟩ := done
        obtain ⟨⟨_, _⟩, _, same⟩ := bind_eq_ok.mp transferring
        cases same
        exact paused
    | changeRole change =>
        simp only [callFn, World.withState, changeRole, bind_assoc] at done
        obtain ⟨roles, _, same⟩ := bind_eq_ok.mp done
        cases same
        exact paused
    | _ => cases administrative

end Calls

section Steps

variable {here : Address} {stopped world next : World} {past : List Commit}
  {call : Call} {receipt : Receipt Event}

theorem paidIds_snoc (past : List Commit) (commit : Commit) :
    paidIds (past ++ [commit]) = paidIds past ++ commit.call.pays.toList := by
  unfold paidIds
  rw [List.filterMap_append]
  cases pays : commit.call.pays with
  | none => simp [pays]
  | some claimId => simp [pays]

theorem amountsOf_snoc (state : State) (claimIds : List Nat) (claimId : Nat) :
    amountsOf state (claimIds ++ [claimId]) =
      amountsOf state claimIds + (state.claims claimId).amount.toNat := by
  unfold amountsOf
  rw [List.map_append, List.sum_append]
  rfl

theorem outgoing_append (here token : Address) (first second : List (Movement Address)) :
    outgoing here token (first ++ second) =
      outgoing here token first ++ outgoing here token second :=
  List.filter_append _ _

/-- Nothing leaves with movements that are of other tokens or empty. -/
theorem outgoing_eq_nil {here token : Address} {movements : List (Movement Address)}
    (kept : ∀ movement ∈ movements, movement.token = token → movement.sender = here →
      movement.amount = 0) : outgoing here token movements = [] := by
  refine List.filter_eq_nil_iff.mpr ?_
  intro movement member leaves
  obtain ⟨ofToken, fromHere, some⟩ := of_decide_eq_true leaves
  exact some (kept movement member ofToken fromHere)

theorem SameSubmissions.trans {first second third : State}
    (left : SameSubmissions first second) (books : SameBooks second third)
    (used : third.usedOracleRequestIds = second.usedOracleRequestIds)
    (window : SameWindow second third) : SameSubmissions first third where
  books :=
    { nextClaimId := books.nextClaimId.trans left.books.nextClaimId
      policyClaims := books.policyClaims.trans left.books.policyClaims
      payoutToken := books.payoutToken.trans left.books.payoutToken }
  usedOracleRequestIds := used.trans left.usedOracleRequestIds
  window :=
    { windowStart := window.windowStart.trans left.window.windowStart
      windowTotalPaid := window.windowTotalPaid.trans left.window.windowTotalPaid }

/-- The registry lets nobody spend for it, whatever is called, as long as it
sends no calls itself. -/
theorem unapproved_step (unapproved : world.tokens.Unapproved here)
    (done : exec here world call = .ok (next, receipt)) (outside : call.msg.sender ≠ here) :
    next.tokens.Unapproved here := by
  unfold exec at done
  cases target : call.target with
  | registry fn =>
      rw [target] at done
      intro token spender
      rw [callFn_allowances done token]
      exact unapproved token spender
  | token token act =>
      rw [target] at done
      obtain ⟨⟨tokens, movements⟩, acted, same⟩ := bind_eq_ok.mp done
      cases same
      exact (act_untouched unapproved outside (mapError_eq_ok.mp acted)).unapproved

/-- A call that pays nothing and leaves the claims alone. -/
theorem Frozen.idle (before : Frozen here stopped world past)
    (pays : call.pays = none) (paused : next.registry.paused = true)
    (claims : next.registry.claims = world.registry.claims)
    (submissions : SameSubmissions stopped.registry next.registry)
    (unapproved : next.tokens.Unapproved here)
    (quiet : outgoing here stopped.registry.payoutToken receipt.movements = [])
    (kept : balanceOf here stopped.registry.payoutToken world ≤
      balanceOf here stopped.registry.payoutToken next) :
    Frozen here stopped next (past ++ [⟨world, call, receipt, next⟩]) := by
  have ids : paidIds (past ++ [⟨world, call, receipt, next⟩]) = paidIds past := by
    rw [paidIds_snoc, pays]
    exact List.append_nil _
  refine ⟨paused, submissions, ?_, ?_, ?_, ?_, unapproved, ?_, ?_⟩
  · intro id unpaid
    rw [ids] at unpaid
    rw [claims]
    exact before.untouched id unpaid
  · intro id paid
    rw [ids] at paid
    rw [claims]
    exact before.released id paid
  · rw [ids]
    exact before.once
  · intro commit member id paying
    rcases List.mem_append.mp member with earlier | last
    · exact before.byAdmin commit earlier id paying
    · rw [List.mem_singleton.mp last, pays] at paying
      cases paying
  · rw [ids, List.flatMap_append, before.transfers, List.flatMap_cons, quiet]
    exact List.append_nil _
  · rw [ids]
    exact Nat.le_trans before.balance (Nat.add_le_add_right kept _)

/-- A release is about a claim that was approved at the pause and has not been
released since: a released one has become paid. -/
theorem Frozen.release (before : Frozen here stopped world past) {claimId : Nat}
    (target : call.target = .registry (.releaseStuckPayout claimId))
    (admin : world.registry.roles .admin call.msg.sender = true)
    (paused : next.registry.paused = true) (window : SameWindow world.registry next.registry)
    (unapproved : next.tokens.Unapproved here)
    (paid : PaidOut here world claimId next receipt) :
    Frozen here stopped next (past ++ [⟨world, call, receipt, next⟩]) := by
  have pays : call.pays = some claimId := by
    rw [Call.pays, target]
    rfl
  have ids : paidIds (past ++ [⟨world, call, receipt, next⟩]) = paidIds past ++ [claimId] := by
    rw [paidIds_snoc, pays]
    rfl
  have new : claimId ∉ paidIds past := by
    intro already
    obtain ⟨_, processedAt, claim⟩ := before.released claimId already
    have approved := paid.approved
    rw [claim] at approved
    cases approved
  have unchanged := before.untouched claimId new
  have sameToken := before.submissions.books.payoutToken
  obtain ⟨processedAt, claims⟩ := paid.claims
  refine ⟨paused, before.submissions.trans paid.books paid.usedOracleRequestIds window,
    ?_, ?_, ?_, ?_, unapproved, ?_, ?_⟩
  · intro id unpaid
    rw [ids, List.mem_append, List.mem_singleton, not_or] at unpaid
    rw [claims, Function.update_of_ne unpaid.2]
    exact before.untouched id unpaid.1
  · intro id member
    rw [ids, List.mem_append, List.mem_singleton] at member
    by_cases same : id = claimId
    · subst same
      rw [claims, Function.update_self, unchanged]
      rw [← unchanged]
      exact ⟨paid.approved, processedAt, rfl⟩
    · rw [claims, Function.update_of_ne same]
      exact before.released id (member.resolve_right same)
  · rw [ids, ← List.concat_eq_append]
    exact before.once.concat new
  · intro commit member id paying
    rcases List.mem_append.mp member with earlier | last
    · exact before.byAdmin commit earlier id paying
    · rw [List.mem_singleton.mp last] at paying ⊢
      rw [pays] at paying
      cases paying
      exact ⟨target, admin⟩
  · have stated : payment here world.registry claimId =
        payment here stopped.registry claimId := by
      unfold payment
      rw [unchanged, sameToken]
    rw [ids, List.flatMap_append, before.transfers, List.flatMap_cons, List.flatMap_nil,
      List.append_nil, paid.movements, stated, List.map_append, outgoing_append]
    rfl
  · have left : balanceOf here stopped.registry.payoutToken world ≤
        balanceOf here stopped.registry.payoutToken next +
          (stopped.registry.claims claimId).amount.toNat := by
      unfold balanceOf
      rw [paid.tokens, sameToken, Function.update_self, unchanged]
      exact balances_le_move_add _ _ _ _
    rw [ids, amountsOf_snoc]
    have bounded := before.balance
    omega

theorem frozen_step (before : Frozen here stopped world past)
    (done : exec here world call = .ok (next, receipt)) (other : call.unpauses = false)
    (outside : call.msg.sender ≠ here) :
    Frozen here stopped next (past ++ [⟨world, call, receipt, next⟩]) := by
  have unapproved := unapproved_step before.unapproved done outside
  unfold exec at done
  cases target : call.target with
  | token token act =>
      rw [target] at done
      obtain ⟨⟨tokens, movements⟩, acted, same⟩ := bind_eq_ok.mp done
      cases same
      have taken := act_untouched before.unapproved outside (mapError_eq_ok.mp acted)
      refine before.idle ?_ before.paused rfl before.submissions unapproved ?_ ?_
      · rw [Call.pays, target]
      · apply outgoing_eq_nil
        intro movement member _ fromHere
        exact taken.movements movement member fromHere
      · exact taken.balances _
  | registry fn =>
      rw [target] at done
      have notUnpause : fn ≠ .unpause := by
        intro unpauses
        rw [Call.unpauses, target, unpauses] at other
        cases other
      have paused := callFn_staysPaused before.paused done notUnpause
      rcases callFn_whilePaused before.paused done with ⟨claimId, rfl, admin⟩ | administrative
      · have notPayout : ∀ other, Fn.releaseStuckPayout claimId ≠ .payoutClaim other := by
          intro other same
          cases same
        have window := callFn_sameWindow done notPayout
        exact before.release target admin paused window unapproved (releaseStuckPayout_ok done).1
      · have administered := (administrative_ok done administrative).1
        have limited : ∀ claimId, fn ≠ .payoutClaim claimId := by
          rintro claimId rfl
          cases administrative
        refine before.idle ?_ paused administered.claims
          (before.submissions.trans administered.books administered.usedOracleRequestIds
            (callFn_sameWindow done limited)) unapproved ?_ ?_
        · rw [Call.pays, target]
          cases fn with
          | payoutClaim claimId => cases administrative
          | releaseStuckPayout claimId => cases administrative
          | _ => rfl
        · apply outgoing_eq_nil
          intro movement member ofToken _
          rw [← before.submissions.books.payoutToken] at ofToken
          exact absurd ofToken (administered.movements movement member)
        · unfold balanceOf
          rw [← before.submissions.books.payoutToken, administered.payoutToken]

end Steps

theorem unapproved_run (deployment : Deployment) (calls : List Call)
    (unapproved : deployment.tokens.Unapproved deployment.self)
    (outside : ∀ commit ∈ deployment.history calls,
      commit.call.msg.sender ≠ deployment.self) :
    (deployment.run calls).tokens.Unapproved deployment.self := by
  refine @run_induction _ _ _ _ (exec deployment.self)
    (fun world _ => world.tokens.Unapproved deployment.self)
    (fun commit => commit.call.msg.sender ≠ deployment.self) deployment.start
    unapproved ?_ calls outside
  intro world past call next receipt before done allowed
  exact unapproved_step before done allowed

/-- From the moment the registry is paused until it is unpaused, whatever is
called by whomever, claims change only by being released by an admin, each of
them once and only if it was approved at the pause; these releases are all that
leaves the registry of the payout token. -/
theorem paused_registry_only_releases (deployment : Deployment) (calls later : List Call)
    (unapproved : deployment.tokens.Unapproved deployment.self)
    (outside : ∀ commit ∈ deployment.history calls,
      commit.call.msg.sender ≠ deployment.self)
    (paused : (deployment.run calls).registry.paused = true)
    (stays : ∀ commit ∈ Transactions.history (exec deployment.self) (deployment.run calls) later,
      commit.call.unpauses = false ∧ commit.call.msg.sender ≠ deployment.self) :
    Frozen deployment.self (deployment.run calls)
      (Transactions.run (exec deployment.self) (deployment.run calls) later)
      (Transactions.history (exec deployment.self) (deployment.run calls) later) := by
  refine @run_induction _ _ _ _ (exec deployment.self)
    (Frozen deployment.self (deployment.run calls))
    (fun commit => commit.call.unpauses = false ∧ commit.call.msg.sender ≠ deployment.self)
    (deployment.run calls)
    (Frozen.start paused (unapproved_run deployment calls unapproved outside)) ?_ later stays
  intro world past call next receipt before done allowed
  exact frozen_step before done allowed.1 allowed.2

/-- `0xF1` pauses after claim `1` has been approved; nothing can be decided or paid out
any more, nobody can pull the registry's tokens, and the admin releases the claim once. -/
def samplePausedCalls : List Call :=
  sampleOrderlyCalls.take 3 ++
    [sampleCall 0xAD (.changeRole (.grantRole .pauser 0xF1)), sampleCall 0xF1 .pause]

def sampleTokenCall (sender : Address) (act : Act Address) : Call :=
  { sampleCall sender .pause with target := .token 0x70 act }

def sampleReleaseCalls : List Call :=
  [sampleCall 0xD1 (.payoutClaim 1), sampleTokenCall 0xD1 (.transferFrom 0xC1 0xD1 5),
   sampleTokenCall 0xD1 (.transferFrom 0xC1 0xD1 0), sampleCall 0xAD (.releaseStuckPayout 1),
   sampleCall 0xD1 (.setClaimStatus 1 .approved), sampleCall 0xAD (.releaseStuckPayout 1),
   sampleTokenCall 0xA1 (.transfer 0xC1 100)]

theorem paused_registry_only_releases_sample :
    (sampleDeployment.run samplePausedCalls).registry.paused = true ∧
      paidIds (Transactions.history (exec sampleDeployment.self)
        (sampleDeployment.run samplePausedCalls) sampleReleaseCalls) = [1] ∧
      balanceOf 0xC1 0x70 (Transactions.run (exec sampleDeployment.self)
        (sampleDeployment.run samplePausedCalls) sampleReleaseCalls) = 600 ∧
      Frozen sampleDeployment.self (sampleDeployment.run samplePausedCalls)
        (Transactions.run (exec sampleDeployment.self) (sampleDeployment.run samplePausedCalls)
          sampleReleaseCalls)
        (Transactions.history (exec sampleDeployment.self)
          (sampleDeployment.run samplePausedCalls) sampleReleaseCalls) :=
  ⟨by decide, by decide, by decide,
    paused_registry_only_releases sampleDeployment samplePausedCalls sampleReleaseCalls
      (fun _ _ => rfl) (by decide) (by decide) (by decide)⟩

end Dics.ClaimRegistry
