/-
The chain, the indexer and the scheduler.

The scheduler learns of policies from the tables that the indexer keeps, which
lag behind the chain by any number of logs and lack what the indexer lost.
Whoever is warned is nevertheless the holder of an existing policy.
-/

import Dics.Indexer.PolicyMirror
import Dics.Notifications.Warnings

open Transactions Scripts

namespace Dics.Notifications.Pipeline

open Indexer (Log Tables PolicyRow Faults parseLog mirror dispatch insertOnce updateRow)
open InsurancePolicy (World Call Deployment State isPremiumCurrent)

/-! ### Chain, indexer and scheduler -/

/-- The logs of one transaction, numbered from `index` on. -/
def logsOf (transactionHash : Bytes32) (blockNumber : Nat) :
    Nat → List InsurancePolicy.Event → List Log
  | _, [] => []
  | index, event :: rest =>
      { transactionHash := transactionHash
        index := index
        blockNumber := blockNumber
        emitted := .policy event } ::
      logsOf transactionHash blockNumber (index + 1) rest

/-- `ActivePolicies`, its rows in the order of `keys`. -/
def activePolicies (tables : Tables) (keys : List Nat) : List ActivePolicy :=
  keys.filterMap fun id => (tables.policies id).bind fun row =>
    if row.revoked = false then some { policyId := id, holderAddress := row.holderAddress }
    else none

/-- The poll with its query, unless it fails, answered from the tables. -/
def withTables (poll : Poll) (tables : Tables) (keys : List Nat) : Poll :=
  { poll with activePolicies := poll.activePolicies.map fun _ => activePolicies tables keys }

/-- `logs` are the logs of the policy contract from the indexer's deploy block on, and
`passed` is the number of them that lie behind its checkpoint. -/
structure System where
  world : World
  logs : List Log
  passed : Nat
  indexer : Indexer.State
  scheduler : Scheduler

/-- A turn of the indexer dispatches the next chunk of logs; its checkpoint may be
lost although every log was handled. -/
inductive Move where
  | call (call : Call) (transactionHash : Bytes32) (blockNumber firstIndex : Nat)
  | index (count : Nat) (faults : Faults) (stored : Bool)
  | poll (poll : Poll) (keys : List Nat)

def System.chunk (system : System) (count : Nat) : List Log :=
  (system.logs.drop system.passed).take count

def System.scanned (config : Indexer.Config) (system : System) (count : Nat) (faults : Faults) :
    Outcome Indexer.State Unit :=
  forEach (dispatch config faults .insurancePolicy) (system.chunk count) system.indexer

def step (deployment : Deployment) (config : Indexer.Config) (warningWindow : Int)
    (system : System) : Move → System
  | .call call transactionHash blockNumber firstIndex =>
      match InsurancePolicy.exec deployment.self system.world call with
      | .ok (next, receipt) =>
          { system with
            world := next
            logs := system.logs ++
              logsOf transactionHash blockNumber firstIndex receipt.events }
      | .error _ => system
  | .index count faults stored =>
      { system with
        indexer := (system.scanned config count faults).state
        passed :=
          if (system.scanned config count faults).Completed ∧ stored = true then
            system.passed + (system.chunk count).length
          else system.passed }
  | .poll poll keys =>
      { system with
        scheduler :=
          checkOnce warningWindow system.world.policy
            (withTables poll system.indexer.tables keys) system.scheduler }

/-- The deploy block lies behind the `earlier` calls. -/
def start (deployment : Deployment) (earlier : List Call) : System where
  world := deployment.run earlier
  logs := []
  passed := 0
  indexer := Indexer.State.empty
  scheduler := { lastNotified := fun _ => 0, sent := [] }

def run (deployment : Deployment) (config : Indexer.Config) (warningWindow : Int)
    (earlier : List Call) (moves : List Move) : System :=
  moves.foldl (step deployment config warningWindow) (start deployment earlier)

/-! ### What the rows tell -/

structure Tells (row : PolicyRow) (policy : Policy) : Prop where
  holderAddress : row.holderAddress = policy.holder
  revoked : row.revoked = policy.revoked

/-- Holder and revocation, of exactly the existing policies. -/
structure RowsTell (state : State) (rows : Nat → Option PolicyRow) : Prop where
  present : ∀ id, state.policyExists id = true →
    ∃ row, rows id = some row ∧ Tells row (state.policies id)
  absent : ∀ id, state.policyExists id = false → rows id = none

section Rows

variable {before after : State} {rows : Nat → Option PolicyRow}

theorem RowsTell.inserted (tell : RowsTell before rows) {policyId : Nat} {policy : Policy}
    (new : before.policyExists policyId = false)
    (policies : after.policies = Function.update before.policies policyId policy)
    (policyExists : after.policyExists = Function.update before.policyExists policyId true)
    {row : PolicyRow} (tells : Tells row policy) :
    RowsTell after (insertOnce rows policyId row) := by
  refine ⟨?_, ?_⟩
  · intro id known
    rw [policies]
    apply Indexer.agree_insertOnce (tell.absent policyId new) tells
    intro different
    rw [policyExists, Function.update_of_ne different] at known
    exact tell.present id known
  · intro id unknown
    have different : id ≠ policyId := by
      rintro rfl
      rw [policyExists, Function.update_self] at unknown
      cases unknown
    rw [policyExists, Function.update_of_ne different] at unknown
    rw [Indexer.insertOnce_of_ne different]
    exact tell.absent id unknown

theorem RowsTell.updated (tell : RowsTell before rows) {policyId : Nat} {policy : Policy}
    (policies : after.policies = Function.update before.policies policyId policy)
    (policyExists : after.policyExists = before.policyExists) {change : PolicyRow → PolicyRow}
    (tells : ∀ row, Tells row (before.policies policyId) → Tells (change row) policy) :
    RowsTell after (updateRow rows policyId change) := by
  refine ⟨?_, ?_⟩
  · intro id known
    rw [policyExists] at known
    rw [policies]
    exact Indexer.agree_updateRow tells (tell.present id known)
  · intro id unknown
    rw [policyExists] at unknown
    exact Indexer.updateRow_of_absent (tell.absent id unknown)

theorem RowsTell.of_same (tell : RowsTell before rows)
    (policies : ∀ id, (after.policies id).holder = (before.policies id).holder ∧
      (after.policies id).revoked = (before.policies id).revoked)
    (policyExists : after.policyExists = before.policyExists) : RowsTell after rows := by
  refine ⟨?_, ?_⟩
  · intro id known
    rw [policyExists] at known
    obtain ⟨row, stored, tells⟩ := tell.present id known
    exact ⟨row, stored, tells.holderAddress.trans (policies id).1.symm,
      tells.revoked.trans (policies id).2.symm⟩
  · rw [policyExists]
    exact tell.absent

end Rows

theorem logsOf_emitted (transactionHash : Bytes32) (blockNumber index : Nat)
    (events : List InsurancePolicy.Event) :
    (logsOf transactionHash blockNumber index events).map Log.emitted = events.map .policy := by
  induction events generalizing index with
  | nil => rfl
  | cons event rest ih => rw [logsOf, List.map_cons, List.map_cons, ih]

theorem quiet_mirror {logs : List Log} {events : List InsurancePolicy.Event}
    (emitted : logs.map Log.emitted = events.map .policy) (quiet : InsurancePolicy.Quiet events)
    (tables : Tables) : logs.foldl (mirror .insurancePolicy) tables = tables :=
  Indexer.foldl_mirror_undeclared (Indexer.undeclared_of_quiet emitted quiet) tables

/-- The logs of a committed call bring the rows to where the call brought the
contract. -/
theorem rowsTell_step {here : Address} {world next : World} {call : Call}
    {receipt : Receipt InsurancePolicy.Event}
    (done : InsurancePolicy.exec here world call = .ok (next, receipt)) {tables : Tables}
    (tell : RowsTell world.policy tables.policies) {logs : List Log}
    (emitted : logs.map Log.emitted = receipt.events.map .policy) :
    RowsTell next.policy (logs.foldl (mirror .insurancePolicy) tables).policies := by
  rcases InsurancePolicy.exec_effect done with ⟨fn, target, effect⟩ | ⟨_, same, nothing⟩
  · cases effect with
    | issued _ issue source new policies policyExists _ _ rest shown quiet =>
        rw [shown, List.map_cons] at emitted
        obtain ⟨log, others, rfl, first, later⟩ := List.map_eq_cons_iff.mp emitted
        rw [List.foldl_cons, quiet_mirror later quiet, Indexer.mirror_issue first]
        exact tell.inserted new policies policyExists ⟨rfl, rfl⟩
    | revoked policyId found policies policyExists premiums shown =>
        rw [shown] at emitted
        obtain ⟨log, rfl, only⟩ := List.map_eq_singleton_iff.mp emitted
        rw [List.foldl_cons, List.foldl_nil, mirror, only]
        apply tell.updated policies policyExists
        intro row tells
        exact ⟨tells.holderAddress, rfl⟩
    | coverageUpdated policyId newCoverageAmount found policies policyExists premiums quiet =>
        rw [quiet_mirror emitted quiet]
        refine tell.of_same ?_ policyExists
        intro id
        rw [policies]
        by_cases same : id = policyId
        · subst same
          rw [Function.update_self]
          exact ⟨rfl, rfl⟩
        · rw [Function.update_of_ne same]
          exact ⟨rfl, rfl⟩
    | termsSet _ _ _ _ same _ _ quiet =>
        rw [quiet_mirror emitted quiet]
        exact tell.of_same (fun id => same.policies ▸ ⟨rfl, rfl⟩) same.policyExists
    | premiumPaid _ _ same _ _ quiet =>
        rw [quiet_mirror emitted quiet]
        exact tell.of_same (fun id => same.policies ▸ ⟨rfl, rfl⟩) same.policyExists
    | administered _ _ same _ quiet =>
        rw [quiet_mirror emitted quiet]
        exact tell.of_same (fun id => same.policies ▸ ⟨rfl, rfl⟩) same.policyExists
  · rw [nothing] at emitted
    rw [List.map_eq_nil_iff.mp emitted, same]
    exact tell

/-- A row as it may have become later. -/
structure Stays (row later : PolicyRow) : Prop where
  holderAddress : later.holderAddress = row.holderAddress
  revoked : row.revoked = true → later.revoked = true

theorem Stays.refl (row : PolicyRow) : Stays row row := ⟨rfl, fun revoked => revoked⟩

theorem mirror_stays {tables : Tables} {id : Nat} {row : PolicyRow}
    (stored : tables.policies id = some row) (log : Log) :
    ∃ later, (mirror .insurancePolicy tables log).policies id = some later ∧
      Stays row later := by
  unfold mirror
  cases Indexer.parseLog .insurancePolicy log.emitted with
  | none => exact ⟨row, stored, Stays.refl row⟩
  | some event =>
      cases event with
      | policyRegistered policyId holder validFrom validUntil coverageAmount =>
          refine ⟨row, ?_, Stays.refl row⟩
          show insertOnce tables.policies policyId _ id = some row
          by_cases same : id = policyId
          · subst same
            rw [insertOnce, stored]
            exact stored
          · rw [Indexer.insertOnce_of_ne same]
            exact stored
      | policyRevoked policyId =>
          show ∃ later, updateRow tables.policies policyId _ id = some later ∧ _
          rw [updateRow]
          by_cases same : id = policyId
          · subst same
            rw [Function.update_self, stored]
            exact ⟨_, rfl, rfl, fun _ => rfl⟩
          · rw [Function.update_of_ne same]
            exact ⟨row, stored, Stays.refl row⟩
      | claimSubmitted => exact ⟨row, stored, Stays.refl row⟩
      | claimStatusChanged => exact ⟨row, stored, Stays.refl row⟩
      | claimPayout => exact ⟨row, stored, Stays.refl row⟩

/-! ### One poll -/

theorem mem_activePolicies {tables : Tables} {keys : List Nat} {policy : ActivePolicy} :
    policy ∈ activePolicies tables keys ↔ policy.policyId ∈ keys ∧
      ∃ row, tables.policies policy.policyId = some row ∧ row.revoked = false ∧
        policy.holderAddress = row.holderAddress := by
  unfold activePolicies
  rw [List.mem_filterMap]
  constructor
  · rintro ⟨id, listed, found⟩
    obtain ⟨row, stored, chosen⟩ := Option.bind_eq_some_iff.mp found
    rw [Option.ite_none_right_eq_some] at chosen
    obtain ⟨active, same⟩ := chosen
    cases same
    exact ⟨listed, row, stored, active, rfl⟩
  · rintro ⟨listed, row, stored, active, holder⟩
    refine ⟨policy.policyId, listed, Option.bind_eq_some_iff.mpr ⟨row, stored, ?_⟩⟩
    rw [if_pos active, ← holder]

section Polls

variable {warningWindow : Int} {state : State} {poll : Poll}

/-- What a check can have done to the scheduler. -/
theorem checkPolicy_cases (warningWindow : Int) (state : State) (poll : Poll)
    (scheduler : Scheduler) (policy : ActivePolicy) :
    checkPolicy warningWindow state poll scheduler policy = scheduler ∨
      ∃ paidUntil, checkPolicy warningWindow state poll scheduler policy =
        { lastNotified := Function.update scheduler.lastNotified policy.policyId paidUntil
          sent := scheduler.sent ++ [⟨policy.policyId, policy.holderAddress, paidUntil⟩] } := by
  unfold checkPolicy
  split
  · exact Or.inl rfl
  · split
    · split
      · exact Or.inr ⟨_, rfl⟩
      · exact Or.inl rfl
    · exact Or.inl rfl

theorem mem_sent_foldl {policies : List ActivePolicy} {scheduler : Scheduler}
    {warning : PremiumWarning}
    (member : warning ∈ (policies.foldl (checkPolicy warningWindow state poll) scheduler).sent) :
    warning ∈ scheduler.sent ∨
      ⟨warning.policyId, warning.holderAddress⟩ ∈ policies := by
  induction policies generalizing scheduler with
  | nil => exact Or.inl member
  | cons policy rest ih =>
      rw [List.foldl_cons] at member
      rcases ih member with earlier | later
      · rcases checkPolicy_cases warningWindow state poll scheduler policy with same | ⟨_, same⟩
        · rw [same] at earlier
          exact Or.inl earlier
        · rw [same] at earlier
          rcases List.mem_append.mp earlier with old | new
          · exact Or.inl old
          · rw [List.mem_singleton.mp new]
            exact Or.inr List.mem_cons_self
      · exact Or.inr (List.mem_cons_of_mem _ later)

theorem sent_foldl (policies : List ActivePolicy) {scheduler : Scheduler}
    {warning : PremiumWarning} (member : warning ∈ scheduler.sent) :
    warning ∈ (policies.foldl (checkPolicy warningWindow state poll) scheduler).sent := by
  induction policies generalizing scheduler with
  | nil => exact member
  | cons policy rest ih =>
      apply ih
      rcases checkPolicy_cases warningWindow state poll scheduler policy with same | ⟨_, same⟩
      · rw [same]
        exact member
      · rw [same]
        exact List.mem_append_left _ member

/-- The chain says at a poll that the policy has lapsed, nobody was warned about
its date yet, and the webhook takes the warning. -/
structure Due (warningWindow : Int) (state : State) (poll : Poll) (scheduler : Scheduler)
    (policyId : Nat) : Prop where
  answers : poll.answers policyId = true
  lapsed : isPremiumCurrent state poll.blockTimestamp policyId = some false
  opened : int64 (state.premiumPaidUntil policyId) * second - warningWindow < poll.now
  unsent : int64 (state.premiumPaidUntil policyId) ≠ scheduler.lastNotified policyId
  accepts : poll.accepts policyId = true

theorem Due.checkPolicy {scheduler : Scheduler} {policy : ActivePolicy}
    (due : Due warningWindow state poll scheduler policy.policyId) :
    ⟨policy.policyId, policy.holderAddress, int64 (state.premiumPaidUntil policy.policyId)⟩ ∈
      (Notifications.checkPolicy warningWindow state poll scheduler policy).sent := by
  have read : poll.status state policy.policyId =
      some ⟨policy.policyId, false, int64 (state.premiumPaidUntil policy.policyId)⟩ := by
    rw [Poll.status, if_pos due.answers, getPremiumStatus, due.lapsed]
    rfl
  have notify : shouldNotify ⟨policy.policyId, false,
      int64 (state.premiumPaidUntil policy.policyId)⟩ poll.now warningWindow
        (scheduler.lastNotified policy.policyId) = true := by
    refine shouldNotify_iff.mpr ⟨?_, due.unsent⟩
    rintro (current | early)
    · cases current
    · exact early due.opened
  rw [checkPolicy_sent read notify due.accepts]
  exact List.mem_append_right _ List.mem_cons_self

/-- A policy that is due is warned, wherever it stands among the rows. -/
theorem Due.foldl {policies : List ActivePolicy} {scheduler : Scheduler} {policy : ActivePolicy}
    (member : policy ∈ policies)
    (unique : ∀ other ∈ policies, other.policyId = policy.policyId → other = policy)
    (due : Due warningWindow state poll scheduler policy.policyId) :
    ⟨policy.policyId, policy.holderAddress, int64 (state.premiumPaidUntil policy.policyId)⟩ ∈
      (policies.foldl (Notifications.checkPolicy warningWindow state poll) scheduler).sent := by
  induction policies generalizing scheduler with
  | nil => cases member
  | cons head rest ih =>
      rw [List.foldl_cons]
      by_cases same : head.policyId = policy.policyId
      · have own := unique head List.mem_cons_self same
        subst own
        exact sent_foldl rest due.checkPolicy
      · have later : policy ∈ rest := by
          rcases List.mem_cons.mp member with rfl | later
          · exact absurd rfl same
          · exact later
        refine ih later (fun other among => unique other (List.mem_cons_of_mem _ among)) ?_
        refine ⟨due.answers, due.lapsed, due.opened, ?_, due.accepts⟩
        rcases checkPolicy_cases warningWindow state poll scheduler head with kept | ⟨_, kept⟩
        · rw [kept]
          exact due.unsent
        · rw [kept]
          dsimp only
          rw [Function.update_of_ne (fun equal => same equal.symm)]
          exact due.unsent

theorem warnings_foldl {policies : List ActivePolicy} {scheduler : Scheduler} {policyId : Nat}
    (unlisted : ∀ policy ∈ policies, policy.policyId ≠ policyId) :
    (policies.foldl (checkPolicy warningWindow state poll) scheduler).warnings policyId =
      scheduler.warnings policyId := by
  induction policies generalizing scheduler with
  | nil => rfl
  | cons policy rest ih =>
      rw [List.foldl_cons, ih fun other member => unlisted other (List.mem_cons_of_mem _ member)]
      rcases checkPolicy_cases warningWindow state poll scheduler policy with same | ⟨_, same⟩
      · rw [same]
      · have other := unlisted policy List.mem_cons_self
        rw [same, Scheduler.warnings, Scheduler.warnings, List.filter_append,
          List.filter_cons_of_neg (by rw [decide_eq_true_eq]; exact other), List.filter_nil,
          List.append_nil]

end Polls

/-! ### What never goes wrong -/

/-- The warning is about an existing policy and goes to its holder. -/
structure Reached (state : State) (warning : PremiumWarning) : Prop where
  policyExists : state.policyExists warning.policyId = true
  holderAddress : warning.holderAddress = (state.policies warning.policyId).holder

/-- If the log is a registration, it names the holder of an existing policy. -/
def Announces (state : State) (log : Log) : Prop :=
  ∀ policyId holder validFrom validUntil coverageAmount,
    parseLog .insurancePolicy log.emitted =
      some (.policyRegistered policyId holder validFrom validUntil coverageAmount) →
    state.policyExists policyId = true ∧ holder = (state.policies policyId).holder

def RowsName (state : State) (tables : Tables) : Prop :=
  ∀ id row, tables.policies id = some row →
    state.policyExists id = true ∧ row.holderAddress = (state.policies id).holder

theorem rowsName_mirror {state : State} {log : Log} {tables : Tables}
    (announces : Announces state log) (rows : RowsName state tables) :
    RowsName state (mirror .insurancePolicy tables log) := by
  unfold mirror
  cases parsed : parseLog .insurancePolicy log.emitted with
  | none => exact rows
  | some event =>
      cases event with
      | policyRegistered policyId holder validFrom validUntil coverageAmount =>
          intro id row stored
          change insertOnce tables.policies policyId _ id = some row at stored
          by_cases same : id = policyId
          · subst same
            rw [insertOnce] at stored
            cases found : tables.policies id with
            | some present =>
                rw [found] at stored
                exact rows id row (found.trans (found.symm.trans stored))
            | none =>
                rw [found] at stored
                dsimp only at stored
                rw [Function.update_self] at stored
                cases stored
                exact announces id holder validFrom validUntil coverageAmount parsed
          · rw [Indexer.insertOnce_of_ne same] at stored
            exact rows id row stored
      | policyRevoked policyId =>
          intro id row stored
          change updateRow tables.policies policyId _ id = some row at stored
          rw [updateRow] at stored
          by_cases same : id = policyId
          · subst same
            rw [Function.update_self] at stored
            obtain ⟨present, found, changed⟩ := Option.map_eq_some_iff.mp stored
            rw [← changed]
            exact rows id present found
          · rw [Function.update_of_ne same] at stored
            exact rows id row stored
      | claimSubmitted => exact rows
      | claimStatusChanged => exact rows
      | claimPayout => exact rows

theorem keeps_rowsName {config : Indexer.Config} {faults : Faults} {state : State} {log : Log}
    (announces : Announces state log) :
    (dispatch config faults .insurancePolicy log).Keeps
      (fun indexer => RowsName state indexer.tables) := by
  intro indexer rows
  rcases Indexer.dispatch_tables faults log indexer with same | mirrored
  · rw [same]
    exact rows
  · rw [mirrored]
    exact rowsName_mirror announces rows

/-- What a committed call registers exists afterwards. -/
theorem announces_of_committed {here : Address} {world next : World} {call : Call}
    {receipt : Receipt InsurancePolicy.Event}
    (done : InsurancePolicy.exec here world call = .ok (next, receipt)) {log : Log}
    (emitted : log.emitted ∈ receipt.events.map Indexer.Emitted.policy) :
    Announces next.policy log := by
  intro policyId holder validFrom validUntil coverageAmount parsed
  obtain ⟨event, among, shown⟩ := List.mem_map.mp emitted
  rw [← shown] at parsed
  have issues : event.issues = some policyId := by
    cases event <;> cases parsed
    rfl
  have loud : ∀ {events : List InsurancePolicy.Event}, InsurancePolicy.Quiet events →
      event ∉ events := by
    intro events quiet member
    rw [(quiet event member).1] at issues
    cases issues
  rcases InsurancePolicy.exec_effect done with ⟨fn, _, effect⟩ | ⟨_, _, nothing⟩
  · cases effect with
    | issued _ issue source new policies policyExists _ _ rest announced quiet =>
        rw [announced] at among
        rcases List.mem_cons.mp among with own | later
        · subst own
          cases parsed
          rw [policies, policyExists, Function.update_self, Function.update_self]
          exact ⟨rfl, rfl⟩
        · exact absurd later (loud quiet)
    | revoked revokedId found policies policyExists premiums announced =>
        rw [announced] at among
        rw [List.mem_singleton.mp among] at issues
        cases issues
    | coverageUpdated _ _ _ _ _ _ quiet => exact absurd among (loud quiet)
    | termsSet _ _ _ _ _ _ _ quiet => exact absurd among (loud quiet)
    | premiumPaid _ _ _ _ _ quiet => exact absurd among (loud quiet)
    | administered _ _ _ _ quiet => exact absurd among (loud quiet)
  · rw [nothing] at among
    cases among

/-- The logs, the rows and the warnings name holders of existing policies. -/
structure Sound (system : System) : Prop where
  logs : ∀ log ∈ system.logs, Announces system.world.policy log
  rows : RowsName system.world.policy system.indexer.tables
  sent : ∀ warning ∈ system.scheduler.sent, Reached system.world.policy warning

section Sound

variable {deployment : Deployment} {config : Indexer.Config} {warningWindow : Int}
  {system : System}

theorem Sound.call (sound : Sound system) (call : Call) (transactionHash : Bytes32)
    (blockNumber firstIndex : Nat) :
    Sound (step deployment config warningWindow system
      (.call call transactionHash blockNumber firstIndex)) := by
  rw [step]
  cases outcome : InsurancePolicy.exec deployment.self system.world call with
  | error error => exact sound
  | ok result =>
      obtain ⟨next, receipt⟩ := result
      have kept := fun id known => @InsurancePolicy.kept_step deployment.self system.world next
        call receipt outcome id known
      constructor
      case logs =>
        intro log member
        rcases List.mem_append.mp member with old | new
        · intro policyId holder validFrom validUntil coverageAmount parsed
          obtain ⟨known, same⟩ :=
            sound.logs log old policyId holder validFrom validUntil coverageAmount parsed
          exact ⟨(kept policyId known).policyExists, same.trans (kept policyId known).holder.symm⟩
        · apply announces_of_committed outcome
          rw [← logsOf_emitted transactionHash blockNumber firstIndex]
          exact List.mem_map_of_mem new
      case rows =>
        intro id row stored
        obtain ⟨known, same⟩ := sound.rows id row stored
        exact ⟨(kept id known).policyExists, same.trans (kept id known).holder.symm⟩
      case sent =>
        intro warning member
        obtain ⟨known, same⟩ := sound.sent warning member
        exact ⟨(kept _ known).policyExists, same.trans (kept _ known).holder.symm⟩

theorem mem_of_mem_chunk {count : Nat} {log : Log} (member : log ∈ system.chunk count) :
    log ∈ system.logs :=
  List.mem_of_mem_drop (List.mem_of_mem_take member)

theorem Sound.index (sound : Sound system) (count : Nat) (faults : Faults) (stored : Bool) :
    Sound (step deployment config warningWindow system (.index count faults stored)) where
  logs := sound.logs
  rows := by
    refine @keeps_forEach _ _ (fun indexer => RowsName system.world.policy indexer.tables) _ _ ?_
      system.indexer sound.rows
    intro log member
    exact keeps_rowsName (sound.logs log (mem_of_mem_chunk member))
  sent := sound.sent

theorem Sound.poll (sound : Sound system) (poll : Poll) (keys : List Nat) :
    Sound (step deployment config warningWindow system (.poll poll keys)) where
  logs := sound.logs
  rows := sound.rows
  sent := by
    intro warning member
    have asked : warning ∈ (checkOnce warningWindow system.world.policy
        (withTables poll system.indexer.tables keys) system.scheduler).sent := member
    unfold checkOnce withTables at asked
    cases query : poll.activePolicies with
    | none =>
        rw [query] at asked
        exact sound.sent warning asked
    | some ignored =>
        rw [query] at asked
        rcases mem_sent_foldl asked with old | listed
        · exact sound.sent warning old
        · obtain ⟨_, row, stored, _, holder⟩ := mem_activePolicies.mp listed
          obtain ⟨known, same⟩ := sound.rows _ row stored
          exact ⟨known, holder.trans same⟩

theorem Sound.step (sound : Sound system) (move : Move) :
    Sound (Pipeline.step deployment config warningWindow system move) := by
  cases move with
  | call call transactionHash blockNumber firstIndex =>
      exact sound.call call transactionHash blockNumber firstIndex
  | index count faults stored => exact sound.index count faults stored
  | poll poll keys => exact sound.poll poll keys

theorem sound_run (earlier : List Call) (moves : List Move) :
    Sound (run deployment config warningWindow earlier moves) := by
  induction moves using List.reverseRecOn with
  | nil =>
      refine ⟨List.forall_mem_nil _, ?_, List.forall_mem_nil _⟩
      intro id row stored
      cases stored
  | append_singleton moves move ih =>
      rw [run, List.foldl_append]
      exact ih.step move

end Sound

end Dics.Notifications.Pipeline
