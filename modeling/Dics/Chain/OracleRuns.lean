/-
Runs of the OracleAdapter and the ClaimRegistry it writes to.

Both contracts remember the request ids they have seen.  As long as the adapter
is the registry's only oracle and keeps pointing at it, the two memories agree,
every id decides at most one claim, and every decision was signed.
-/

import Dics.Chain.OracleAdapter

open Transactions Tokens Words
open TypedData (encodeWords encodeWord asciiBytes)

namespace Dics.OracleAdapter

inductive Target where
  | adapter (fn : Fn)
  | registry (fn : ClaimRegistry.Fn)
  | token (token : Address) (act : Act Address)
  deriving DecidableEq

/-- A transaction from outside.  The adapter makes no calls but those in its own
code, so it is never the sender. -/
structure Call (site : Site) where
  msg : Msg
  registries : Address → PolicyRegistry
  sinkAccepts : Bool
  target : Target
  outside : msg.sender ≠ site.adapter

inductive AnyError where
  | adapter (error : Error)
  | registry (error : ClaimRegistry.Error)
  | token (error : TokenError)
  deriving DecidableEq

def exec (site : Site) (world : World) (call : Call site) :
    Except AnyError (World × Receipt AnyEvent) :=
  match call.target with
  | .adapter fn => (callFn site call.sinkAccepts call.msg world fn).mapError .adapter
  | .registry fn => do
      let (next, receipt) ←
        (ClaimRegistry.callFn site.registry call.registries call.msg world.claims fn).mapError
          .registry
      return ({ world with registry := next.registry, tokens := next.tokens },
        { events := receipt.events.map .registry, movements := receipt.movements })
  | .token token act => do
      let (tokens, movements) ← (world.tokens.act token call.msg.sender act).mapError .token
      return ({ world with tokens := tokens }, { events := [], movements := movements })

abbrev Commit (site : Site) := Transactions.Commit World (Call site) (Receipt AnyEvent)

structure Deployment where
  site : Site
  timelockAdmin : Address
  responseValidityWindowSeconds : Nat
  args : ClaimRegistry.InitArgs
  timestamp : Nat
  tokens : Bank Address

def Deployment.start (deployment : Deployment) : World :=
  { adapter := initialized deployment.timelockAdmin deployment.site.registry
      deployment.responseValidityWindowSeconds
    registry := ClaimRegistry.initialized deployment.args deployment.timestamp
    tokens := deployment.tokens }

def Deployment.run (deployment : Deployment) (calls : List (Call deployment.site)) : World :=
  Transactions.run (exec deployment.site) deployment.start calls

def Deployment.history (deployment : Deployment) (calls : List (Call deployment.site)) :
    List (Commit deployment.site) :=
  Transactions.history (exec deployment.site) deployment.start calls

/-! ### Oracle decisions -/

/-- A status change asked of the registry under the oracle role. -/
structure Decision where
  claimId : Nat
  requestId : Bytes32
  approved : Bool
  deriving DecidableEq

def OracleResponse.decision (response : OracleResponse) : Decision :=
  { claimId := response.claimId
    requestId := response.requestId
    approved := response.approved }

/-- The decision a transaction makes when it commits, through the adapter or by
a direct call of `recordOracleVerification`. -/
def Target.decides : Target → Option Decision
  | .adapter (.submitVerification response _) => some response.decision
  | .registry (.recordOracleVerification claimId requestId approved) =>
      some { claimId, requestId, approved }
  | _ => none

variable {site : Site}

def decisionsFor (requestId : Bytes32) (commits : List (Commit site)) : List Decision :=
  (commits.filterMap fun commit => commit.call.target.decides).filter fun decision =>
    decision.requestId = requestId

/-- The commit relayed a response for the decision that an oracle signer of that
moment had signed for this adapter and chain, in its validity window, and wrote
exactly that decision into exactly that claim. -/
structure Signed (commit : Commit site) (decision : Decision) (response : OracleResponse)
    (signature : TypedData.Bytes) (signer : Address) : Prop where
  relayed : commit.call.target = .adapter (.submitVerification response signature)
  decides : response.decision = decision
  recovered : site.crypto.recover
    (digest site.crypto site.chainId site.adapter response) signature = some signer
  authorised : commit.before.adapter.roles .oracleSigner signer = true
  notFromFuture : response.timestamp ≤ commit.call.msg.timestamp
  notExpired : commit.call.msg.timestamp ≤
    response.timestamp + commit.before.adapter.responseValidityWindow
  writes : ∃ processedAt, commit.after.registry.claims =
    Function.update commit.before.registry.claims decision.claimId
      { commit.before.registry.claims decision.claimId with
        status := ClaimRegistry.oracleDecision decision.approved
        processedAt := processedAt }

def GrantsOracleTo (target : Target) : Option Address :=
  match target with
  | .registry (.changeRole (.grantRole .oracle account)) => some account
  | _ => none

/-- The run keeps the adapter pointed and grants the oracle role to nobody
else. -/
structure KeepsOracle (commit : Commit site) : Prop where
  pointer : commit.after.adapter.claimRegistry = commit.before.adapter.claimRegistry
  soleOracle : GrantsOracleTo commit.call.target ∈ [none, some site.adapter]

/-! ### What a committed transaction did -/

/-- A committed submission with everything it checked. -/
structure Verified (world : World) (call : Call site) (response : OracleResponse)
    (signature : TypedData.Bytes) (signer : Address) (next : World) : Prop where
  unused : world.adapter.usedRequestIds response.requestId = false
  notFromFuture : response.timestamp ≤ call.msg.timestamp
  notExpired : call.msg.timestamp ≤
    response.timestamp + world.adapter.responseValidityWindow
  recovered : site.crypto.recover
    (digest site.crypto site.chainId site.adapter response) signature = some signer
  authorised : world.adapter.roles .oracleSigner signer = true
  marked : next.adapter.usedRequestIds =
    Function.update world.adapter.usedRequestIds response.requestId true
  pointer : next.adapter.claimRegistry = world.adapter.claimRegistry
  recorded : world.adapter.claimRegistry = site.registry →
    next.registry.usedOracleRequestIds =
      Function.update world.registry.usedOracleRequestIds response.requestId true ∧
    next.registry.roles = world.registry.roles ∧
    ∃ processedAt, next.registry.claims =
      Function.update world.registry.claims response.claimId
        { world.registry.claims response.claimId with
          status := ClaimRegistry.oracleDecision response.approved
          processedAt := processedAt }

theorem submitVerification_ok {world next : World} {call : Call site}
    {response : OracleResponse} {signature : TypedData.Bytes} {receipt : Receipt AnyEvent}
    (done : submitVerification site call.sinkAccepts response signature call.msg world =
      .ok (next, receipt)) :
    ∃ signer, Verified world call response signature signer next := by
  simp only [submitVerification, whenNotPaused, require_bind_eq_ok, orRevert_bind_eq_ok,
    checkedAdd_eq_some] at done
  obtain ⟨_, unused, notFromFuture, _, ⟨_, rfl⟩, notExpired, signer, recovered, authorised,
    relaying⟩ := done
  obtain ⟨⟨relayed, _⟩, passed, same⟩ := bind_eq_ok.mp relaying
  cases same
  have checked := fun marked pointer recorded =>
    (⟨unused, notFromFuture, notExpired, recovered, authorised, marked, pointer, recorded⟩ :
      Verified world call response signature signer relayed)
  unfold relay at passed
  split at passed
  · obtain ⟨⟨registry, events⟩, written, same⟩ := bind_eq_ok.mp passed
    cases same
    have recorded := mapError_eq_ok.mp written
    simp only [ClaimRegistry.recordOracleVerification, ClaimRegistry.whenNotPaused,
      ClaimRegistry.onlyRole, require_bind_eq_ok, pure_eq_ok] at recorded
    obtain ⟨_, _, _, _, same⟩ := recorded
    cases same
    exact ⟨signer, checked rfl rfl (fun _ => ⟨rfl, rfl, _, rfl⟩)⟩
  · rename_i elsewhere
    simp only [require_bind_eq_ok, pure_eq_ok] at passed
    obtain ⟨_, same⟩ := passed
    cases same
    exact ⟨signer, checked rfl rfl (fun pointed => absurd pointed elsewhere)⟩

theorem relay_other {sinkAccepts : Bool} {response : OracleResponse} {msg : Msg}
    {world next : World} {receipt : Receipt AnyEvent}
    (passed : relay site sinkAccepts response msg world = .ok (next, receipt)) {id : Nat}
    (other : id ≠ response.claimId) :
    next.registry.claims id = world.registry.claims id := by
  unfold relay at passed
  split at passed
  · obtain ⟨⟨registry, events⟩, written, same⟩ := bind_eq_ok.mp passed
    cases same
    have recorded := mapError_eq_ok.mp written
    simp only [ClaimRegistry.recordOracleVerification, ClaimRegistry.whenNotPaused,
      ClaimRegistry.onlyRole, require_bind_eq_ok, pure_eq_ok] at recorded
    obtain ⟨_, _, _, _, same⟩ := recorded
    cases same
    exact Function.update_of_ne other _ _
  · simp only [require_bind_eq_ok, pure_eq_ok] at passed
    obtain ⟨_, same⟩ := passed
    cases same
    rfl

theorem submitVerification_other {sinkAccepts : Bool} {response : OracleResponse}
    {signature : TypedData.Bytes} {msg : Msg} {world next : World} {receipt : Receipt AnyEvent}
    (done : submitVerification site sinkAccepts response signature msg world =
      .ok (next, receipt)) {id : Nat} (other : id ≠ response.claimId) :
    next.registry.claims id = world.registry.claims id := by
  simp only [submitVerification, whenNotPaused, require_bind_eq_ok, orRevert_bind_eq_ok] at done
  obtain ⟨_, _, _, _, _, _, _, _, _, relaying⟩ := done
  obtain ⟨⟨relayed, _⟩, passed, same⟩ := bind_eq_ok.mp relaying
  cases same
  exact relay_other passed other

/-- A call that makes no decision keeps both memories. -/
structure NoDecision (world : World) (target : Target) (next : World) : Prop where
  decides : target.decides = none
  adapterIds : next.adapter.usedRequestIds = world.adapter.usedRequestIds
  registryIds : next.registry.usedOracleRequestIds = world.registry.usedOracleRequestIds
  oracles : ∀ account, next.registry.roles .oracle account = true →
    world.registry.roles .oracle account = true ∨ GrantsOracleTo target = some account

private theorem administration_ok {world next : World} {call : Call site} {fn : Fn}
    {receipt : Receipt AnyEvent}
    (done : callFn site call.sinkAccepts call.msg world fn = .ok (next, receipt))
    (noDecision : (Target.adapter fn).decides = none) :
    NoDecision world (.adapter fn) next := by
  cases fn with
  | submitVerification response signature => cases noDecision
  | setClaimRegistry newClaimRegistry =>
      simp only [callFn, World.withAdapter, setClaimRegistry, onlyRole, bind_assoc,
        require_bind_eq_ok, pure_bind, pure_eq_ok] at done
      obtain ⟨_, same⟩ := done
      cases same
      exact ⟨rfl, rfl, rfl, fun _ held => Or.inl held⟩
  | setResponseValidityWindow newWindowSeconds =>
      simp only [callFn, World.withAdapter, setResponseValidityWindow, onlyRole, bind_assoc,
        require_bind_eq_ok, pure_bind, pure_eq_ok] at done
      obtain ⟨_, same⟩ := done
      cases same
      exact ⟨rfl, rfl, rfl, fun _ held => Or.inl held⟩
  | pause =>
      simp only [callFn, World.withAdapter, pause, onlyRole, whenNotPaused, bind_assoc,
        require_bind_eq_ok, pure_bind, pure_eq_ok] at done
      obtain ⟨_, _, same⟩ := done
      cases same
      exact ⟨rfl, rfl, rfl, fun _ held => Or.inl held⟩
  | unpause =>
      simp only [callFn, World.withAdapter, unpause, onlyRole, bind_assoc,
        require_bind_eq_ok, pure_bind, pure_eq_ok] at done
      obtain ⟨_, _, same⟩ := done
      cases same
      exact ⟨rfl, rfl, rfl, fun _ held => Or.inl held⟩
  | changeRole change =>
      obtain ⟨⟨state, events⟩, changing, same⟩ := bind_eq_ok.mp done
      obtain ⟨roles, _, changed⟩ := bind_eq_ok.mp changing
      cases changed
      cases same
      exact ⟨rfl, rfl, rfl, fun _ held => Or.inl held⟩

private theorem grants_of_changeRole {fn : ClaimRegistry.Fn} {account : Address}
    (grants : fn = .changeRole (.grantRole .oracle account)) :
    GrantsOracleTo (.registry fn) = some account := by
  rw [grants]
  rfl

/-- Every committed transaction is a verified submission, a direct verification
by an oracle, or makes no decision. -/
theorem exec_cases {world next : World} {call : Call site} {receipt : Receipt AnyEvent}
    (done : exec site world call = .ok (next, receipt)) :
    (∃ response signature signer,
      call.target = .adapter (.submitVerification response signature) ∧
        Verified world call response signature signer next) ∨
    world.registry.roles .oracle call.msg.sender = true ∧
      call.target.decides ≠ none ∨
    NoDecision world call.target next := by
  unfold exec at done
  cases target : call.target with
  | adapter fn =>
      rw [target] at done
      have called := mapError_eq_ok.mp done
      by_cases decides : (Target.adapter fn).decides = none
      · exact Or.inr (Or.inr (administration_ok called decides))
      · cases fn with
        | submitVerification response signature =>
            obtain ⟨signer, verified⟩ := submitVerification_ok called
            exact Or.inl ⟨response, signature, signer, rfl, verified⟩
        | _ => exact absurd rfl decides
  | registry fn =>
      rw [target] at done
      obtain ⟨⟨after, own⟩, called, same⟩ := bind_eq_ok.mp done
      cases same
      have committed := mapError_eq_ok.mp called
      by_cases decides : (Target.registry fn).decides = none
      · refine Or.inr (Or.inr ⟨decides, rfl, ?_, ?_⟩)
        · rcases ClaimRegistry.callFn_usedOracleRequestIds committed with
            kept | ⟨claimId, requestId, approved, verifies, _⟩
          · exact kept
          · rw [verifies] at decides
            cases decides
        · intro account held
          rcases ClaimRegistry.callFn_holds committed _ account held with before | grants
          · exact Or.inl before
          · exact Or.inr (grants_of_changeRole grants)
      · cases fn with
        | recordOracleVerification claimId requestId approved =>
            have authorised := (ClaimRegistry.recordOracleVerification_ok committed).2.1
            exact Or.inr (Or.inl ⟨authorised, decides⟩)
        | _ => exact absurd rfl decides
  | token token act =>
      rw [target] at done
      obtain ⟨⟨tokens, movements⟩, _, same⟩ := bind_eq_ok.mp done
      cases same
      exact Or.inr (Or.inr ⟨rfl, rfl, rfl, fun _ held => Or.inl held⟩)

/-! ### Runs -/

/-- The two memories agree, and a request id that neither remembers has decided
nothing yet. -/
structure InStep (world : World) (past : List (Commit site)) : Prop where
  pointed : world.adapter.claimRegistry = site.registry
  soleOracle : ∀ account, world.registry.roles .oracle account = true → account = site.adapter
  sameIds : world.adapter.usedRequestIds = world.registry.usedOracleRequestIds
  undecided : ∀ requestId, world.adapter.usedRequestIds requestId = false →
    decisionsFor requestId past = []
  once : ∀ requestId, (decisionsFor requestId past).length ≤ 1
  signed : ∀ commit ∈ past, ∀ decision ∈ commit.call.target.decides,
    ∃ response signature signer, Signed commit decision response signature signer

theorem decisionsFor_snoc (requestId : Bytes32) (past : List (Commit site))
    (commit : Commit site) :
    decisionsFor requestId (past ++ [commit]) = decisionsFor requestId past ++
      (commit.call.target.decides.toList.filter fun decision =>
        decision.requestId = requestId) := by
  unfold decisionsFor
  rw [List.filterMap_append, List.filter_append]
  cases decides : commit.call.target.decides with
  | none => simp only [List.filterMap_cons, decides, List.filterMap_nil, Option.toList_none]
  | some decision =>
      simp only [List.filterMap_cons, decides, List.filterMap_nil, Option.toList_some]

theorem inStep_start (deployment : Deployment) :
    @InStep deployment.site deployment.start [] where
  pointed := rfl
  soleOracle _ held := nomatch held
  sameIds := rfl
  undecided _ _ := rfl
  once _ := Nat.zero_le 1
  signed _ member := nomatch member

private theorem Verified.signed {world next : World} {call : Call site}
    {receipt : Receipt AnyEvent} {response : OracleResponse} {signature : TypedData.Bytes}
    {signer : Address} (verified : Verified world call response signature signer next)
    (target : call.target = .adapter (.submitVerification response signature))
    (pointed : world.adapter.claimRegistry = site.registry) :
    @Signed site ⟨world, call, receipt, next⟩ response.decision response signature signer where
  relayed := target
  decides := rfl
  recovered := verified.recovered
  authorised := verified.authorised
  notFromFuture := verified.notFromFuture
  notExpired := verified.notExpired
  writes := (verified.recorded pointed).2.2

private theorem signed_snoc {past : List (Commit site)} {commit : Commit site}
    (before : ∀ earlier ∈ past, ∀ decision ∈ earlier.call.target.decides,
      ∃ response signature signer, Signed earlier decision response signature signer)
    (now : ∀ decision ∈ commit.call.target.decides,
      ∃ response signature signer, Signed commit decision response signature signer) :
    ∀ earlier ∈ past ++ [commit], ∀ decision ∈ earlier.call.target.decides,
      ∃ response signature signer, Signed earlier decision response signature signer := by
  intro earlier member
  rcases List.mem_append.mp member with old | new
  · exact before earlier old
  · rw [List.mem_singleton.mp new]
    exact now

private theorem inStep_verified {world next : World} {past : List (Commit site)}
    {call : Call site} {receipt : Receipt AnyEvent} {response : OracleResponse}
    {signature : TypedData.Bytes} {signer : Address} (before : InStep world past)
    (target : call.target = .adapter (.submitVerification response signature))
    (verified : Verified world call response signature signer next) :
    InStep next (past ++ [⟨world, call, receipt, next⟩]) := by
  obtain ⟨registryIds, roles, _⟩ := verified.recorded before.pointed
  have decides : call.target.decides = some response.decision := by
    rw [target]
    rfl
  have grown : ∀ requestId, decisionsFor requestId (past ++ [⟨world, call, receipt, next⟩]) =
      decisionsFor requestId past ++ if response.requestId = requestId
        then [response.decision] else [] := by
    intro requestId
    rw [decisionsFor_snoc, decides]
    by_cases same : response.requestId = requestId
    · rw [if_pos same]
      simp only [Option.toList_some, List.filter_cons, OracleResponse.decision, same,
        decide_true, if_true, List.filter_nil]
    · rw [if_neg same]
      simp only [Option.toList_some, List.filter_cons, OracleResponse.decision, same,
        decide_false, Bool.false_eq_true, if_false, List.filter_nil]
  refine ⟨verified.pointer.trans before.pointed, ?_, ?_, ?_, ?_, ?_⟩
  · rw [roles]
    exact before.soleOracle
  · rw [verified.marked, registryIds, before.sameIds]
  · intro requestId unused
    rw [verified.marked] at unused
    have other : response.requestId ≠ requestId := by
      intro same
      rw [same, Function.update_self] at unused
      cases unused
    rw [Function.update_of_ne other.symm] at unused
    rw [grown, if_neg other, List.append_nil]
    exact before.undecided requestId unused
  · intro requestId
    rw [grown]
    by_cases same : response.requestId = requestId
    · rw [if_pos same, before.undecided requestId (same ▸ verified.unused)]
      exact Nat.le_refl 1
    · rw [if_neg same, List.append_nil]
      exact before.once requestId
  · apply signed_snoc before.signed
    intro decision decided
    rw [decides] at decided
    cases decided
    exact ⟨response, signature, signer, verified.signed target before.pointed⟩

private theorem inStep_step {world next : World} {past : List (Commit site)}
    {call : Call site} {receipt : Receipt AnyEvent} (before : InStep world past)
    (done : exec site world call = .ok (next, receipt))
    (allowed : KeepsOracle ⟨world, call, receipt, next⟩) :
    InStep next (past ++ [⟨world, call, receipt, next⟩]) := by
  rcases exec_cases done with
    ⟨response, signature, signer, target, verified⟩ | ⟨oracle, _⟩ | quiet
  · exact inStep_verified before target verified
  · exact absurd (before.soleOracle _ oracle) call.outside
  · have decides : call.target.decides = none := quiet.decides
    have same : ∀ requestId, decisionsFor requestId (past ++ [⟨world, call, receipt, next⟩]) =
        decisionsFor requestId past := by
      intro requestId
      rw [decisionsFor_snoc, decides, Option.toList_none, List.filter_nil, List.append_nil]
    refine ⟨allowed.pointer.trans before.pointed, ?_, ?_, ?_, ?_, ?_⟩
    · intro account held
      rcases quiet.oracles account held with already | granted
      · exact before.soleOracle account already
      · have named := allowed.soleOracle
        rw [granted] at named
        rw [List.mem_cons, List.mem_singleton] at named
        exact Option.some.inj (named.resolve_left nofun)
    · rw [quiet.adapterIds, quiet.registryIds]
      exact before.sameIds
    · intro requestId unused
      rw [quiet.adapterIds] at unused
      rw [same]
      exact before.undecided requestId unused
    · intro requestId
      rw [same]
      exact before.once requestId
    · apply signed_snoc before.signed
      intro decision decided
      rw [decides] at decided
      cases decided

/-- In every run in which the adapter stays the registry's only oracle and keeps
pointing at it: both contracts remember the same request ids; each id decides
at most once; every decision was signed for this adapter and written as signed;
and a call that reverts changes nothing. -/
theorem decisions_are_signed_and_used_once (deployment : Deployment)
    (calls : List (Call deployment.site))
    (notRepointed : ∀ commit ∈ deployment.history calls,
      commit.after.adapter.claimRegistry = commit.before.adapter.claimRegistry)
    (soleOracle : ∀ commit ∈ deployment.history calls,
      GrantsOracleTo commit.call.target ∈ [none, some deployment.site.adapter]) :
    (∀ requestId, (deployment.run calls).adapter.usedRequestIds requestId =
      (deployment.run calls).registry.usedOracleRequestIds requestId) ∧
    (∀ requestId, (decisionsFor requestId (deployment.history calls)).length ≤ 1) ∧
    (∀ commit ∈ deployment.history calls, ∀ decision ∈ commit.call.target.decides,
      ∃ response signature signer, Signed commit decision response signature signer) ∧
    (∀ call error, exec deployment.site (deployment.run calls) call = .error error →
      (deployment.run (calls ++ [call])).adapter.usedRequestIds =
          (deployment.run calls).adapter.usedRequestIds ∧
        (deployment.run (calls ++ [call])).registry.usedOracleRequestIds =
          (deployment.run calls).registry.usedOracleRequestIds ∧
        (deployment.run (calls ++ [call])).registry.claims =
          (deployment.run calls).registry.claims) := by
  have allowed : ∀ commit ∈ deployment.history calls, KeepsOracle commit :=
    fun commit member => ⟨notRepointed commit member, soleOracle commit member⟩
  have invariant : InStep (deployment.run calls) (deployment.history calls) := by
    refine run_induction (inStep_start deployment) ?_ calls allowed
    intro world past call next receipt before done kept
    exact inStep_step before done kept
  refine ⟨congrFun invariant.sameIds, invariant.once, invariant.signed, ?_⟩
  intro call error failed
  have unchanged : deployment.run (calls ++ [call]) = deployment.run calls := by
    unfold Deployment.run at failed ⊢
    rw [run_snoc, settle_of_error failed]
  rw [unchanged]
  exact ⟨rfl, rfl, rfl⟩

/-! ### A small deployment to evaluate runs on -/

/-- The signer with private key `1`. -/
def sampleSigner : Address := 0x7e5f4552091a69125d5dfcb7b8c2659029395bdf

def sampleResponse : OracleResponse :=
  { claimId := 1, requestId := 0x11, approved := true, timestamp := 5 }

/-- The digest of the sample response for chain `1` and adapter `0xB1`. -/
def sampleDigest : Bytes32 :=
  0xaa7fb0fe89738164277eddf3195d0e4c5e758c47896c61257a80bab3183c3725

/-- The sample signer's signature of that digest. -/
def sampleSignature : TypedData.Bytes :=
  [0xf0, 0x1d, 0x6b, 0x90, 0x18, 0xab, 0x42, 0x1d, 0xd4, 0x10, 0x40, 0x4c, 0xb8, 0x69, 0x07,
   0x20, 0x65, 0x52, 0x2b, 0xf8, 0x57, 0x34, 0x00, 0x8f, 0x10, 0x5c, 0xf3, 0x85, 0xa0, 0x23,
   0xa8, 0x0f, 0x2d, 0x8c, 0x06, 0x72, 0x6a, 0x7e, 0x29, 0x8a, 0x98, 0xb5, 0x6a, 0xeb, 0x12,
   0x30, 0xb2, 0x0b, 0xe5, 0x6a, 0xaf, 0x15, 0x03, 0xd1, 0x51, 0xc0, 0xe7, 0x2f, 0xbe, 0x83,
   0xbd, 0x1f, 0x47, 0xf2, 0x1b]

def separator : Bytes32 :=
  0x9f17da7b728d6c98e02a0032dfb45ed4e64694a4b0c38c305465eb13c533b4a1

/-- The Keccak-256 digests of everything that is hashed for the response. -/
def sampleDigests : List (TypedData.Bytes × Bytes32) :=
  [(asciiBytes
      "EIP712Domain(string name,string version,uint256 chainId,address verifyingContract)",
      0x8b73c3c69bb8fe3d512ecc4cf759cc79239f7b179b0ffacaa9a75d522b39400f),
    (asciiBytes "DICS-OracleAdapter",
      0x6fe9796f109f2404dbe675f5187eefe89c6e29da3a91a54f342043a17da7c9bc),
    (asciiBytes "1", 0xc89efdaa54c0f20c7adf612882df0950f5a951637e0307cdcb4c672f298b8bc6),
    (asciiBytes oracleResponseType,
      0xf0055cfffa7abcc7d4f040230a785d418351e92f8939deacb37d5a2861a3ae26),
    (encodeWords
      [0x8b73c3c69bb8fe3d512ecc4cf759cc79239f7b179b0ffacaa9a75d522b39400f,
        0x6fe9796f109f2404dbe675f5187eefe89c6e29da3a91a54f342043a17da7c9bc,
        0xc89efdaa54c0f20c7adf612882df0950f5a951637e0307cdcb4c672f298b8bc6, 1, 0xB1], separator),
    (encodeWords
      (0xf0055cfffa7abcc7d4f040230a785d418351e92f8939deacb37d5a2861a3ae26 ::
        sampleResponse.fields),
      0xdfe83bd6bab9a32bb99c153f3b4ad114f215e70824a53d19d25a45399b1e2893),
    ([0x19, 0x01] ++ encodeWord separator ++
      encodeWord 0xdfe83bd6bab9a32bb99c153f3b4ad114f215e70824a53d19d25a45399b1e2893,
      sampleDigest)]

def sampleCrypto : Crypto where
  keccak256 bytes := (sampleDigests.lookup bytes).getD 0
  recover digest signature :=
    if digest = sampleDigest ∧ signature = sampleSignature then some sampleSigner else none

def sampleDeployment : Deployment where
  site := { crypto := sampleCrypto, chainId := 1, adapter := 0xB1, registry := 0xC1 }
  timelockAdmin := 0xAD
  responseValidityWindowSeconds := 50
  args := ClaimRegistry.sampleDeployment.args
  timestamp := 0
  tokens := ClaimRegistry.sampleDeployment.tokens

def sampleCall (sender : Address) (outside : sender ≠ 0xB1) (target : Target) :
    Call sampleDeployment.site where
  msg := { sender := sender, timestamp := 10 }
  registries _ := ClaimRegistry.samplePolicies
  sinkAccepts := false
  target := target
  outside := outside

def adminCall := sampleCall 0xAD (by decide)

def holderCall := sampleCall 0xA1 (by decide)

def relayerCall := sampleCall 0xF1 (by decide)

/-- The adapter becomes the oracle and gets its signer; then `0xA1` submits claim
`1` and `0xF1` relays the response twice. -/
def sampleCalls : List (Call sampleDeployment.site) :=
  [adminCall (.registry (.changeRole (.grantRole .oracle 0xB1))),
   adminCall (.adapter (.changeRole (.grantRole .oracleSigner sampleSigner))),
   holderCall (.registry (.submitClaim 7 0 500)),
   relayerCall (.adapter (.submitVerification sampleResponse sampleSignature)),
   relayerCall (.adapter (.submitVerification sampleResponse sampleSignature))]

theorem decisions_are_signed_and_used_once_sample :
    ((sampleDeployment.run sampleCalls).registry.claims 1).status = .approved ∧
      decisionsFor 0x11 (sampleDeployment.history sampleCalls) = [sampleResponse.decision] ∧
      (∀ requestId, (decisionsFor requestId (sampleDeployment.history sampleCalls)).length ≤ 1) :=
  ⟨by decide +kernel, by decide +kernel,
    (decisions_are_signed_and_used_once sampleDeployment sampleCalls
      (by decide +kernel) (by decide +kernel)).2.1⟩

end Dics.OracleAdapter
