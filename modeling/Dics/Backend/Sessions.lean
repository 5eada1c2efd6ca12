/-
Requests on claims by users who have logged in.

Overlapping logins may share a nonce, but no interleaving yields a token for an
address whose key has not signed a nonce that was issued for it.  Whatever
requests come in between, every row of the claims table was therefore created
under such a signature and before the token expired, and everyone is shown the
rows of their own address.  The JWT library is a parameter.
-/

import Dics.Backend.Auth
import Dics.Backend.Webhook
import Dics.Lib.Texts

open Transactions Texts

namespace Dics.Backend

namespace Auth

/-! ### Logins that nothing orders -/

/-- What every interleaving keeps. -/
structure Genuine (service : Service) (traffic : Traffic) (system : System) : Prop where
  stored : ∀ address row, system.table address = some row →
    IssuedFor traffic system address row.nonce
  issued : ∀ index record, (system.logins index).record = some record →
    IssuedFor traffic system (traffic.loginRequests index).address record.nonce
  signer : ∀ index record signer,
    system.logins index = .recovered record signer ∨
      system.logins index = .committed record signer →
    signer = service.recoverMessage (buildLoginMessage service record.nonce)
      (traffic.loginRequests index).signature.text
  granted : ∀ index record token, system.logins index = .granted record token →
    Signed service (traffic.loginRequests index) record.nonce ∧
      token.sub = (traffic.loginRequests index).address

theorem genuine_start (service : Service) (traffic : Traffic) :
    Genuine service traffic System.start where
  stored := by
    intro address row found
    cases found
  issued := by
    intro index record here
    cases here
  signer := by
    intro index record signer here
    rcases here with here | here
    · cases here
    · cases here
  granted := by
    intro index record token here
    cases here

section Steps

variable {service : Service} {traffic : Traffic} {system : System}

theorem IssuedFor.step {address : Address} {nonce : String}
    (issued : IssuedFor traffic system address nonce) (action : Action) :
    IssuedFor traffic (system.step service traffic action) address nonce := by
  obtain ⟨other, asked, served⟩ := issued
  cases action with
  | loginWallet index now => exact ⟨other, asked, served⟩
  | getNonce index now drawn =>
      refine ⟨other, asked, ?_⟩
      show Function.update system.nonces index _ other = _
      by_cases same : other = index
      · subst same
        rw [Function.update_self, served]
        rfl
      · rw [Function.update_of_ne same]
        exact served

/-- A nonce request leaves in a row the nonce it serves or the one that was there. -/
theorem generateNonceStep_table {address asked : Address} {now : Nat} {drawn : String}
    {table : Table} {phase : NoncePhase} {row : WalletNonce}
    (found : (generateNonceStep asked now drawn table phase).1 address = some row) :
    (∃ old, table address = some old ∧ old.nonce = row.nonce) ∨
      (address = asked ∧
        (generateNonceStep asked now drawn table phase).2 = .served row.nonce) := by
  cases phase with
  | received => exact Or.inl ⟨row, found, rfl⟩
  | served nonce => exact Or.inl ⟨row, found, rfl⟩
  | failed => exact Or.inl ⟨row, found, rfl⟩
  | read existing nonce expiresAt =>
      rw [generateNonceStep] at found ⊢
      unfold storeNonce at found ⊢
      split at found
      · rename_i record current stored
        rcases update_cases found with ⟨same, here⟩ | ⟨_, before⟩
        · cases here
          by_cases kept : nonce = record.nonce
          · refine Or.inl ⟨current, same ▸ stored, ?_⟩
            exact (if_pos kept).symm
          · refine Or.inr ⟨same, ?_⟩
            exact congrArg NoncePhase.served (if_neg kept).symm
        · exact Or.inl ⟨row, before, rfl⟩
      · rcases update_cases found with ⟨same, here⟩ | ⟨_, before⟩
        · cases here
          exact Or.inr ⟨same, rfl⟩
        · exact Or.inl ⟨row, before, rfl⟩
      · exact Or.inl ⟨row, found, rfl⟩

/-- A login leaves the nonces in the rows alone. -/
theorem loginWalletStep_table {request : WalletLoginRequest} {now : Nat} {table : Table}
    {phase : LoginPhase} {address : Address} {row : WalletNonce}
    (found : (loginWalletStep service request now table phase).1 address = some row) :
    ∃ old, table address = some old ∧ old.nonce = row.nonce := by
  cases phase with
  | recovered record signer =>
      rw [loginWalletStep, consumeNonce] at found
      cases stored : table request.address with
      | none =>
          rw [stored] at found
          exact ⟨row, found, rfl⟩
      | some current =>
          rw [stored] at found
          rcases update_cases found with ⟨same, here⟩ | ⟨_, before⟩
          · cases here
            exact ⟨current, same ▸ stored, rfl⟩
          · exact ⟨row, before, rfl⟩
  | received => exact ⟨row, found, rfl⟩
  | read record => exact ⟨row, found, rfl⟩
  | committed record signer => exact ⟨row, found, rfl⟩
  | granted record token => exact ⟨row, found, rfl⟩
  | unauthorized record => exact ⟨row, found, rfl⟩
  | failed => exact ⟨row, found, rfl⟩

theorem Genuine.getNonce (genuine : Genuine service traffic system) (index now : Nat)
    (drawn : String) :
    Genuine service traffic (system.step service traffic (.getNonce index now drawn)) where
  stored := by
    intro address row found
    rcases generateNonceStep_table found with ⟨old, before, same⟩ | ⟨asked, served⟩
    · rw [← same]
      exact (genuine.stored address old before).step _
    · refine ⟨index, asked.symm, ?_⟩
      show Function.update system.nonces index _ index = _
      rw [Function.update_self]
      exact served
  issued := fun login record here => (genuine.issued login record here).step _
  signer := genuine.signer
  granted := genuine.granted

theorem answerLogin_granted {request : WalletLoginRequest} {now : Nat}
    {record other : WalletNonce} {signer : Option Address} {token : AccessToken}
    (granted : answerLogin service request now record signer = .granted other token) :
    other = record ∧ signer = some request.address ∧ token.sub = request.address := by
  unfold answerLogin at granted
  split at granted
  · rename_i good
    cases granted
    exact ⟨rfl, good, rfl⟩
  · cases granted

/-- Where a phase with a signer or a token comes from. -/
theorem loginWalletStep_signer {request : WalletLoginRequest} {now : Nat} {table : Table}
    {phase : LoginPhase} {record : WalletNonce} {signer : Option Address}
    (after : (loginWalletStep service request now table phase).2 = .recovered record signer ∨
      (loginWalletStep service request now table phase).2 = .committed record signer) :
    signer = service.recoverMessage (buildLoginMessage service record.nonce)
        request.signature.text ∨
      phase = .recovered record signer := by
  cases phase with
  | received =>
      rw [loginWalletStep] at after
      rcases readRecord_cases request.address now table with ⟨row, _, _, _, read⟩ | refused
      · rw [read] at after
        rcases after with after | after
        · cases after
        · cases after
      · rw [refused] at after
        rcases after with after | after
        · cases after
        · cases after
  | read row =>
      rcases after with after | after
      · cases after
        exact Or.inl rfl
      · cases after
  | recovered row known =>
      rw [loginWalletStep, consumeNonce] at after
      split at after
      · rcases after with after | after
        · cases after
        · cases after
          exact Or.inr rfl
      · rcases after with after | after
        · cases after
        · cases after
  | committed row known =>
      rw [loginWalletStep, answerLogin] at after
      split at after
      · rcases after with after | after
        · cases after
        · cases after
      · rcases after with after | after
        · cases after
        · cases after
  | granted row token =>
      rcases after with after | after
      · cases after
      · cases after
  | unauthorized row =>
      rcases after with after | after
      · cases after
      · cases after
  | failed =>
      rcases after with after | after
      · cases after
      · cases after

theorem loginWalletStep_granted {request : WalletLoginRequest} {now : Nat} {table : Table}
    {phase : LoginPhase} {record : WalletNonce} {token : AccessToken}
    (after : (loginWalletStep service request now table phase).2 = .granted record token) :
    phase = .granted record token ∨
      (phase = .committed record (some request.address) ∧ token.sub = request.address) := by
  cases phase with
  | received =>
      rw [loginWalletStep] at after
      rcases readRecord_cases request.address now table with ⟨row, _, _, _, read⟩ | refused
      · rw [read] at after
        cases after
      · rw [refused] at after
        cases after
  | read row => cases after
  | recovered row signer =>
      rw [loginWalletStep, consumeNonce] at after
      split at after
      · cases after
      · cases after
  | committed row signer =>
      obtain ⟨rfl, rfl, subject⟩ := answerLogin_granted after
      exact Or.inr ⟨rfl, subject⟩
  | granted row other =>
      cases after
      exact Or.inl rfl
  | unauthorized row => cases after
  | failed => cases after

theorem Genuine.loginWallet (genuine : Genuine service traffic system) (index now : Nat) :
    Genuine service traffic (system.step service traffic (.loginWallet index now)) where
  stored := by
    intro address row found
    obtain ⟨old, before, same⟩ := loginWalletStep_table found
    rw [← same]
    exact (genuine.stored address old before).step _
  issued := by
    intro login record here
    rcases update_cases (Eq.refl ((system.step service traffic
      (.loginWallet index now)).logins login)) with ⟨same, moved⟩ | ⟨_, kept⟩
    · subst same
      rw [← moved] at here
      rcases loginWalletStep_record here with before | ⟨_, found, _, _⟩
      · exact (genuine.issued login record before).step _
      · exact (genuine.stored _ record found).step _
    · rw [← kept] at here
      exact (genuine.issued login record here).step _
  signer := by
    intro login record signer here
    rcases update_cases (Eq.refl ((system.step service traffic
      (.loginWallet index now)).logins login)) with ⟨same, moved⟩ | ⟨_, kept⟩
    · subst same
      rw [← moved] at here
      rcases loginWalletStep_signer here with recovered | stands
      · exact recovered
      · exact genuine.signer login record signer (Or.inl stands)
    · rw [← kept] at here
      exact genuine.signer login record signer here
  granted := by
    intro login record token here
    rcases update_cases here with ⟨same, moved⟩ | ⟨_, kept⟩
    · subst same
      rcases loginWalletStep_granted moved with stands | ⟨stands, subject⟩
      · exact genuine.granted login record token stands
      · have recovered := genuine.signer login record _ (Or.inr stands)
        exact ⟨recovered.symm, subject⟩
    · exact genuine.granted login record token kept

theorem genuine_step (genuine : Genuine service traffic system) (action : Action) :
    Genuine service traffic (system.step service traffic action) := by
  cases action with
  | getNonce index now drawn => exact genuine.getNonce index now drawn
  | loginWallet index now => exact genuine.loginWallet index now

end Steps

end Auth

namespace Sessions

open Auth (Traffic AccessToken Genuine IssuedFor Signed)
open Webhook (CreateClaimRequest createClaim)

/-! ### Tokens in headers -/

/-- `jwt.encode` and `jwt.decode` with the backend's key; `none` is a `JWTError`.
Times are in seconds. -/
structure Jwt where
  encode : AccessToken → List Char
  decode : Nat → List Char → Option AccessToken

/-- `str.isspace` on the characters a header can have. -/
def isSpace (letter : Char) : Bool :=
  letter = ' ' || (9 ≤ letter.toNat && letter.toNat ≤ 13) ||
    (28 ≤ letter.toNat && letter.toNat ≤ 31) || letter.toNat = 0x85 || letter.toNat = 0xA0

def strip (text : List Char) : List Char := stripped isSpace text

structure Jwt.Documented (jwt : Jwt) : Prop where
  accepts : ∀ token seconds, seconds ≤ token.exp →
    jwt.decode seconds (jwt.encode token) = some token
  expires : ∀ text seconds token, jwt.decode seconds text = some token → seconds ≤ token.exp
  compact : ∀ token, strip (jwt.encode token) = jwt.encode token

def bearer : List Char := "Bearer ".toList

/-- The token in a header, where there is one. -/
def presented (jwt : Jwt) (now : Nat) (authorization : Option (List Char)) :
    Option (Option AccessToken) :=
  authorization.bind fun header =>
    if bearer.isPrefixOf header = true then
      some (jwt.decode (now / 1000000) (strip (header.drop bearer.length)))
    else none

inductive Response where
  | stepped
  | unauthorized (detail : String)
  | created (claim : Webhook.Claim)
  | unprocessable
  | claims (rows : List Webhook.Claim)
  | claim (row : Webhook.Claim)
  | notFound
  deriving DecidableEq

def getCurrentAddress (jwt : Jwt) (now : Nat) (authorization : Option (List Char)) :
    Except Response Address :=
  match presented jwt now authorization with
  | none => .error (.unauthorized "Missing or malformed Authorization header")
  | some none => .error (.unauthorized "Invalid or expired token")
  | some (some token) => .ok token.sub

/-! ### The routes -/

structure State where
  auth : Auth.System
  db : Webhook.Database

/-- A step of a login or nonce request, or a request on claims with its header. -/
inductive Request where
  | auth (action : Auth.Action)
  | createClaim (authorization : Option (List Char)) (now : Nat) (payload : CreateClaimRequest)
  | listMyClaims (authorization : Option (List Char)) (now : Nat)
  | getClaim (authorization : Option (List Char)) (now : Nat) (claimId : Int)

/-- The newest rows come first. -/
def ownClaims (db : Webhook.Database) (claimant : Address) : List Webhook.Claim :=
  (db.claims.filter fun claim => decide (claim.claimantAddress = claimant)).reverse

def authenticated (jwt : Jwt) (now : Nat) (authorization : Option (List Char)) (state : State)
    (route : Address → State × Response) : State × Response :=
  match getCurrentAddress jwt now authorization with
  | .error response => (state, response)
  | .ok address => route address

def handle (service : Auth.Service) (traffic : Traffic) (jwt : Jwt) (state : State) :
    Request → State × Response
  | .auth action => ({ state with auth := state.auth.step service traffic action }, .stepped)
  | .createClaim authorization now payload =>
      authenticated jwt now authorization state fun claimant =>
        match createClaim payload claimant state.db with
        | (db, .created claim) => ({ state with db := db }, .created claim)
        | (db, .unprocessable) => ({ state with db := db }, .unprocessable)
  | .listMyClaims authorization now =>
      authenticated jwt now authorization state fun claimant =>
        (state, .claims (ownClaims state.db claimant))
  | .getClaim authorization now claimId =>
      authenticated jwt now authorization state fun _ =>
        match state.db.claims.find? (fun claim => decide ((claim.id : Int) = claimId)) with
        | some row => (state, .claim row)
        | none => (state, .notFound)

def exec (service : Auth.Service) (traffic : Traffic) (jwt : Jwt) (state : State)
    (request : Request) : Except Empty (State × Response) :=
  .ok (handle service traffic jwt state request)

abbrev Step := Transactions.Commit State Request Response

def State.start : State := { auth := Auth.System.start, db := ⟨[]⟩ }

def run (service : Auth.Service) (traffic : Traffic) (jwt : Jwt) (requests : List Request) :
    State :=
  Transactions.run (exec service traffic jwt) State.start requests

def steps (service : Auth.Service) (traffic : Traffic) (jwt : Jwt) (requests : List Request) :
    List Step :=
  Transactions.history (exec service traffic jwt) State.start requests

/-! ### Who stands behind a request -/

/-- The time of a request on claims, and the token it presents. -/
def Request.token (jwt : Jwt) : Request → Option (Nat × AccessToken)
  | .auth _ => none
  | .createClaim authorization now _ =>
      ((presented jwt now authorization).join).map fun token => (now, token)
  | .listMyClaims authorization now =>
      ((presented jwt now authorization).join).map fun token => (now, token)
  | .getClaim authorization now _ =>
      ((presented jwt now authorization).join).map fun token => (now, token)

/-- A token that the library accepts was issued by a login. -/
def Unforged (jwt : Jwt) (step : Step) : Prop :=
  ∀ presented ∈ step.call.token jwt, ∃ index record,
    step.before.auth.logins index = .granted record presented.2

/-- The address has logged in with its own signature over a nonce issued for it,
and the token was still good. -/
def ActsFor (service : Auth.Service) (traffic : Traffic) (jwt : Jwt) (address : Address)
    (step : Step) : Prop :=
  ∃ now index record token,
    step.call.token jwt = some (now, token) ∧
    step.before.auth.logins index = .granted record token ∧
    token.sub = address ∧ (traffic.loginRequests index).address = address ∧
    Signed service (traffic.loginRequests index) record.nonce ∧
    IssuedFor traffic step.before.auth address record.nonce ∧
    now / 1000000 ≤ token.exp

/-- Every row goes back to a request of its claimant, and every list shows the
rows of the one who asked. -/
structure Accounted (service : Auth.Service) (traffic : Traffic) (jwt : Jwt) (state : State)
    (past : List Step) : Prop where
  genuine : Genuine service traffic state.auth
  rows : ∀ row ∈ state.db.claims, ∃ step ∈ past, step.output = .created row ∧
    ActsFor service traffic jwt row.claimantAddress step
  lists : ∀ step ∈ past, ∀ rows, step.output = .claims rows → ∃ address,
    ActsFor service traffic jwt address step ∧
      ∀ row, row ∈ rows ↔ row ∈ step.before.db.claims ∧ row.claimantAddress = address

section Steps

variable {service : Auth.Service} {traffic : Traffic} {jwt : Jwt} {state : State}
  {past : List Step}

theorem getCurrentAddress_ok {now : Nat} {authorization : Option (List Char)}
    {address : Address} (found : getCurrentAddress jwt now authorization = .ok address) :
    ∃ token, presented jwt now authorization = some (some token) ∧ token.sub = address := by
  unfold getCurrentAddress at found
  split at found
  · cases found
  · cases found
  · rename_i token shown
    cases found
    exact ⟨token, shown, rfl⟩

theorem presented_expires (documented : jwt.Documented) {now : Nat}
    {authorization : Option (List Char)} {token : AccessToken}
    (shown : presented jwt now authorization = some (some token)) :
    now / 1000000 ≤ token.exp := by
  obtain ⟨header, _, read⟩ := Option.bind_eq_some_iff.mp shown
  split at read
  · exact documented.expires _ _ _ (Option.some.inj read)
  · cases read

theorem actsFor_of_presented (documented : jwt.Documented)
    (genuine : Genuine service traffic state.auth) {request : Request} {response : Response}
    {next : State} {now : Nat} {authorization : Option (List Char)} {address : Address}
    (found : getCurrentAddress jwt now authorization = .ok address)
    (shows : request.token jwt =
      ((presented jwt now authorization).join).map fun token => (now, token))
    (unforged : Unforged jwt ⟨state, request, response, next⟩) :
    ActsFor service traffic jwt address ⟨state, request, response, next⟩ := by
  obtain ⟨token, shown, rfl⟩ := getCurrentAddress_ok found
  rw [shown] at shows
  have carries : request.token jwt = some (now, token) := shows
  obtain ⟨index, record, granted⟩ := unforged (now, token) carries
  obtain ⟨signed, subject⟩ := genuine.granted index record token granted
  have issued := genuine.issued index record (by rw [granted]; rfl)
  rw [← subject] at issued
  exact ⟨now, index, record, token, carries, granted, rfl, subject.symm, signed, issued,
    presented_expires documented shown⟩

/-- A request that creates nothing and lists nothing. -/
theorem Accounted.quiet (before : Accounted service traffic jwt state past) {next : State}
    {request : Request} {response : Response}
    (genuine : Genuine service traffic next.auth) (same : next.db = state.db)
    (quiet : ∀ rows, response ≠ .claims rows) :
    Accounted service traffic jwt next (past ++ [⟨state, request, response, next⟩]) := by
  refine ⟨genuine, ?_, ?_⟩
  · intro row member
    rw [same] at member
    obtain ⟨step, earlier, created, acts⟩ := before.rows row member
    exact ⟨step, List.mem_append_left _ earlier, created, acts⟩
  · intro step member rows listed
    rcases List.mem_append.mp member with earlier | last
    · exact before.lists step earlier rows listed
    · rw [List.mem_singleton.mp last] at listed
      exact absurd listed (quiet rows)

theorem Accounted.created (before : Accounted service traffic jwt state past) {next : State}
    {request : Request} {claim : Webhook.Claim} (sameAuth : next.auth = state.auth)
    (rows : next.db.claims = state.db.claims ++ [claim])
    (acts : ActsFor service traffic jwt claim.claimantAddress
      ⟨state, request, .created claim, next⟩) :
    Accounted service traffic jwt next (past ++ [⟨state, request, .created claim, next⟩]) := by
  refine ⟨sameAuth ▸ before.genuine, ?_, ?_⟩
  · intro row member
    rw [rows, List.mem_append, List.mem_singleton] at member
    rcases member with old | rfl
    · obtain ⟨step, earlier, created, acts⟩ := before.rows row old
      exact ⟨step, List.mem_append_left _ earlier, created, acts⟩
    · exact ⟨_, List.mem_append_right _ (List.mem_singleton.mpr rfl), rfl, acts⟩
  · intro step member rows listed
    rcases List.mem_append.mp member with earlier | last
    · exact before.lists step earlier rows listed
    · rw [List.mem_singleton.mp last] at listed
      cases listed

theorem mem_ownClaims {db : Webhook.Database} {claimant : Address} {row : Webhook.Claim} :
    row ∈ ownClaims db claimant ↔ row ∈ db.claims ∧ row.claimantAddress = claimant := by
  rw [ownClaims, List.mem_reverse, List.mem_filter, decide_eq_true_iff]

theorem Accounted.listed (before : Accounted service traffic jwt state past)
    {request : Request} {address : Address}
    (acts : ActsFor service traffic jwt address
      ⟨state, request, .claims (ownClaims state.db address), state⟩) :
    Accounted service traffic jwt state
      (past ++ [⟨state, request, .claims (ownClaims state.db address), state⟩]) := by
  refine ⟨before.genuine, ?_, ?_⟩
  · intro row member
    obtain ⟨step, earlier, created, acts⟩ := before.rows row member
    exact ⟨step, List.mem_append_left _ earlier, created, acts⟩
  · intro step member rows listed
    rcases List.mem_append.mp member with earlier | last
    · exact before.lists step earlier rows listed
    · rw [List.mem_singleton.mp last] at listed ⊢
      cases listed
      exact ⟨address, acts, fun _ => mem_ownClaims⟩

theorem createClaim_created {payload : CreateClaimRequest} {claimant : Address}
    {db next : Webhook.Database} {claim : Webhook.Claim}
    (created : createClaim payload claimant db = (next, .created claim)) :
    next.claims = db.claims ++ [claim] ∧ claim.claimantAddress = claimant := by
  unfold createClaim at created
  split at created
  · cases created
    exact ⟨rfl, rfl⟩
  · cases created

theorem createClaim_unprocessable {payload : CreateClaimRequest} {claimant : Address}
    {db next : Webhook.Database}
    (refused : createClaim payload claimant db = (next, .unprocessable)) : next = db := by
  unfold createClaim at refused
  split at refused
  · cases refused
  · cases refused
    rfl

/-- Without a good token nothing happens. -/
theorem authenticated_cases (jwt : Jwt) (now : Nat) (authorization : Option (List Char))
    (state : State) (route : Address → State × Response) :
    (∃ detail, authenticated jwt now authorization state route =
      (state, .unauthorized detail)) ∨
    ∃ address, getCurrentAddress jwt now authorization = .ok address ∧
      authenticated jwt now authorization state route = route address := by
  unfold authenticated getCurrentAddress
  split
  · rename_i refused
    split at refused
    · cases refused
      exact Or.inl ⟨_, rfl⟩
    · cases refused
      exact Or.inl ⟨_, rfl⟩
    · cases refused
  · rename_i address found
    exact Or.inr ⟨address, found, rfl⟩

theorem Accounted.refused (before : Accounted service traffic jwt state past)
    {request : Request} {detail : String} :
    Accounted service traffic jwt state
      (past ++ [⟨state, request, .unauthorized detail, state⟩]) := by
  refine before.quiet before.genuine rfl ?_
  intro rows listed
  cases listed

theorem accounted_step (documented : jwt.Documented)
    (before : Accounted service traffic jwt state past) (request : Request)
    {next : State} {response : Response}
    (handled : handle service traffic jwt state request = (next, response))
    (unforged : Unforged jwt ⟨state, request, response, next⟩) :
    Accounted service traffic jwt next (past ++ [⟨state, request, response, next⟩]) := by
  cases request with
  | auth action =>
      cases handled
      refine before.quiet (Auth.genuine_step before.genuine action) rfl ?_
      intro rows listed
      cases listed
  | createClaim authorization now payload =>
      rcases authenticated_cases jwt now authorization state (fun claimant =>
        match createClaim payload claimant state.db with
        | (db, .created claim) => ({ state with db := db }, .created claim)
        | (db, .unprocessable) => ({ state with db := db }, .unprocessable)) with
        ⟨detail, refused⟩ | ⟨address, found, routed⟩
      · cases refused.symm.trans handled
        exact before.refused
      · have answer := routed.symm.trans handled
        have acts := actsFor_of_presented documented before.genuine found rfl unforged
        split at answer
        · rename_i db claim created
          obtain ⟨rows, own⟩ := createClaim_created created
          cases answer
          rw [← own] at acts
          exact before.created rfl rows acts
        · rename_i db refused
          have same := createClaim_unprocessable refused
          cases answer
          refine before.quiet before.genuine same ?_
          intro rows listed
          cases listed
  | listMyClaims authorization now =>
      rcases authenticated_cases jwt now authorization state (fun claimant =>
        (state, .claims (ownClaims state.db claimant))) with
        ⟨detail, refused⟩ | ⟨address, found, routed⟩
      · cases refused.symm.trans handled
        exact before.refused
      · have acts := actsFor_of_presented documented before.genuine found rfl unforged
        cases routed.symm.trans handled
        exact before.listed acts
  | getClaim authorization now claimId =>
      rcases authenticated_cases jwt now authorization state (fun _ =>
        match state.db.claims.find? (fun claim => decide ((claim.id : Int) = claimId)) with
        | some row => (state, .claim row)
        | none => (state, .notFound)) with ⟨detail, refused⟩ | ⟨address, found, routed⟩
      · cases refused.symm.trans handled
        exact before.refused
      · have answer := routed.symm.trans handled
        split at answer
        · cases answer
          refine before.quiet before.genuine rfl ?_
          intro rows listed
          cases listed
        · cases answer
          refine before.quiet before.genuine rfl ?_
          intro rows listed
          cases listed

/-- A token is accepted until it expires, for its own subject. -/
theorem getCurrentAddress_encode (documented : jwt.Documented) {now : Nat} (token : AccessToken)
    (valid : now / 1000000 ≤ token.exp) :
    getCurrentAddress jwt now (some (bearer ++ jwt.encode token)) = .ok token.sub := by
  have shown : presented jwt now (some (bearer ++ jwt.encode token)) = some (some token) := by
    unfold presented
    rw [Option.bind_some, if_pos (List.isPrefixOf_iff_prefix.mpr (List.prefix_append _ _)),
      List.drop_left, documented.compact, documented.accepts token _ valid]
  rw [getCurrentAddress, shown]

end Steps

/-- In every interleaving of nonce requests, logins and requests on claims, every
row of the claims table was created for an address that had signed a nonce
issued for it, under a token that had not expired, and everyone who lists claims
is shown exactly the rows of their own address.  A token that was granted is
accepted until it expires. -/
theorem rows_belong_to_signers (service : Auth.Service) (traffic : Traffic) (jwt : Jwt)
    (documented : jwt.Documented) (requests : List Request)
    (unforged : ∀ step ∈ steps service traffic jwt requests, Unforged jwt step) :
    Accounted service traffic jwt (run service traffic jwt requests)
        (steps service traffic jwt requests) ∧
      ∀ index record token,
        (run service traffic jwt requests).auth.logins index = .granted record token →
        ∀ now, now / 1000000 ≤ token.exp →
          getCurrentAddress jwt now (some (bearer ++ jwt.encode token)) =
            .ok (traffic.loginRequests index).address := by
  have accounted : Accounted service traffic jwt (run service traffic jwt requests)
      (steps service traffic jwt requests) := by
    refine @run_induction _ _ _ _ (exec service traffic jwt) (Accounted service traffic jwt)
      (Unforged jwt) State.start ?_ ?_ requests unforged
    · exact ⟨Auth.genuine_start service traffic, fun _ member => absurd member List.not_mem_nil,
        fun _ member => absurd member List.not_mem_nil⟩
    · intro state past request next response before done genuine
      exact accounted_step documented before request (Except.ok.inj done) genuine
  refine ⟨accounted, ?_⟩
  intro index record token granted now valid
  rw [← (accounted.genuine.granted index record token granted).2]
  exact getCurrentAddress_encode documented token valid

section Sample

open Auth (sampleTraffic sampleToken sampleRecord)

/-- The token of the sample login, signed with the key `secret`. -/
def sampleText : List Char :=
  "eyJhbGciOiJIUzI1NiIsInR5cCI6IkpXVCJ9".toList ++
    (".eyJzdWIiOiIweDdlNWY0NTUyMDkxYTY5MTI1ZDVkZmNi".toList ++
      ("N2I4YzI2NTkwMjkzOTViZGYiLCJpYXQiOjAsImV4cCI6ODY0MDB9".toList ++
        ".JgkN5G5kK38iIcKyzrjXXPjwdtDdO3KpGaKAPzFKGYg".toList))

/-- Any other token is written as its three numbers. -/
def numbers (token : AccessToken) : List Char :=
  Nat.toDigits 10 token.sub.toNat ++
    '.' :: (Nat.toDigits 10 token.iat ++ '.' :: Nat.toDigits 10 token.exp)

def readNumber (text : List Char) : Nat × List Char :=
  (Nat.ofDigitChars 10 (text.takeWhile Char.isDigit) 0, (text.dropWhile Char.isDigit).drop 1)

def readNumbers (text : List Char) : AccessToken :=
  let (sub, rest) := readNumber text
  let (iat, rest) := readNumber rest
  let (exp, _) := readNumber rest
  { sub := BitVec.ofNat 160 sub, iat := iat, exp := exp }

def sampleJwt : Jwt where
  encode token := if token = sampleToken then sampleText else numbers token
  decode seconds text :=
    let token := if text = sampleText then sampleToken else readNumbers text
    if seconds ≤ token.exp then some token else none

theorem isDigit_of_mem {number : Nat} {letter : Char}
    (member : letter ∈ Nat.toDigits 10 number) : letter.isDigit = true :=
  Nat.isDigit_of_mem_toDigits (by decide) (by decide) member

theorem readNumber_point (number : Nat) (rest : List Char) :
    readNumber (Nat.toDigits 10 number ++ '.' :: rest) = (number, rest) := by
  have digits : ∀ letter ∈ Nat.toDigits 10 number, letter.isDigit = true :=
    fun _ member => isDigit_of_mem member
  have point : ('.' : Char).isDigit = false := by decide
  unfold readNumber
  rw [List.takeWhile_append_of_pos digits, List.dropWhile_append_of_pos digits,
    List.takeWhile_cons, List.dropWhile_cons]
  simp only [point, Bool.false_eq_true, if_false, List.append_nil, List.drop_one, List.tail_cons,
    Nat.ofDigitChars_toDigits (by decide : 1 < 10) (by decide : 10 ≤ 10)]

theorem readNumber_end (number : Nat) : (readNumber (Nat.toDigits 10 number)).1 = number := by
  have digits : ∀ letter ∈ Nat.toDigits 10 number, letter.isDigit = true :=
    fun _ member => isDigit_of_mem member
  unfold readNumber
  rw [List.takeWhile_eq_self_iff.mpr digits]
  exact Nat.ofDigitChars_toDigits (by decide) (by decide)

theorem readNumbers_numbers (token : AccessToken) : readNumbers (numbers token) = token := by
  unfold readNumbers numbers
  simp only [readNumber_point, readNumber_end, BitVec.ofNat_toNat, BitVec.setWidth_eq]

theorem isSpace_of_isDigit {letter : Char} (digit : letter.isDigit = true) :
    isSpace letter = false := by
  have bounds := toNat_of_isDigit digit
  have notBlank : letter ≠ ' ' := by
    rintro rfl
    revert bounds
    decide
  simp only [isSpace, notBlank, decide_false, Bool.false_or, Bool.or_eq_false_iff,
    Bool.and_eq_false_iff, decide_eq_false_iff_not]
  omega

theorem sampleText_plain : ∀ letter ∈ sampleText, isSpace letter = false := by
  have plain : sampleText.all (fun letter => !isSpace letter) = true := by decide +kernel
  intro letter member
  have shown := List.all_eq_true.mp plain letter member
  rw [Bool.not_eq_true'] at shown
  exact shown

theorem numbers_plain (token : AccessToken) :
    ∀ letter ∈ numbers token, isSpace letter = false := by
  intro letter member
  unfold numbers at member
  simp only [List.mem_append, List.mem_cons] at member
  rcases member with sub | rfl | iat | rfl | exp
  · exact isSpace_of_isDigit (isDigit_of_mem sub)
  · decide
  · exact isSpace_of_isDigit (isDigit_of_mem iat)
  · decide
  · exact isSpace_of_isDigit (isDigit_of_mem exp)

/-- The sample's text starts with a letter, the numbers with a digit. -/
theorem numbers_ne_sampleText (token : AccessToken) : numbers token ≠ sampleText := by
  intro same
  have first : (numbers token).head? = some 'e' := by
    rw [same]
    decide +kernel
  unfold numbers at first
  rw [List.head?_append_of_ne_nil _ Nat.toDigits_ne_nil] at first
  have digit := isDigit_of_mem (List.mem_of_mem_head? first)
  revert digit
  decide

theorem sampleJwt_documented : sampleJwt.Documented where
  accepts := by
    intro token seconds valid
    by_cases same : token = sampleToken
    · subst same
      simp only [sampleJwt, if_true, valid]
    · simp only [sampleJwt, if_neg same, if_neg (numbers_ne_sampleText token),
        readNumbers_numbers, if_pos valid]
  expires := by
    intro text seconds token decoded
    simp only [sampleJwt, Option.ite_none_right_eq_some, Option.some.injEq] at decoded
    obtain ⟨valid, rfl⟩ := decoded
    exact valid
  compact := by
    intro token
    simp only [sampleJwt]
    split
    · exact stripped_of_plain sampleText_plain
    · exact stripped_of_plain (numbers_plain token)

def samplePayload : CreateClaimRequest where
  policyId := 7
  declaredAmount := 500
  merkleRoot := none
  merkleSalt := none

def sampleHeader : Option (List Char) := some (bearer ++ sampleText)

/-- Two overlapping logins with one nonce, a claim, a list and a request without
a token. -/
def sampleRequests : List Request :=
  Auth.overlappingLogins.map Request.auth ++
    [.createClaim sampleHeader 2000000 samplePayload, .listMyClaims sampleHeader 3000000,
     .createClaim none 4000000 samplePayload]

theorem sample_unforged :
    ∀ step ∈ steps Auth.sampleService sampleTraffic sampleJwt sampleRequests,
      Unforged sampleJwt step := by
  have first : ∀ step ∈ steps Auth.sampleService sampleTraffic sampleJwt sampleRequests,
      ∀ presented ∈ step.call.token sampleJwt,
        step.before.auth.logins 0 = .granted sampleRecord presented.2 := by
    decide +kernel
  intro step member presented shown
  exact ⟨0, sampleRecord, first step member presented shown⟩

theorem rows_belong_to_signers_sample :
    (run Auth.sampleService sampleTraffic sampleJwt sampleRequests).db.claims.length = 1 ∧
      Accounted Auth.sampleService sampleTraffic sampleJwt
        (run Auth.sampleService sampleTraffic sampleJwt sampleRequests)
        (steps Auth.sampleService sampleTraffic sampleJwt sampleRequests) :=
  ⟨by decide +kernel,
    (rows_belong_to_signers Auth.sampleService sampleTraffic sampleJwt sampleJwt_documented
      sampleRequests sample_unforged).1⟩

end Sample

end Sessions

end Dics.Backend
