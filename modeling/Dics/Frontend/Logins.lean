/-
Logging in from the browser.

The page asks for a nonce, lets the wallet sign the message that comes with it
and posts the signature.  Meanwhile the backend is busy with the requests of
everyone else.  What happens to one address depends on the requests about that
address alone, so a login that nobody repeats under the same address ends with a
token, and the other routes accept it until it expires.
-/

import Dics.Backend.Sessions

open Transactions

namespace Dics.Frontend

open Backend.Auth (Service Traffic System Action Table WalletNonce NoncePhase LoginPhase
  Signature WalletLoginRequest AccessToken buildLoginMessage generateNonceStep loginWalletStep
  storeNonce readRecord consumeNonce answerLogin createAccessToken microseconds nonceTtlMinutes
  assigned)
open Backend.Sessions (Jwt getCurrentAddress bearer)

/-! ### The page -/

/-- What an `await` throws: the `detail` of the response, where there is one, and
the message. -/
structure Failure where
  detail : Option String
  message : Option String

/-- `err?.response?.data?.detail || err?.message || 'Login failed.'`; an empty
text counts as none. -/
def Failure.text (failure : Failure) : String :=
  ((failure.detail.filter (· ≠ "")).orElse fun _ => failure.message.filter (· ≠ "")).getD
    "Login failed."

/-- What `useWallet` gives.  `connect` answers `null` without an extension and when
the user declines; an extension signs with hexadecimal texts only. -/
structure Wallet where
  account : Option Address
  connect : Option Address
  signMessage : String → Except Failure Signature

structure Session where
  token : Option (List Char)
  loginError : Option String
  loggingIn : Bool
  deriving DecidableEq

/-- What the awaited requests have answered: nothing yet, an error or a value. -/
abbrev Awaited := ExceptT Failure Option

/-- The body of the `try` in `login`. -/
def attemptLogin (wallet : Wallet) (getNonce : Address → Awaited String)
    (loginWallet : WalletLoginRequest → Awaited (List Char)) : Awaited (List Char) := do
  match wallet.account.orElse fun _ => wallet.connect with
  | none => throw { detail := none, message := some "Wallet not connected." }
  | some address =>
      let message ← getNonce address
      let signature ← ExceptT.mk (some (wallet.signMessage message))
      loginWallet { address, signature }

def login (wallet : Wallet) (getNonce : Address → Awaited String)
    (loginWallet : WalletLoginRequest → Awaited (List Char)) (session : Session) : Session :=
  match (attemptLogin wallet getNonce loginWallet).run with
  | none =>
      { session with
        loginError := none
        loggingIn := true }
  | some (.error failure) =>
      { token := none, loginError := some failure.text, loggingIn := false }
  | some (.ok token) => { token := some token, loginError := none, loggingIn := false }

/-! ### The answers of the backend -/

def nonceAnswer (service : Service) : NoncePhase → Awaited String
  | .served nonce => pure (buildLoginMessage service nonce)
  | .failed =>
      throw { detail := none, message := some "Request failed with status code 500" }
  | _ => ExceptT.mk none

def loginAnswer (jwt : Jwt) : LoginPhase → Awaited (List Char)
  | .granted _ token => pure (jwt.encode token)
  | .unauthorized _ =>
      throw
        { detail := some "Invalid signature or nonce expired/already used"
          message := some "Request failed with status code 401" }
  | .failed =>
      throw { detail := none, message := some "Request failed with status code 500" }
  | _ => ExceptT.mk none

/-- The page, with what the backend has answered by now if the page's requests are
those with the numbers `asking` and `posting`. -/
def pageLogin (service : Service) (traffic : Traffic) (jwt : Jwt) (wallet : Wallet)
    (asking posting : Nat) (system : System) (session : Session) : Session :=
  login wallet
    (fun address =>
      if traffic.nonceRequests asking = address then nonceAnswer service (system.nonces asking)
      else ExceptT.mk none)
    (fun request =>
      if (traffic.loginRequests posting).address = request.address ∧
          (traffic.loginRequests posting).signature = request.signature then
        loginAnswer jwt (system.logins posting)
      else ExceptT.mk none)
    session

/-! ### Requests about one address -/

def concerns (traffic : Traffic) : Action → Address
  | .getNonce index _ _ => traffic.nonceRequests index
  | .loginWallet index _ => (traffic.loginRequests index).address

def about (traffic : Traffic) (address : Address) (action : Action) : Bool :=
  decide (concerns traffic action = address)

/-- What the backend holds of one address and of two requests about it. -/
structure View where
  row : Option WalletNonce
  nonce : NoncePhase
  login : LoginPhase

def viewOf (address : Address) (asking posting : Nat) (system : System) : View where
  row := system.table address
  nonce := system.nonces asking
  login := system.logins posting

/-- A step of one of the two requests, where there is no row but the one. -/
def View.step (service : Service) (request : WalletLoginRequest) (view : View) : Action → View
  | .getNonce _ now drawn =>
      let stepped := generateNonceStep request.address now drawn (fun _ => view.row) view.nonce
      { view with
        row := stepped.1 request.address
        nonce := stepped.2 }
  | .loginWallet _ now =>
      let stepped := loginWalletStep service request now (fun _ => view.row) view.login
      { view with
        row := stepped.1 request.address
        login := stepped.2 }

def ofRequests (asking posting : Nat) : Action → Prop
  | .getNonce index _ _ => index = asking
  | .loginWallet index _ => index = posting

section Views

variable {service : Service} {traffic : Traffic} {table other : Table}

theorem update_agrees (table other : Table) (address : Address) (row : Option WalletNonce) :
    Function.update table address row address = Function.update other address row address := by
  rw [Function.update_self, Function.update_self]

theorem storeNonce_congr {address : Address} (same : table address = other address)
    (existing : Option WalletNonce) (nonce : String) (expiresAt : Nat) :
    (storeNonce address existing nonce expiresAt table).2 =
        (storeNonce address existing nonce expiresAt other).2 ∧
      (storeNonce address existing nonce expiresAt table).1 address =
        (storeNonce address existing nonce expiresAt other).1 address := by
  unfold storeNonce
  rw [← same]
  cases existing with
  | none =>
      cases row : table address with
      | none => exact ⟨rfl, update_agrees table other address _⟩
      | some current => exact ⟨rfl, same⟩
  | some record =>
      cases row : table address with
      | none => exact ⟨rfl, same⟩
      | some current => exact ⟨rfl, update_agrees table other address _⟩

theorem generateNonceStep_congr {address : Address} (same : table address = other address)
    (now : Nat) (drawn : String) (phase : NoncePhase) :
    (generateNonceStep address now drawn table phase).2 =
        (generateNonceStep address now drawn other phase).2 ∧
      (generateNonceStep address now drawn table phase).1 address =
        (generateNonceStep address now drawn other phase).1 address := by
  cases phase with
  | received =>
      refine ⟨?_, same⟩
      rw [generateNonceStep, generateNonceStep, same]
  | read existing nonce expiresAt => exact storeNonce_congr same existing nonce expiresAt
  | served nonce => exact ⟨rfl, same⟩
  | failed => exact ⟨rfl, same⟩

theorem generateNonceStep_frame {address asked : Address} (different : address ≠ asked)
    (now : Nat) (drawn : String) (phase : NoncePhase) :
    (generateNonceStep asked now drawn table phase).1 address = table address := by
  cases phase with
  | read existing nonce expiresAt =>
      rw [generateNonceStep]
      unfold storeNonce
      split
      · exact Function.update_of_ne different _ _
      · exact Function.update_of_ne different _ _
      · rfl
  | received => rfl
  | served nonce => rfl
  | failed => rfl

theorem consumeNonce_congr {address : Address} (same : table address = other address)
    (record : WalletNonce) (signer : Option Address) :
    (consumeNonce address record signer table).2 = (consumeNonce address record signer other).2 ∧
      (consumeNonce address record signer table).1 address =
        (consumeNonce address record signer other).1 address := by
  unfold consumeNonce
  rw [← same]
  cases row : table address with
  | none => exact ⟨rfl, same⟩
  | some current => exact ⟨rfl, update_agrees table other address _⟩

theorem loginWalletStep_congr {request : WalletLoginRequest}
    (same : table request.address = other request.address) (now : Nat) (phase : LoginPhase) :
    (loginWalletStep service request now table phase).2 =
        (loginWalletStep service request now other phase).2 ∧
      (loginWalletStep service request now table phase).1 request.address =
        (loginWalletStep service request now other phase).1 request.address := by
  cases phase with
  | received =>
      refine ⟨?_, same⟩
      rw [loginWalletStep, loginWalletStep, readRecord, readRecord, same]
  | recovered record signer => exact consumeNonce_congr same record signer
  | read record => exact ⟨rfl, same⟩
  | committed record signer => exact ⟨rfl, same⟩
  | granted record token => exact ⟨rfl, same⟩
  | unauthorized record => exact ⟨rfl, same⟩
  | failed => exact ⟨rfl, same⟩

theorem loginWalletStep_frame {address : Address} {request : WalletLoginRequest}
    (different : address ≠ request.address) (now : Nat) (phase : LoginPhase) :
    (loginWalletStep service request now table phase).1 address = table address := by
  cases phase with
  | recovered record signer =>
      rw [loginWalletStep, consumeNonce]
      split
      · exact Function.update_of_ne different _ _
      · rfl
  | received => rfl
  | read record => rfl
  | committed record signer => rfl
  | granted record token => rfl
  | unauthorized record => rfl
  | failed => rfl

variable {system : System} {request : WalletLoginRequest} {asking posting : Nat}
variable (asked : traffic.nonceRequests asking = request.address)
variable (posted : traffic.loginRequests posting = request)

include asked posted

theorem viewOf_foreign {action : Action} (foreign : concerns traffic action ≠ request.address) :
    viewOf request.address asking posting (system.step service traffic action) =
      viewOf request.address asking posting system := by
  cases action with
  | getNonce index now drawn =>
      have another : asking ≠ index := by
        intro same
        subst same
        exact foreign asked
      have frame := @generateNonceStep_frame system.table request.address
        (traffic.nonceRequests index) (Ne.symm foreign) now drawn (system.nonces index)
      unfold viewOf System.step
      simp only [Function.update_of_ne another, frame]
  | loginWallet index now =>
      have another : posting ≠ index := by
        intro same
        subst same
        exact foreign (congrArg WalletLoginRequest.address posted)
      have frame := @loginWalletStep_frame service system.table request.address
        (traffic.loginRequests index) (Ne.symm foreign) now (system.logins index)
      unfold viewOf System.step
      simp only [Function.update_of_ne another, frame]

/-- A step of one of the two requests happens as if there were no other row. -/
theorem viewOf_own {action : Action} (own : ofRequests asking posting action) :
    viewOf request.address asking posting (system.step service traffic action) =
      (viewOf request.address asking posting system).step service request action := by
  cases action with
  | getNonce index now drawn =>
      cases own
      have alone := @generateNonceStep_congr system.table (fun _ => system.table request.address)
        request.address rfl now drawn (system.nonces asking)
      unfold viewOf View.step System.step
      simp only [Function.update_self, asked, alone.1, alone.2]
  | loginWallet index now =>
      cases own
      have alone := @loginWalletStep_congr service system.table
        (fun _ => system.table request.address) request rfl now (system.logins posting)
      unfold viewOf View.step System.step
      simp only [Function.update_self, posted, alone.1, alone.2]

/-- The steps about other addresses can be left out. -/
theorem viewOf_run (actions : List Action)
    (own : ∀ action ∈ actions, concerns traffic action = request.address →
      ofRequests asking posting action) :
    viewOf request.address asking posting
        (Transactions.run (Backend.Auth.exec service traffic) system actions) =
      (actions.filter (about traffic request.address)).foldl (View.step service request)
        (viewOf request.address asking posting system) := by
  induction actions generalizing system with
  | nil => rfl
  | cons action rest ih =>
      have later := @ih (system.step service traffic action)
        fun action member => own action (List.mem_cons_of_mem _ member)
      show viewOf request.address asking posting (Transactions.run
        (Backend.Auth.exec service traffic) (system.step service traffic action) rest) = _
      rw [later]
      by_cases mine : concerns traffic action = request.address
      · have kept : about traffic request.address action = true := decide_eq_true mine
        rw [List.filter_cons, if_pos kept, List.foldl_cons,
          viewOf_own asked posted (own action List.mem_cons_self mine)]
      · have dropped : ¬about traffic request.address action = true := by
          rw [about, decide_eq_false mine]
          exact Bool.false_ne_true
        rw [List.filter_cons, if_neg dropped, viewOf_foreign asked posted mine]

end Views

/-! ### A login that is not repeated -/

def loginSteps (asking posting : Nat) (drawn spare : String)
    (asked stored read recovered consumed answered : Nat) : List Action :=
  [.getNonce asking asked drawn, .getNonce asking stored spare, .loginWallet posting read,
    .loginWallet posting recovered, .loginWallet posting consumed, .loginWallet posting answered]

def freshRecord (drawn : String) (asked : Nat) : WalletNonce where
  nonce := drawn
  expiresAt := asked + microseconds (nonceTtlMinutes * 60)
  used := false

section Alone

variable {service : Service} {request : WalletLoginRequest}

theorem assigned_current {Value : Type} [DecidableEq Value] (read value : Value) :
    assigned read value read = value := by
  unfold assigned
  split
  · rename_i same
    exact same.symm
  · rfl

/-- A nonce request whose row nobody touches replaces all of it. -/
theorem nonce_alone (view : View) (asking asked stored : Nat) (drawn spare : String)
    (received : view.nonce = .received) :
    (view.step service request (.getNonce asking asked drawn)).step service request
        (.getNonce asking stored spare) =
      { view with
        row := some (freshRecord drawn asked)
        nonce := .served drawn } := by
  obtain ⟨row, nonce, login⟩ := view
  cases received
  cases row with
  | none =>
      simp only [View.step, generateNonceStep, storeNonce, Function.update_self]
      rfl
  | some record =>
      simp only [View.step, generateNonceStep, storeNonce, Function.update_self,
        assigned_current]
      rfl

theorem login_alone (view : View) (posting read recovered consumed answered : Nat)
    {record : WalletNonce} (received : view.login = .received) (found : view.row = some record)
    (unused : record.used = false) (timely : read ≤ record.expiresAt)
    (signed : service.recoverMessage (buildLoginMessage service record.nonce)
      request.signature.text = some request.address) :
    ([.loginWallet posting read, .loginWallet posting recovered, .loginWallet posting consumed,
        .loginWallet posting answered].foldl (View.step service request) view).login =
      .granted record (createAccessToken service request.address answered) := by
  obtain ⟨row, nonce, login⟩ := view
  cases received
  cases found
  have live : readRecord request.address read (fun _ => some record) = .read record := by
    simp only [readRecord, unused, Bool.false_eq_true, if_false, if_neg (Nat.not_lt.mpr timely)]
  simp only [List.foldl_cons, List.foldl_nil, View.step, loginWalletStep, live, signed,
    consumeNonce, answerLogin, if_true]

theorem login_steps_alone (view : View) {asking posting : Nat} {drawn spare : String}
    {asked stored read recovered consumed answered : Nat}
    (asksFirst : view.nonce = .received) (postsFirst : view.login = .received)
    (timely : read ≤ asked + microseconds (nonceTtlMinutes * 60))
    (signed : service.recoverMessage (buildLoginMessage service drawn)
      request.signature.text = some request.address) :
    let after := (loginSteps asking posting drawn spare asked stored read recovered consumed
      answered).foldl (View.step service request) view
    after.nonce = .served drawn ∧
      after.login = .granted (freshRecord drawn asked)
        (createAccessToken service request.address answered) := by
  have replaced := @nonce_alone service request view asking asked stored drawn spare asksFirst
  simp only [loginSteps]
  rw [List.foldl_cons, List.foldl_cons, replaced]
  refine ⟨rfl, ?_⟩
  exact login_alone _ posting read recovered consumed answered postsFirst rfl rfl timely signed

theorem ofRequests_of_mem {asking posting : Nat} {drawn spare : String}
    {asked stored read recovered consumed answered : Nat} {action : Action}
    (member : action ∈ loginSteps asking posting drawn spare asked stored read recovered consumed
      answered) : ofRequests asking posting action := by
  simp only [loginSteps, List.mem_cons, List.not_mem_nil, or_false] at member
  rcases member with rfl | rfl | rfl | rfl | rfl | rfl
  all_goals rfl

end Alone

/-- The wallet is connected, and it signs the message with the key of its account. -/
structure Wallet.Signs (wallet : Wallet) (service : Service) (account : Address)
    (message : String) : Prop where
  connected : (wallet.account.orElse fun _ => wallet.connect) = some account
  signs : ∃ signature, wallet.signMessage message = .ok signature ∧
    service.recoverMessage message signature.text = some account

theorem pageLogin_granted {service : Service} {traffic : Traffic} {jwt : Jwt} {wallet : Wallet}
    {account : Address} {asking posting : Nat} {system : System} {drawn : String}
    {signature : Signature}
    {record : WalletNonce} {token : AccessToken}
    (connected : (wallet.account.orElse fun _ => wallet.connect) = some account)
    (signed : wallet.signMessage (buildLoginMessage service drawn) = .ok signature)
    (asked : traffic.nonceRequests asking = account)
    (posted : traffic.loginRequests posting = { address := account, signature })
    (served : system.nonces asking = .served drawn)
    (granted : system.logins posting = .granted record token) (session : Session) :
    pageLogin service traffic jwt wallet asking posting system session =
      { token := some (jwt.encode token), loginError := none, loggingIn := false } := by
  have answer : attemptLogin wallet
      (fun address =>
        if traffic.nonceRequests asking = address then
          nonceAnswer service (system.nonces asking)
        else ExceptT.mk none)
      (fun request =>
        if (traffic.loginRequests posting).address = request.address ∧
            (traffic.loginRequests posting).signature = request.signature then
          loginAnswer jwt (system.logins posting)
        else ExceptT.mk none) = ExceptT.mk (some (.ok (jwt.encode token))) := by
    have atOnce : ExceptT.mk (some (wallet.signMessage (buildLoginMessage service
        drawn))) = (pure signature : Awaited Signature) := by
      rw [signed]
      rfl
    simp only [attemptLogin, connected, asked, posted, served, granted, if_true, nonceAnswer,
      loginAnswer, pure_bind, atOnce, and_self]
    rfl
  rw [pageLogin, login, answer]
  rfl

/-- From every state the backend can be in, a connected wallet's login that no
other request about the same address crosses, whatever else the backend does in
between, ends with a token, if the signature is posted within five minutes.  The
token lets its holder in as that address for as long as it is meant to. -/
theorem undisturbed_login_succeeds (service : Service) (traffic : Traffic) (jwt : Jwt)
    (documented : jwt.Documented) (wallet : Wallet) (account : Address)
    (earlier actions : List Action) (asking posting : Nat) (drawn spare : String)
    (signs : wallet.Signs service account (buildLoginMessage service drawn))
    (asked stored read recovered consumed answered : Nat)
    (asksFor : traffic.nonceRequests asking = account)
    (posts : ∀ signature, wallet.signMessage (buildLoginMessage service drawn) = .ok signature →
      traffic.loginRequests posting = { address := account, signature })
    (notAsked : (Backend.Auth.run service traffic earlier).nonces asking = .received)
    (notPosted : (Backend.Auth.run service traffic earlier).logins posting = .received)
    (alone : actions.filter (about traffic account) =
      loginSteps asking posting drawn spare asked stored read recovered consumed answered)
    (timely : read ≤ asked + microseconds (nonceTtlMinutes * 60)) (session : Session) :
    let token := createAccessToken service account answered
    pageLogin service traffic jwt wallet asking posting
        (Backend.Auth.run service traffic (earlier ++ actions)) session =
        { token := some (jwt.encode token), loginError := none, loggingIn := false } ∧
      ∀ now, now / 1000000 ≤ answered / 1000000 + service.jwtExpMinutes * 60 →
        getCurrentAddress jwt now (some (bearer ++ jwt.encode token)) = .ok account := by
  intro token
  obtain ⟨signature, signed, recovers⟩ := signs.signs
  have posted := posts signature signed
  refine ⟨?_, fun now valid => Backend.Sessions.getCurrentAddress_encode documented token valid⟩
  have own : ∀ action ∈ actions, concerns traffic action = account →
      ofRequests asking posting action := by
    intro action member mine
    have kept : action ∈ actions.filter (about traffic account) :=
      List.mem_filter.mpr ⟨member, decide_eq_true mine⟩
    rw [alone] at kept
    exact ofRequests_of_mem kept
  have seen := @viewOf_run service traffic (Backend.Auth.run service traffic earlier)
    { address := account, signature } asking posting asksFor posted actions own
  rw [alone] at seen
  have ended := @login_steps_alone service { address := account, signature }
    (viewOf account asking posting (Backend.Auth.run service traffic earlier)) asking posting
    drawn spare asked stored read recovered consumed answered notAsked notPosted timely recovers
  rw [← seen] at ended
  rw [Backend.Auth.run, run_append]
  exact pageLogin_granted signs.connected signed asksFor posted ended.1 ended.2 session

section Sample

open Backend.Auth (isSignature sampleAccount sampleNonce sampleMessage sampleSignature
  sampleService sampleRecord sampleToken)

/-- It connects when asked, and its user agrees to one message only. -/
def connectedWallet : Wallet where
  account := none
  connect := some sampleAccount
  signMessage := fun message =>
    if message = sampleMessage then .ok sampleSignature
    else .error { detail := none, message := some "Signature request was rejected." }

theorem isSignature_zeros : isSignature "0x00" = true := by decide

def loginTraffic : Traffic where
  nonceRequests := fun index => if index = 0 then sampleAccount else 0xB2
  loginRequests := fun index =>
    if index = 0 then { address := sampleAccount, signature := sampleSignature }
    else { address := 0xB2, signature := ⟨"0x00", isSignature_zeros⟩ }

def otherNonce : String := "f00d0a1b2c3d4e5f60718293a4b5c6d7"

/-- Someone else asks for a nonce and posts a bad signature meanwhile. -/
def crossedSteps : List Action :=
  [.getNonce 0 0 sampleNonce, .getNonce 1 0 otherNonce, .getNonce 1 1 "", .getNonce 0 2 "",
    .loginWallet 1 3, .loginWallet 0 4, .loginWallet 1 4, .loginWallet 0 5, .loginWallet 0 6,
    .loginWallet 1 7, .loginWallet 0 8, .loginWallet 1 9]

theorem sampleMessage_built : buildLoginMessage sampleService sampleNonce = sampleMessage := by
  decide +kernel

theorem connectedWallet_agrees :
    connectedWallet.signMessage sampleMessage = .ok sampleSignature := by
  simp only [connectedWallet, if_true]

theorem connectedWallet_signs :
    connectedWallet.Signs sampleService sampleAccount
      (buildLoginMessage sampleService sampleNonce) where
  connected := rfl
  signs := by
    rw [sampleMessage_built]
    exact ⟨sampleSignature, connectedWallet_agrees, by decide +kernel⟩

theorem undisturbed_login_succeeds_sample :
    pageLogin sampleService loginTraffic Backend.Sessions.sampleJwt connectedWallet 0 0
        (Backend.Auth.run sampleService loginTraffic ([] ++ crossedSteps))
        { token := none, loginError := some "Login failed.", loggingIn := false } =
        { token := some (Backend.Sessions.sampleJwt.encode sampleToken)
          loginError := none
          loggingIn := false } ∧
      (Backend.Auth.run sampleService loginTraffic crossedSteps).logins 1 =
        .unauthorized (some { nonce := otherNonce, expiresAt := 300000000, used := false }) := by
  refine ⟨?_, by decide +kernel⟩
  refine (undisturbed_login_succeeds sampleService loginTraffic Backend.Sessions.sampleJwt
    Backend.Sessions.sampleJwt_documented connectedWallet sampleAccount [] crossedSteps 0 0
    sampleNonce "" connectedWallet_signs 0 2 4 5 6 8 rfl ?_ rfl rfl ?_ ?_ _).1
  · intro signature signed
    rw [sampleMessage_built, connectedWallet_agrees] at signed
    rw [← Except.ok.inj signed]
    rfl
  · rfl
  · decide +kernel

end Sample

end Dics.Frontend
