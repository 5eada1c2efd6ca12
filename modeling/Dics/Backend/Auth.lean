/-
Wallet logins: `GET /auth/nonce` and `POST /auth/wallet`.

One row of `wallet_nonces` belongs to an address.  A nonce request reads it and
then writes a new nonce over it; a login reads it, recovers the signer, commits
`used = True` and answers.  The steps of all requests interleave, and nothing
ties a login's commit to the row it has read.
-/

import Dics.Chain.Basic
import Dics.Lib.Texts
import Dics.Lib.Transactions
import Mathlib.Data.BitVec

open Transactions Texts

namespace Dics.Backend.Auth

/-! ### The table -/

structure WalletNonce where
  nonce : String
  expiresAt : Nat
  used : Bool
  deriving DecidableEq

/-- `wallet_nonces`, by its primary key. -/
abbrev Table := Address → Option WalletNonce

/-- The settings the handlers read, and `Account.recover_message`: the signer of
a text, or `none` where the library raises. -/
structure Service where
  loginMessagePrefix : String
  jwtExpMinutes : Nat
  recoverMessage : String → String → Option Address

def nonceTtlMinutes : Nat := 5

/-- Times are in microseconds, the resolution of a `datetime`. -/
def microseconds (seconds : Nat) : Nat := seconds * 1000000

def buildLoginMessage (service : Service) (nonce : String) : String :=
  service.loginMessagePrefix ++ " " ++ nonce

/-! ### `generate_nonce` -/

inductive NoncePhase where
  | received
  | read (existing : Option WalletNonce) (nonce : String) (expiresAt : Nat)
  | served (nonce : String)
  | failed

/-- What a column holds after a commit of `value`: one that is assigned what it
was read with stays out of the `UPDATE`. -/
def assigned {Value : Type} [DecidableEq Value] (read value current : Value) : Value :=
  if value = read then current else value

/-- The commit of `generate_nonce`: an `UPDATE` of the row it has read, or an
`INSERT`, which fails on a row that has appeared since. -/
def storeNonce (address : Address) (existing : Option WalletNonce) (nonce : String)
    (expiresAt : Nat) (table : Table) : Table × NoncePhase :=
  match existing, table address with
  | some record, some row =>
      (Function.update table address (some
        { nonce := assigned record.nonce nonce row.nonce
          expiresAt := assigned record.expiresAt expiresAt row.expiresAt
          used := assigned record.used false row.used }), .served nonce)
  | none, none =>
      (Function.update table address (some { nonce, expiresAt, used := false }), .served nonce)
  | _, _ => (table, .failed)

def generateNonceStep (address : Address) (now : Nat) (drawn : String) (table : Table) :
    NoncePhase → Table × NoncePhase
  | .received =>
      (table, .read (table address) drawn (now + microseconds (nonceTtlMinutes * 60)))
  | .read existing nonce expiresAt => storeNonce address existing nonce expiresAt table
  | phase => (table, phase)

/-! ### `verify_signature_and_consume_nonce` and `login_wallet` -/

/-- The pattern `^0x[a-fA-F0-9]+$`. -/
def isSignature (text : String) : Bool :=
  match text.toList with
  | '0' :: 'x' :: digits =>
      decide (digits ≠ []) && digits.all fun letter => (hexDigit letter).isSome
  | _ => false

structure Signature where
  text : String
  pattern : isSignature text = true
  deriving DecidableEq

/-- A body with any other signature is answered 422 before the handler is called. -/
structure WalletLoginRequest where
  address : Address
  signature : Signature

structure AccessToken where
  sub : Address
  iat : Nat
  exp : Nat
  deriving DecidableEq

def createAccessToken (service : Service) (address : Address) (now : Nat) : AccessToken :=
  { sub := address
    iat := now / 1000000
    exp := now / 1000000 + service.jwtExpMinutes * 60 }

/-- `unauthorized` is the answer 401, with the record if the nonce was used up. -/
inductive LoginPhase where
  | received
  | read (record : WalletNonce)
  | recovered (record : WalletNonce) (signer : Option Address)
  | committed (record : WalletNonce) (signer : Option Address)
  | granted (record : WalletNonce) (token : AccessToken)
  | unauthorized (record : Option WalletNonce)
  | failed
  deriving DecidableEq

def readRecord (address : Address) (now : Nat) (table : Table) : LoginPhase :=
  match table address with
  | none => .unauthorized none
  | some record =>
      if record.used = true then .unauthorized none
      else if record.expiresAt < now then .unauthorized none
      else .read record

def consumeNonce (address : Address) (record : WalletNonce) (signer : Option Address)
    (table : Table) : Table × LoginPhase :=
  match table address with
  | some row =>
      (Function.update table address (some { row with used := true }), .committed record signer)
  | none => (table, .failed)

def answerLogin (service : Service) (request : WalletLoginRequest) (now : Nat)
    (record : WalletNonce) (signer : Option Address) : LoginPhase :=
  if signer = some request.address then
    .granted record (createAccessToken service request.address now)
  else .unauthorized (some record)

def loginWalletStep (service : Service) (request : WalletLoginRequest) (now : Nat)
    (table : Table) : LoginPhase → Table × LoginPhase
  | .received => (table, readRecord request.address now table)
  | .read record =>
      (table, .recovered record
        (service.recoverMessage (buildLoginMessage service record.nonce) request.signature.text))
  | .recovered record signer => consumeNonce request.address record signer table
  | .committed record signer => (table, answerLogin service request now record signer)
  | phase => (table, phase)

/-! ### Interleaved requests -/

/-- Who asks for nonces and who logs in, by request number. -/
structure Traffic where
  nonceRequests : Nat → Address
  loginRequests : Nat → WalletLoginRequest

structure System where
  table : Table
  nonces : Nat → NoncePhase
  logins : Nat → LoginPhase

/-- The next step of one request, at some time; `drawn` is what `token_hex`
gives, should the step need it. -/
inductive Action where
  | getNonce (index now : Nat) (drawn : String)
  | loginWallet (index now : Nat)

def System.step (service : Service) (traffic : Traffic) (system : System) : Action → System
  | .getNonce index now drawn =>
      let stepped := generateNonceStep (traffic.nonceRequests index) now drawn system.table
        (system.nonces index)
      { system with
        table := stepped.1
        nonces := Function.update system.nonces index stepped.2 }
  | .loginWallet index now =>
      let stepped := loginWalletStep service (traffic.loginRequests index) now system.table
        (system.logins index)
      { system with
        table := stepped.1
        logins := Function.update system.logins index stepped.2 }

def exec (service : Service) (traffic : Traffic) (system : System) (action : Action) :
    Except Empty (System × Unit) :=
  .ok (system.step service traffic action, ())

def System.start : System :=
  { table := fun _ => none, nonces := fun _ => .received, logins := fun _ => .received }

def run (service : Service) (traffic : Traffic) (actions : List Action) : System :=
  Transactions.run (exec service traffic) System.start actions

abbrev Step := Transactions.Commit System Action Unit

def steps (service : Service) (traffic : Traffic) (actions : List Action) : List Step :=
  Transactions.history (exec service traffic) System.start actions

/-! ### What is issued, signed and used up -/

def IssuedFor (traffic : Traffic) (system : System) (address : Address) (nonce : String) :
    Prop :=
  ∃ index, traffic.nonceRequests index = address ∧ system.nonces index = .served nonce

/-- The key of the request's address has signed the login message. -/
def Signed (service : Service) (request : WalletLoginRequest) (nonce : String) : Prop :=
  service.recoverMessage (buildLoginMessage service nonce) request.signature.text =
    some request.address

def LoginPhase.held : LoginPhase → Option String
  | .read record => some record.nonce
  | .recovered record _ => some record.nonce
  | _ => none

def LoginPhase.spent : LoginPhase → Option String
  | .committed record _ => some record.nonce
  | .granted record _ => some record.nonce
  | .unauthorized record => record.map WalletNonce.nonce
  | _ => none

def Consumed (system : System) (nonce : String) : Prop :=
  ∃ index, (system.logins index).spent = some nonce

/-- A step that leaves the nonces single-use: a drawn nonce is a new one, and a
login commits only while no other login with a good signature still holds the
nonce it has read. -/
def Orderly (service : Service) (traffic : Traffic) (system : System) : Action → Prop
  | .getNonce index _ _ => ∀ existing nonce expiresAt,
      system.nonces index = .read existing nonce expiresAt →
      ∀ other, system.nonces other ≠ .served nonce
  | .loginWallet index _ => ∀ record signer, system.logins index = .recovered record signer →
      ∀ other, other ≠ index → (system.logins other).held = some record.nonce →
      ¬Signed service (traffic.loginRequests other) record.nonce

/-- What every orderly run keeps.  `unspent` is the heart of it: a login that
holds a nonce with a good signature is ahead of every other login's commit. -/
structure Sound (service : Service) (traffic : Traffic) (system : System) : Prop where
  servedOnce : ∀ first second nonce, system.nonces first = .served nonce →
    system.nonces second = .served nonce → first = second
  existing : ∀ index record nonce expiresAt,
    system.nonces index = .read (some record) nonce expiresAt →
    IssuedFor traffic system (traffic.nonceRequests index) record.nonce
  stored : ∀ address row, system.table address = some row →
    IssuedFor traffic system address row.nonce
  unused : ∀ address row, system.table address = some row → row.used = false →
    ¬Consumed system row.nonce
  issued : ∀ index nonce,
    (system.logins index).held = some nonce ∨ (system.logins index).spent = some nonce →
    IssuedFor traffic system (traffic.loginRequests index).address nonce
  unspent : ∀ index nonce, (system.logins index).held = some nonce →
    Signed service (traffic.loginRequests index) nonce → ¬Consumed system nonce
  once : ∀ first second nonce, (system.logins first).spent = some nonce →
    (system.logins second).spent = some nonce →
    Signed service (traffic.loginRequests first) nonce →
    Signed service (traffic.loginRequests second) nonce → first = second
  signer : ∀ index record signer,
    system.logins index = .recovered record signer ∨
      system.logins index = .committed record signer →
    signer = service.recoverMessage (buildLoginMessage service record.nonce)
      (traffic.loginRequests index).signature.text
  granted : ∀ index record token, system.logins index = .granted record token →
    Signed service (traffic.loginRequests index) record.nonce ∧
      token.sub = (traffic.loginRequests index).address

section Steps

variable {service : Service} {traffic : Traffic} {system : System}

theorem sound_start : Sound service traffic System.start where
  servedOnce := by
    intro first second nonce served
    cases served
  existing := by
    intro index record nonce expiresAt loaded
    cases loaded
  stored := by
    intro address row found
    cases found
  unused := by
    intro address row found
    cases found
  issued := by
    intro index nonce here
    rcases here with here | here
    · cases here
    · cases here
  unspent := by
    intro index nonce here
    cases here
  once := by
    intro first second nonce here
    cases here
  signer := by
    intro index record signer here
    rcases here with here | here
    · cases here
    · cases here
  granted := by
    intro index record token here
    cases here

theorem Sound.address_eq (sound : Sound service traffic system) {first second : Address}
    {nonce : String} (here : IssuedFor traffic system first nonce)
    (there : IssuedFor traffic system second nonce) : first = second := by
  obtain ⟨index, asked, served⟩ := here
  obtain ⟨other, askedToo, servedToo⟩ := there
  have same := sound.servedOnce index other nonce served servedToo
  rw [← asked, ← askedToo, same]

/-- What a value read after an update has come from. -/
theorem update_cases {Key Value : Type} [DecidableEq Key] {values : Key → Value}
    {key other : Key} {value found : Value}
    (here : Function.update values key value other = found) :
    (other = key ∧ value = found) ∨ (other ≠ key ∧ values other = found) := by
  by_cases same : other = key
  · rw [same, Function.update_self] at here
    exact Or.inl ⟨same, here⟩
  · rw [Function.update_of_ne same] at here
    exact Or.inr ⟨same, here⟩

/-! ### Nonce requests -/

def System.withNonce (system : System) (index : Nat) (table : Table) (phase : NoncePhase) :
    System :=
  { system with table, nonces := Function.update system.nonces index phase }

theorem withNonce_self (index : Nat) :
    system.withNonce index system.table (system.nonces index) = system := by
  rw [System.withNonce, Function.update_eq_self]

/-- A served nonce stays served. -/
theorem IssuedFor.withNonce {address : Address} {nonce : String} {index : Nat} {table : Table}
    {phase : NoncePhase} (issued : IssuedFor traffic system address nonce)
    (pending : ∀ served, system.nonces index ≠ .served served) :
    IssuedFor traffic (system.withNonce index table phase) address nonce := by
  obtain ⟨other, asked, served⟩ := issued
  refine ⟨other, asked, ?_⟩
  have different : other ≠ index := by
    intro same
    rw [same] at served
    exact pending nonce served
  exact (Function.update_of_ne different phase system.nonces).trans served

/-- A nonce request that moves without writing. -/
theorem Sound.nonceMoved (sound : Sound service traffic system) {index : Nat}
    {phase : NoncePhase} (pending : ∀ served, system.nonces index ≠ .served served)
    (unserved : ∀ served, phase ≠ .served served)
    (loaded : ∀ record nonce expiresAt, phase = .read (some record) nonce expiresAt →
      IssuedFor traffic system (traffic.nonceRequests index) record.nonce) :
    Sound service traffic (system.withNonce index system.table phase) where
  servedOnce := by
    intro first second nonce served servedToo
    rcases update_cases served with ⟨_, here⟩ | ⟨_, before⟩
    · exact absurd here (unserved nonce)
    · rcases update_cases servedToo with ⟨_, here⟩ | ⟨_, beforeToo⟩
      · exact absurd here (unserved nonce)
      · exact sound.servedOnce first second nonce before beforeToo
  existing := by
    intro other record nonce expiresAt read
    rcases update_cases read with ⟨same, here⟩ | ⟨_, before⟩
    · rw [same]
      exact (loaded record nonce expiresAt here).withNonce pending
    · exact (sound.existing other record nonce expiresAt before).withNonce pending
  stored := fun address row found => (sound.stored address row found).withNonce pending
  unused := sound.unused
  issued := fun other nonce here => (sound.issued other nonce here).withNonce pending
  unspent := sound.unspent
  once := sound.once
  signer := sound.signer
  granted := sound.granted

/-- A new nonce goes into the row of its address, whatever the row's other
columns come to hold. -/
theorem Sound.served (sound : Sound service traffic system) {index : Nat} {nonce : String}
    {row : WalletNonce} (pending : ∀ served, system.nonces index ≠ .served served)
    (fresh : ∀ other, system.nonces other ≠ .served nonce) (holds : row.nonce = nonce) :
    Sound service traffic (system.withNonce index
      (Function.update system.table (traffic.nonceRequests index) (some row))
      (.served nonce)) where
  servedOnce := by
    intro first second other served servedToo
    rcases update_cases served with ⟨firstSame, here⟩ | ⟨_, before⟩
    · cases here
      rcases update_cases servedToo with ⟨secondSame, _⟩ | ⟨_, beforeToo⟩
      · rw [firstSame, secondSame]
      · exact absurd beforeToo (fresh second)
    · rcases update_cases servedToo with ⟨_, here⟩ | ⟨_, beforeToo⟩
      · cases here
        exact absurd before (fresh first)
      · exact sound.servedOnce first second other before beforeToo
  existing := by
    intro other record drawn expiresAt read
    rcases update_cases read with ⟨_, here⟩ | ⟨_, before⟩
    · cases here
    · exact (sound.existing other record drawn expiresAt before).withNonce pending
  stored := by
    intro address found lookup
    rcases update_cases lookup with ⟨same, here⟩ | ⟨_, before⟩
    · cases here
      rw [same, holds]
      exact ⟨index, rfl, Function.update_self ..⟩
    · exact (sound.stored address found before).withNonce pending
  unused := by
    intro address found lookup unmarked used
    rcases update_cases lookup with ⟨_, here⟩ | ⟨_, before⟩
    · cases here
      obtain ⟨login, spent⟩ := used
      obtain ⟨other, _, served⟩ := sound.issued login row.nonce (Or.inr spent)
      rw [holds] at served
      exact fresh other served
    · exact sound.unused address found before unmarked used
  issued := fun other used here => (sound.issued other used here).withNonce pending
  unspent := sound.unspent
  once := sound.once
  signer := sound.signer
  granted := sound.granted

/-- The commit of a nonce request, which leaves its column `nonce` new. -/
theorem sound_storeNonce (sound : Sound service traffic system) {index : Nat}
    {existing : Option WalletNonce} {nonce : String} {expiresAt : Nat}
    (stands : system.nonces index = .read existing nonce expiresAt)
    (fresh : ∀ other, system.nonces other ≠ .served nonce) :
    Sound service traffic (system.withNonce index
      (storeNonce (traffic.nonceRequests index) existing nonce expiresAt system.table).1
      (storeNonce (traffic.nonceRequests index) existing nonce expiresAt system.table).2) := by
  have pending : ∀ served, system.nonces index ≠ .served served := by
    intro served here
    rw [stands] at here
    cases here
  have stopped : Sound service traffic (system.withNonce index system.table .failed) :=
    sound.nonceMoved pending (fun _ here => by cases here) (fun _ _ _ here => by cases here)
  unfold storeNonce
  cases existing with
  | none =>
      cases system.table (traffic.nonceRequests index) with
      | none => exact sound.served pending fresh rfl
      | some row => exact stopped
  | some record =>
      cases system.table (traffic.nonceRequests index) with
      | none => exact stopped
      | some row =>
          refine sound.served pending fresh ?_
          obtain ⟨other, _, served⟩ := sound.existing index record nonce expiresAt stands
          have changed : nonce ≠ record.nonce := by
            intro same
            rw [← same] at served
            exact fresh other served
          exact if_neg changed

theorem sound_getNonce (sound : Sound service traffic system) (index now : Nat)
    (drawn : String)
    (orderly : Orderly service traffic system (.getNonce index now drawn)) :
    Sound service traffic (system.step service traffic (.getNonce index now drawn)) := by
  change Sound service traffic (system.withNonce index
    (generateNonceStep (traffic.nonceRequests index) now drawn system.table
      (system.nonces index)).1
    (generateNonceStep (traffic.nonceRequests index) now drawn system.table
      (system.nonces index)).2)
  cases stands : system.nonces index with
  | received =>
      refine sound.nonceMoved ?_ (fun _ here => by cases here) ?_
      · intro served here
        rw [stands] at here
        cases here
      · intro record nonce expiresAt here
        injection here with found
        exact sound.stored _ record found
  | read existing nonce expiresAt =>
      exact sound_storeNonce sound stands (orderly existing nonce expiresAt stands)
  | served nonce =>
      rw [generateNonceStep, ← stands, withNonce_self]
      · exact sound
      · exact fun here => by cases here
      · exact fun _ _ _ here => by cases here
  | failed =>
      rw [generateNonceStep, ← stands, withNonce_self]
      · exact sound
      · exact fun here => by cases here
      · exact fun _ _ _ here => by cases here

/-! ### Logins -/

def System.withLogin (system : System) (index : Nat) (table : Table) (phase : LoginPhase) :
    System :=
  { system with table, logins := Function.update system.logins index phase }

theorem withLogin_self (index : Nat) :
    system.withLogin index system.table (system.logins index) = system := by
  rw [System.withLogin, Function.update_eq_self]

theorem logins_withLogin (index other : Nat) (table : Table) (phase : LoginPhase) :
    (other = index ∧ (system.withLogin index table phase).logins other = phase) ∨
      (other ≠ index ∧
        (system.withLogin index table phase).logins other = system.logins other) := by
  by_cases same : other = index
  · rw [same]
    exact Or.inl ⟨rfl, Function.update_self ..⟩
  · exact Or.inr ⟨same, Function.update_of_ne same ..⟩

/-- What is used up after a login has moved was used up before, or by it. -/
theorem Consumed.withLogin {index : Nat} {table : Table} {phase : LoginPhase} {nonce : String}
    (used : Consumed (system.withLogin index table phase) nonce) :
    phase.spent = some nonce ∨ Consumed system nonce := by
  obtain ⟨other, spent⟩ := used
  rcases logins_withLogin index other table phase with ⟨_, moved⟩ | ⟨_, kept⟩
  · rw [moved] at spent
    exact Or.inl spent
  · rw [kept] at spent
    exact Or.inr ⟨other, spent⟩

/-- A login that moves without writing and uses nothing up that it had not. -/
theorem Sound.loginMoved (sound : Sound service traffic system) {index : Nat}
    {phase : LoginPhase} (spends : phase.spent = (system.logins index).spent)
    (issued : ∀ nonce, phase.held = some nonce →
      IssuedFor traffic system (traffic.loginRequests index).address nonce)
    (unspent : ∀ nonce, phase.held = some nonce →
      Signed service (traffic.loginRequests index) nonce → ¬Consumed system nonce)
    (signer : ∀ record signer,
      phase = .recovered record signer ∨ phase = .committed record signer →
      signer = service.recoverMessage (buildLoginMessage service record.nonce)
        (traffic.loginRequests index).signature.text)
    (granted : ∀ record token, phase = .granted record token →
      Signed service (traffic.loginRequests index) record.nonce ∧
        token.sub = (traffic.loginRequests index).address) :
    Sound service traffic (system.withLogin index system.table phase) := by
  have consumed : ∀ nonce, Consumed (system.withLogin index system.table phase) nonce →
      Consumed system nonce := by
    intro nonce used
    rcases used.withLogin with here | before
    · rw [spends] at here
      exact ⟨index, here⟩
    · exact before
  have spent : ∀ other,
      ((system.withLogin index system.table phase).logins other).spent =
        (system.logins other).spent := by
    intro other
    rcases logins_withLogin index other system.table phase with ⟨same, moved⟩ | ⟨_, kept⟩
    · rw [moved, same]
      exact spends
    · rw [kept]
  refine
    { servedOnce := sound.servedOnce
      existing := sound.existing
      stored := sound.stored
      unused := ?_
      issued := ?_
      unspent := ?_
      once := ?_
      signer := ?_
      granted := ?_ }
  · intro address row found unmarked used
    exact sound.unused address row found unmarked (consumed row.nonce used)
  · intro other nonce here
    rw [spent] at here
    rcases logins_withLogin index other system.table phase with ⟨same, moved⟩ | ⟨_, kept⟩
    · rw [moved, same] at here
      rw [same]
      rcases here with held | used
      · exact issued nonce held
      · exact sound.issued index nonce (Or.inr used)
    · rw [kept] at here
      exact sound.issued other nonce here
  · intro other nonce held signed used
    rcases logins_withLogin index other system.table phase with ⟨same, moved⟩ | ⟨_, kept⟩
    · rw [moved] at held
      rw [same] at signed
      exact unspent nonce held signed (consumed nonce used)
    · rw [kept] at held
      exact sound.unspent other nonce held signed (consumed nonce used)
  · intro first second nonce used usedToo
    rw [spent] at used usedToo
    exact sound.once first second nonce used usedToo
  · intro other record found here
    rcases logins_withLogin index other system.table phase with ⟨same, moved⟩ | ⟨_, kept⟩
    · rw [moved] at here
      rw [same]
      exact signer record found here
    · rw [kept] at here
      exact sound.signer other record found here
  · intro other record token here
    rcases logins_withLogin index other system.table phase with ⟨same, moved⟩ | ⟨_, kept⟩
    · rw [moved] at here
      rw [same]
      exact granted record token here
    · rw [kept] at here
      exact sound.granted other record token here

/-! ### The commit of a login -/

section Commit

variable {index : Nat} {record : WalletNonce} {signer : Option Address} {table : Table}

theorem Consumed.of_committed {nonce : String}
    (used : Consumed (system.withLogin index table (.committed record signer)) nonce) :
    record.nonce = nonce ∨ Consumed system nonce := by
  rcases used.withLogin with here | before
  · exact Or.inl (Option.some.inj here)
  · exact Or.inr before

/-- Nobody with a good signature was ahead of the login that commits. -/
theorem Sound.once_committed (sound : Sound service traffic system)
    (held : (system.logins index).held = some record.nonce) {first second : Nat}
    {nonce : String}
    (spent : ((system.withLogin index table (.committed record signer)).logins first).spent =
      some nonce)
    (spentToo : ((system.withLogin index table (.committed record signer)).logins
      second).spent = some nonce)
    (signed : Signed service (traffic.loginRequests first) nonce)
    (signedToo : Signed service (traffic.loginRequests second) nonce) : first = second := by
  rcases logins_withLogin index first table (.committed record signer) with
    ⟨firstSame, moved⟩ | ⟨_, kept⟩
  · rw [moved] at spent
    cases spent
    rcases logins_withLogin index second table (.committed record signer) with
      ⟨secondSame, _⟩ | ⟨_, keptToo⟩
    · rw [firstSame, secondSame]
    · rw [keptToo] at spentToo
      rw [firstSame] at signed
      exact absurd ⟨second, spentToo⟩ (sound.unspent index record.nonce held signed)
  · rw [kept] at spent
    rcases logins_withLogin index second table (.committed record signer) with
      ⟨secondSame, movedToo⟩ | ⟨_, keptToo⟩
    · rw [movedToo] at spentToo
      cases spentToo
      rw [secondSame] at signedToo
      exact absurd ⟨first, spent⟩ (sound.unspent index record.nonce held signedToo)
    · rw [keptToo] at spentToo
      exact sound.once first second nonce spent spentToo signed signedToo

/-- The committed row is marked, and the nonce is in no other address's row. -/
theorem Sound.unused_committed (sound : Sound service traffic system)
    (held : (system.logins index).held = some record.nonce) {row other : WalletNonce}
    {address : Address}
    (lookup : Function.update system.table (traffic.loginRequests index).address
      (some { row with used := true }) address = some other)
    (unmarked : other.used = false) :
    ¬Consumed (system.withLogin index table (.committed record signer)) other.nonce := by
  intro used
  rcases update_cases lookup with ⟨_, here⟩ | ⟨different, before⟩
  · cases here
    cases unmarked
  · rcases used.of_committed with same | earlier
    · have issuedHere := sound.issued index record.nonce (Or.inl held)
      have issuedThere := sound.stored address other before
      rw [← same] at issuedThere
      exact different (sound.address_eq issuedThere issuedHere)
    · exact sound.unused address other before unmarked earlier

theorem Sound.unspent_committed (sound : Sound service traffic system)
    (orderly : ∀ other, other ≠ index → (system.logins other).held = some record.nonce →
      ¬Signed service (traffic.loginRequests other) record.nonce) {other : Nat} {nonce : String}
    (held : ((system.withLogin index table (.committed record signer)).logins other).held =
      some nonce)
    (signed : Signed service (traffic.loginRequests other) nonce) :
    ¬Consumed (system.withLogin index table (.committed record signer)) nonce := by
  intro used
  rcases logins_withLogin index other table (.committed record signer) with
    ⟨_, moved⟩ | ⟨different, kept⟩
  · rw [moved] at held
    cases held
  · rw [kept] at held
    rcases used.of_committed with same | earlier
    · rw [← same] at held signed
      exact orderly other different held signed
    · exact sound.unspent other nonce held signed earlier

theorem Sound.committed (sound : Sound service traffic system) {row : WalletNonce}
    (stands : system.logins index = .recovered record signer)
    (orderly : ∀ other, other ≠ index → (system.logins other).held = some record.nonce →
      ¬Signed service (traffic.loginRequests other) record.nonce)
    (found : system.table (traffic.loginRequests index).address = some row) :
    Sound service traffic (system.withLogin index
      (Function.update system.table (traffic.loginRequests index).address
        (some { row with used := true })) (.committed record signer)) := by
  have held : (system.logins index).held = some record.nonce := by
    rw [stands]
    rfl
  refine
    { servedOnce := sound.servedOnce
      existing := sound.existing
      stored := ?_
      unused := fun _ _ lookup unmarked => sound.unused_committed held lookup unmarked
      issued := ?_
      unspent := fun _ _ here signed => sound.unspent_committed orderly here signed
      once := fun _ _ _ => sound.once_committed held
      signer := ?_
      granted := ?_ }
  · intro address other lookup
    rcases update_cases lookup with ⟨same, here⟩ | ⟨_, before⟩
    · cases here
      rw [same]
      exact sound.stored _ row found
    · exact sound.stored address other before
  · intro other nonce here
    rcases logins_withLogin index other _ (.committed record signer) with
      ⟨same, moved⟩ | ⟨_, kept⟩
    · rw [moved] at here
      rw [same]
      rcases here with none | spent
      · cases none
      · cases spent
        exact sound.issued index record.nonce (Or.inl held)
    · rw [kept] at here
      exact sound.issued other nonce here
  · intro other read named here
    rcases logins_withLogin index other _ (.committed record signer) with
      ⟨same, moved⟩ | ⟨_, kept⟩
    · rw [moved] at here
      rw [same]
      rcases here with impossible | here
      · cases impossible
      · cases here
        exact sound.signer index record signer (Or.inl stands)
    · rw [kept] at here
      exact sound.signer other read named here
  · intro other read token here
    rcases logins_withLogin index other _ (.committed record signer) with
      ⟨_, moved⟩ | ⟨_, kept⟩
    · rw [moved] at here
      cases here
    · rw [kept] at here
      exact sound.granted other read token here

end Commit

/-! ### The other steps of a login -/

/-- A login that ends without a token. -/
theorem Sound.loginEnded (sound : Sound service traffic system) {index : Nat}
    {phase : LoginPhase} (spends : phase.spent = (system.logins index).spent)
    (ended : phase = .failed ∨ ∃ record, phase = .unauthorized record) :
    Sound service traffic (system.withLogin index system.table phase) := by
  refine sound.loginMoved spends ?_ ?_ ?_ ?_
  · intro nonce held
    rcases ended with failed | ⟨record, refused⟩
    · rw [failed] at held
      cases held
    · rw [refused] at held
      cases held
  · intro nonce held
    rcases ended with failed | ⟨record, refused⟩
    · rw [failed] at held
      cases held
    · rw [refused] at held
      cases held
  · intro record signer here
    rcases ended with failed | ⟨other, refused⟩
    · rw [failed] at here
      rcases here with here | here
      · cases here
      · cases here
    · rw [refused] at here
      rcases here with here | here
      · cases here
      · cases here
  · intro record token here
    rcases ended with failed | ⟨other, refused⟩
    · rw [failed] at here
      cases here
    · rw [refused] at here
      cases here

theorem readRecord_cases (address : Address) (now : Nat) (table : Table) :
    (∃ record, table address = some record ∧ record.used = false ∧ now ≤ record.expiresAt ∧
      readRecord address now table = .read record) ∨
    readRecord address now table = .unauthorized none := by
  unfold readRecord
  cases table address with
  | none => exact Or.inr rfl
  | some row =>
      by_cases used : row.used = true
      · exact Or.inr (if_pos used)
      · by_cases late : row.expiresAt < now
        · exact Or.inr ((if_neg used).trans (if_pos late))
        · exact Or.inl ⟨row, rfl, Bool.eq_false_of_not_eq_true used, Nat.le_of_not_lt late,
            (if_neg used).trans (if_neg late)⟩

theorem sound_readRecord (sound : Sound service traffic system) {index : Nat} (now : Nat)
    (stands : system.logins index = .received) :
    Sound service traffic (system.withLogin index system.table
      (readRecord (traffic.loginRequests index).address now system.table)) := by
  rcases readRecord_cases (traffic.loginRequests index).address now system.table with
    ⟨record, found, unmarked, _, read⟩ | refused
  · rw [read]
    refine sound.loginMoved ?_ ?_ ?_ ?_ ?_
    · rw [stands]
      rfl
    · intro nonce held
      cases held
      exact sound.stored _ record found
    · intro nonce held _
      cases held
      exact sound.unused _ record found unmarked
    · intro other signer here
      rcases here with here | here
      · cases here
      · cases here
    · intro other token here
      cases here
  · rw [refused]
    refine sound.loginEnded ?_ (Or.inr ⟨none, rfl⟩)
    rw [stands]
    rfl

theorem sound_recovered (sound : Sound service traffic system) {index : Nat}
    {record : WalletNonce} (stands : system.logins index = .read record) :
    Sound service traffic (system.withLogin index system.table (.recovered record
      (service.recoverMessage (buildLoginMessage service record.nonce)
        (traffic.loginRequests index).signature.text))) := by
  have held : (system.logins index).held = some record.nonce := by
    rw [stands]
    rfl
  refine sound.loginMoved ?_ ?_ ?_ ?_ ?_
  · rw [stands]
    rfl
  · intro nonce here
    cases here
    exact sound.issued index record.nonce (Or.inl held)
  · intro nonce here
    cases here
    exact sound.unspent index record.nonce held
  · intro other signer here
    rcases here with here | here
    · cases here
      rfl
    · cases here
  · intro other token here
    cases here

theorem sound_consumeNonce (sound : Sound service traffic system) {index : Nat}
    {record : WalletNonce} {signer : Option Address}
    (stands : system.logins index = .recovered record signer)
    (orderly : ∀ other, other ≠ index → (system.logins other).held = some record.nonce →
      ¬Signed service (traffic.loginRequests other) record.nonce) :
    Sound service traffic (system.withLogin index
      (consumeNonce (traffic.loginRequests index).address record signer system.table).1
      (consumeNonce (traffic.loginRequests index).address record signer system.table).2) := by
  unfold consumeNonce
  cases found : system.table (traffic.loginRequests index).address with
  | some row => exact sound.committed stands orderly found
  | none =>
      refine sound.loginEnded ?_ (Or.inl rfl)
      rw [stands]
      rfl

theorem sound_answerLogin (sound : Sound service traffic system) {index : Nat} (now : Nat)
    {record : WalletNonce} {signer : Option Address}
    (stands : system.logins index = .committed record signer) :
    Sound service traffic (system.withLogin index system.table
      (answerLogin service (traffic.loginRequests index) now record signer)) := by
  unfold answerLogin
  by_cases good : signer = some (traffic.loginRequests index).address
  · rw [if_pos good]
    refine sound.loginMoved ?_ ?_ ?_ ?_ ?_
    · rw [stands]
      rfl
    · intro nonce here
      cases here
    · intro nonce here
      cases here
    · intro other named here
      rcases here with here | here
      · cases here
      · cases here
    · intro other token here
      cases here
      have recovered := sound.signer index record signer (Or.inr stands)
      exact ⟨recovered.symm.trans good, rfl⟩
  · rw [if_neg good]
    refine sound.loginEnded ?_ (Or.inr ⟨some record, rfl⟩)
    rw [stands]
    rfl

theorem sound_loginWallet (sound : Sound service traffic system) (index now : Nat)
    (orderly : Orderly service traffic system (.loginWallet index now)) :
    Sound service traffic (system.step service traffic (.loginWallet index now)) := by
  change Sound service traffic (system.withLogin index
    (loginWalletStep service (traffic.loginRequests index) now system.table
      (system.logins index)).1
    (loginWalletStep service (traffic.loginRequests index) now system.table
      (system.logins index)).2)
  cases stands : system.logins index with
  | received => exact sound_readRecord sound now stands
  | read record => exact sound_recovered sound stands
  | recovered record signer =>
      exact sound_consumeNonce sound stands (orderly record signer stands)
  | committed record signer => exact sound_answerLogin sound now stands
  | granted record token =>
      change Sound service traffic (system.withLogin index system.table (.granted record token))
      rw [← stands, withLogin_self]
      exact sound
  | unauthorized record =>
      change Sound service traffic (system.withLogin index system.table (.unauthorized record))
      rw [← stands, withLogin_self]
      exact sound
  | failed =>
      change Sound service traffic (system.withLogin index system.table .failed)
      rw [← stands, withLogin_self]
      exact sound

/-! ### What led to a token -/

/-- The record a login goes by, unless it was refused. -/
def LoginPhase.record : LoginPhase → Option WalletNonce
  | .read record => some record
  | .recovered record _ => some record
  | .committed record _ => some record
  | .granted record _ => some record
  | _ => none

def LoginPhase.paid : LoginPhase → Option WalletNonce
  | .committed record _ => some record
  | .granted record _ => some record
  | _ => none

/-- The step at which a login found a live nonce: issued for its address, not
expired, not used up. -/
def FoundLive (traffic : Traffic) (index : Nat) (record : WalletNonce) (step : Step) : Prop :=
  ∃ now, step.call = .loginWallet index now ∧ step.before.logins index = .received ∧
    step.before.table (traffic.loginRequests index).address = some record ∧
    record.used = false ∧ now ≤ record.expiresAt ∧
    IssuedFor traffic step.before (traffic.loginRequests index).address record.nonce ∧
    ¬Consumed step.before record.nonce

/-- The step at which a login used its nonce up, as the first to do so. -/
def UsedUpFirst (index : Nat) (record : WalletNonce) (step : Step) : Prop :=
  ∃ now signer, step.call = .loginWallet index now ∧
    step.before.logins index = .recovered record signer ∧
    ¬Consumed step.before record.nonce

structure Traced (service : Service) (traffic : Traffic) (system : System)
    (past : List Step) : Prop where
  sound : Sound service traffic system
  found : ∀ index record, (system.logins index).record = some record →
    ∃ step ∈ past, FoundLive traffic index record step
  usedUp : ∀ index record, (system.logins index).paid = some record →
    Signed service (traffic.loginRequests index) record.nonce →
    ∃ step ∈ past, UsedUpFirst index record step

theorem loginWalletStep_record {request : WalletLoginRequest} {now : Nat} {table : Table}
    {phase : LoginPhase} {record : WalletNonce}
    (after : (loginWalletStep service request now table phase).2.record = some record) :
    phase.record = some record ∨
      (phase = .received ∧ table request.address = some record ∧ record.used = false ∧
        now ≤ record.expiresAt) := by
  cases phase with
  | received =>
      rw [loginWalletStep] at after
      rcases readRecord_cases request.address now table with
        ⟨row, found, unmarked, live, read⟩ | refused
      · rw [read] at after
        cases after
        exact Or.inr ⟨rfl, found, unmarked, live⟩
      · rw [refused] at after
        cases after
  | read row => exact Or.inl after
  | recovered row signer =>
      rw [loginWalletStep, consumeNonce] at after
      cases found : table request.address with
      | none =>
          rw [found] at after
          cases after
      | some current =>
          rw [found] at after
          exact Or.inl after
  | committed row signer =>
      rw [loginWalletStep, answerLogin] at after
      by_cases good : signer = some request.address
      · rw [if_pos good] at after
        exact Or.inl after
      · rw [if_neg good] at after
        cases after
  | granted row token => exact Or.inl after
  | unauthorized row => cases after
  | failed => cases after

theorem loginWalletStep_paid {request : WalletLoginRequest} {now : Nat} {table : Table}
    {phase : LoginPhase} {record : WalletNonce}
    (after : (loginWalletStep service request now table phase).2.paid = some record) :
    phase.paid = some record ∨ ∃ signer, phase = .recovered record signer := by
  cases phase with
  | received =>
      rw [loginWalletStep] at after
      rcases readRecord_cases request.address now table with ⟨row, _, _, _, read⟩ | refused
      · rw [read] at after
        cases after
      · rw [refused] at after
        cases after
  | read row => cases after
  | recovered row signer =>
      rw [loginWalletStep, consumeNonce] at after
      cases found : table request.address with
      | none =>
          rw [found] at after
          cases after
      | some current =>
          rw [found] at after
          cases after
          exact Or.inr ⟨signer, rfl⟩
  | committed row signer =>
      rw [loginWalletStep, answerLogin] at after
      by_cases good : signer = some request.address
      · rw [if_pos good] at after
        exact Or.inl after
      · rw [if_neg good] at after
        cases after
  | granted row token => exact Or.inl after
  | unauthorized row => cases after
  | failed => cases after

theorem Traced.getNonce {past : List Step} (traced : Traced service traffic system past)
    (index now : Nat) (drawn : String) (step : Step)
    (orderly : Orderly service traffic system (.getNonce index now drawn)) :
    Traced service traffic (system.step service traffic (.getNonce index now drawn))
      (past ++ [step]) where
  sound := sound_getNonce traced.sound index now drawn orderly
  found := by
    intro login record here
    obtain ⟨earlier, member, live⟩ := traced.found login record here
    exact ⟨earlier, List.mem_append_left _ member, live⟩
  usedUp := by
    intro login record here signed
    obtain ⟨earlier, member, first⟩ := traced.usedUp login record here signed
    exact ⟨earlier, List.mem_append_left _ member, first⟩

theorem Traced.loginWallet {past : List Step} (traced : Traced service traffic system past)
    (index now : Nat) (orderly : Orderly service traffic system (.loginWallet index now)) :
    Traced service traffic (system.step service traffic (.loginWallet index now))
      (past ++ [⟨system, .loginWallet index now, (),
        system.step service traffic (.loginWallet index now)⟩]) := by
  have sound := traced.sound
  have last : (⟨system, .loginWallet index now, (),
      system.step service traffic (.loginWallet index now)⟩ : Step) ∈
      past ++ [⟨system, .loginWallet index now, (),
        system.step service traffic (.loginWallet index now)⟩] :=
    List.mem_append_right _ (List.mem_singleton.mpr rfl)
  refine ⟨sound_loginWallet sound index now orderly, ?_, ?_⟩
  · intro login record here
    rcases update_cases (Eq.refl ((system.step service traffic
      (.loginWallet index now)).logins login)) with ⟨same, moved⟩ | ⟨_, kept⟩
    · subst same
      rw [← moved] at here
      rcases loginWalletStep_record here with before | ⟨stands, found, unmarked, live⟩
      · obtain ⟨earlier, member, live⟩ := traced.found login record before
        exact ⟨earlier, List.mem_append_left _ member, live⟩
      · exact ⟨_, last, now, rfl, stands, found, unmarked, live,
          sound.stored _ record found, sound.unused _ record found unmarked⟩
    · rw [← kept] at here
      obtain ⟨earlier, member, live⟩ := traced.found login record here
      exact ⟨earlier, List.mem_append_left _ member, live⟩
  · intro login record here signed
    rcases update_cases (Eq.refl ((system.step service traffic
      (.loginWallet index now)).logins login)) with ⟨same, moved⟩ | ⟨_, kept⟩
    · subst same
      rw [← moved] at here
      rcases loginWalletStep_paid here with before | ⟨signer, stands⟩
      · obtain ⟨earlier, member, first⟩ := traced.usedUp login record before signed
        exact ⟨earlier, List.mem_append_left _ member, first⟩
      · have held : (system.logins login).held = some record.nonce := by
          rw [stands]
          rfl
        exact ⟨_, last, now, signer, rfl, stands,
          sound.unspent login record.nonce held signed⟩
    · rw [← kept] at here
      obtain ⟨earlier, member, first⟩ := traced.usedUp login record here signed
      exact ⟨earlier, List.mem_append_left _ member, first⟩

end Steps

theorem traced_run (service : Service) (traffic : Traffic) (actions : List Action)
    (orderly : ∀ step ∈ steps service traffic actions,
      Orderly service traffic step.before step.call) :
    Traced service traffic (run service traffic actions) (steps service traffic actions) := by
  refine @run_induction _ _ _ _ (exec service traffic) (Traced service traffic)
    (fun step => Orderly service traffic step.before step.call) System.start ?_ ?_ actions orderly
  · refine ⟨sound_start, ?_, ?_⟩
    · intro index record here
      cases here
    · intro index record here
      cases here
  · intro system past action next output traced done allowed
    cases done
    cases action with
    | getNonce index now drawn => exact traced.getNonce index now drawn _ allowed
    | loginWallet index now => exact traced.loginWallet index now allowed

/-- In every run of orderly steps a nonce yields at most one token, and a token
for an address goes back to a nonce issued for it and signed by its key, which
the login found neither expired nor used up and was the first to use up. -/
theorem nonces_single_use (service : Service) (traffic : Traffic) (actions : List Action)
    (orderly : ∀ step ∈ steps service traffic actions,
      Orderly service traffic step.before step.call) :
    (∀ first second record other token otherToken,
      (run service traffic actions).logins first = .granted record token →
      (run service traffic actions).logins second = .granted other otherToken →
      record.nonce = other.nonce → first = second) ∧
    ∀ index record token, (run service traffic actions).logins index = .granted record token →
      token.sub = (traffic.loginRequests index).address ∧
      Signed service (traffic.loginRequests index) record.nonce ∧
      (∃ step ∈ steps service traffic actions, FoundLive traffic index record step) ∧
      ∃ step ∈ steps service traffic actions, UsedUpFirst index record step := by
  have traced := traced_run service traffic actions orderly
  constructor
  · intro first second record other token otherToken granted grantedToo same
    have signed := (traced.sound.granted first record token granted).1
    have signedToo := (traced.sound.granted second other otherToken grantedToo).1
    rw [← same] at signedToo
    refine traced.sound.once first second record.nonce ?_ ?_ signed signedToo
    · rw [granted]
      rfl
    · rw [grantedToo, same]
      rfl
  · intro index record token granted
    obtain ⟨signed, subject⟩ := traced.sound.granted index record token granted
    refine ⟨subject, signed, ?_, ?_⟩
    · apply traced.found index record
      rw [granted]
      rfl
    · refine traced.usedUp index record ?_ signed
      rw [granted]
      rfl

section Sample

/-- The address of the private key `1`. -/
def sampleAccount : Address := 0x7E5F4552091A69125d5DfCb7b8C2659029395Bdf

def sampleNonce : String := "5eed0a1b2c3d4e5f60718293a4b5c6d7"

def sampleMessage : String := "Aurelia Labs login nonce: 5eed0a1b2c3d4e5f60718293a4b5c6d7"

/-- The key's signature of the message. -/
def sampleSignatureText : String :=
  "0xb856805861416f92a339b3271fec490e1c75a9a55e1ec49e7d56ec47bc0091d7" ++
    "0cbdb4bf550a85c461c9dda007bdf09536bcca198b5a60e005261a9cbb741e351b"

theorem sampleSignatureText_pattern : isSignature sampleSignatureText = true := by
  decide +kernel

def sampleSignature : Signature := ⟨sampleSignatureText, sampleSignatureText_pattern⟩

/-- One wallet that has signed one login message. -/
def sampleService : Service :=
  { loginMessagePrefix := "Aurelia Labs login nonce:"
    jwtExpMinutes := 1440
    recoverMessage := fun message signature =>
      if message = sampleMessage ∧ signature = sampleSignatureText then some sampleAccount
      else none }

def sampleTraffic : Traffic :=
  { nonceRequests := fun _ => sampleAccount
    loginRequests := fun _ =>
      { address := sampleAccount
        signature := sampleSignature } }

def issueSteps : List Action := [.getNonce 0 0 sampleNonce, .getNonce 0 0 ""]

/-- A login, and the same request once more when it is through. -/
def replayedSteps : List Action :=
  issueSteps ++ [.loginWallet 0 1, .loginWallet 0 1, .loginWallet 0 1, .loginWallet 0 1,
    .loginWallet 1 2]

/-- The second login reads the row before the first one commits. -/
def overlappingLogins : List Action :=
  issueSteps ++ [.loginWallet 0 1, .loginWallet 1 1, .loginWallet 0 1, .loginWallet 1 1,
    .loginWallet 0 1, .loginWallet 1 1, .loginWallet 0 1, .loginWallet 1 1]

def sampleRecord : WalletNonce :=
  { nonce := sampleNonce, expiresAt := 300000000, used := false }

def sampleToken : AccessToken := { sub := sampleAccount, iat := 0, exp := 86400 }

theorem replayedSteps_orderly :
    ∀ step ∈ steps sampleService sampleTraffic replayedSteps,
      Orderly sampleService sampleTraffic step.before step.call := by
  refine List.forall_mem_cons.mpr ⟨?_, List.forall_mem_cons.mpr ⟨?_, List.forall_mem_cons.mpr
    ⟨?_, List.forall_mem_cons.mpr ⟨?_, List.forall_mem_cons.mpr ⟨?_, List.forall_mem_cons.mpr
    ⟨?_, List.forall_mem_cons.mpr ⟨?_, List.forall_mem_nil _⟩⟩⟩⟩⟩⟩⟩
  · intro existing nonce expiresAt stands
    cases stands
  · intro existing nonce expiresAt _ other served
    change Function.update System.start.nonces 0 (.read none sampleNonce 300000000) other = _
      at served
    rcases update_cases served with ⟨_, here⟩ | ⟨_, here⟩
    · cases here
    · cases here
  · intro record signer stands
    cases stands
  · intro record signer stands
    cases stands
  · intro record signer _ other different held
    change (Function.update (Function.update System.start.logins 0 _) 0 _ other).held = _ at held
    rw [Function.update_of_ne different, Function.update_of_ne different] at held
    cases held
  · intro record signer stands
    cases stands
  · intro record signer stands
    cases stands

theorem nonces_single_use_replayed :
    (run sampleService sampleTraffic replayedSteps).logins 0 =
        .granted sampleRecord sampleToken ∧
      (run sampleService sampleTraffic replayedSteps).logins 1 = .unauthorized none ∧
      ∃ step ∈ steps sampleService sampleTraffic replayedSteps,
        FoundLive sampleTraffic 0 sampleRecord step :=
  ⟨by decide +kernel, by decide +kernel,
    ((nonces_single_use sampleService sampleTraffic replayedSteps replayedSteps_orderly).2 0
      sampleRecord sampleToken (by decide +kernel)).2.2.1⟩

theorem overlapping_logins_share_a_nonce :
    (run sampleService sampleTraffic overlappingLogins).logins 0 =
        .granted sampleRecord sampleToken ∧
      (run sampleService sampleTraffic overlappingLogins).logins 1 =
        .granted sampleRecord sampleToken := by
  decide +kernel

end Sample

end Dics.Backend.Auth
