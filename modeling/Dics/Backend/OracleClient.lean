/-
Any answer to the backend's call of the oracle service.

Whatever listens at the configured address may answer with any status and any
body.  The client checks the status and that four fields are there; what their
values are is found out later, by the commit and by the response model.  The
database is Postgres, whose text columns refuse what does not fit them.
-/

import Dics.Backend.Webhook

namespace Dics.Backend.OracleClient

/-! ### Python texts and JSON values -/

/-- A Python text is a sequence of code points; `\ud800` in a JSON text leaves a
lone surrogate in it. -/
abbrev Text := List Nat

def textOf (string : String) : Text :=
  string.toList.map Char.toNat

def isSurrogate (point : Nat) : Bool :=
  0xD800 ≤ point ∧ point ≤ 0xDFFF

/-- The text can be written as UTF-8. -/
def Encodable (text : Text) : Prop :=
  ∀ point ∈ text, isSurrogate point = false

instance (text : Text) : Decidable (Encodable text) :=
  inferInstanceAs (Decidable (∀ point ∈ text, isSurrogate point = false))

/-- What `json.loads` returns; `notFinite` is `NaN` or an infinity. -/
inductive Json where
  | null
  | bool (value : Bool)
  | number (value : Rat)
  | notFinite
  | text (value : Text)
  | array (items : List Json)
  | object (fields : List (Text × Json))

/-- The value in a condition. -/
def Json.truthy : Json → Bool
  | .null => false
  | .bool value => value
  | .number value => value ≠ 0
  | .notFinite => true
  | .text value => !value.isEmpty
  | .array items => !items.isEmpty
  | .object fields => !fields.isEmpty

/-- What the call comes to; the body is `none` when it is not JSON. -/
inductive HttpOutcome where
  | requestError
  | response (statusCode : Nat) (body : Option Json)

/-! ### The client -/

/-- `OracleServiceError`, which the route catches. -/
inductive ClientError where
  | service (error : OracleServiceError)
  | missingField (name : String)
  deriving DecidableEq

inductive Raised where
  | oracleServiceError (error : ClientError)
  | jsonDecodeError
  | typeError
  deriving DecidableEq

/-- The data class checks no types. -/
structure Result where
  approved : Json
  reason : Json
  requestId : Json
  txHash : Json

/-- `data[name]`; only the `KeyError` is turned into an `OracleServiceError`. -/
def subscript (fields : List (Text × Json)) (name : String) : Except Raised Json :=
  match fields.lookup (textOf name) with
  | some value => .ok value
  | none => .error (.oracleServiceError (.missingField name))

def readResult (fields : List (Text × Json)) : Except Raised Result := do
  let approved ← subscript fields "approved"
  let reason ← subscript fields "reason"
  let requestId ← subscript fields "requestId"
  let txHash ← subscript fields "txHash"
  .ok { approved, reason, requestId, txHash }

def requestVerification : HttpOutcome → Except Raised Result
  | .requestError => .error (.oracleServiceError (.service .couldNotReach))
  | .response statusCode body =>
      if statusCode = 401 then .error (.oracleServiceError (.service .rejectedApiKey))
      else if statusCode ≠ 200 then
        .error (.oracleServiceError (.service (.returned statusCode)))
      else
        match body with
        | none => .error .jsonDecodeError
        | some (.object fields) => readResult fields
        | some _ => .error .typeError

/-! ### The row -/

structure Row where
  id : Int
  declaredAmount : Rat
  status : ClaimStatus
  onchainClaimId : Option Int
  txHash : Option Text
  oracleRequestId : Option Text
  deriving DecidableEq

/-- What a `VARCHAR(66)` keeps of a text: surplus blanks are cut off, anything
else that is too long is refused, as are a null character and a surrogate. -/
def storedText (text : Text) : Option Text :=
  if Encodable text ∧ 0 ∉ text then
    if text.length ≤ 66 then some text
    else if (text.drop 66).all (fun point => point = 32) then some (text.take 66)
    else none
  else none

/-- A value as a parameter of a nullable text column. -/
def bindText : Json → Option (Option Text)
  | .null => some none
  | .text value => (storedText value).map some
  | _ => none

def decided (approved : Bool) : ClaimStatus :=
  if approved = true then .approved else .rejected

/-- The row after `db.commit()`, unless the commit throws.  A text that equals
the stored one is not written; it is one the column keeps as it is. -/
def commitRow (row : Row) (result : Result) : Option Row := do
  let oracleRequestId ← bindText result.requestId
  let txHash ← bindText result.txHash
  some { row with status := decided result.approved.truthy, oracleRequestId, txHash }

/-! ### The response -/

structure Response where
  claimId : Int
  approved : Bool
  reason : Text
  oracleTxHash : Text
  status : ClaimStatus
  deriving DecidableEq

def lower (text : Text) : Text :=
  text.map fun point => if 65 ≤ point ∧ point ≤ 90 then point + 32 else point

/-- The response model takes some numbers and texts for a Boolean. -/
def readBool : Json → Option Bool
  | .bool value => some value
  | .number value => if value = 0 then some false else if value = 1 then some true else none
  | .text value =>
      if lower value ∈ ["0", "off", "f", "false", "n", "no"].map textOf then some false
      else if lower value ∈ ["1", "on", "t", "true", "y", "yes"].map textOf then some true
      else none
  | _ => none

def readText : Json → Option Text
  | .text value => some value
  | _ => none

/-- The response is built, validated and encoded. -/
def respond (row : Row) (result : Result) : Option Response := do
  let approved ← readBool result.approved
  let reason ← readText result.reason
  let oracleTxHash ← readText result.txHash
  if Encodable reason ∧ Encodable oracleTxHash then
    some { claimId := row.id, approved, reason, oracleTxHash, status := row.status }
  else none

inductive Answer where
  | ok (response : Response)
  | badGateway (error : ClientError)
  | internalServerError
  deriving DecidableEq

structure Triggered where
  row : Row
  answer : Answer
  deriving DecidableEq

/-- The insert of a new key fits its `VARCHAR(128)`; without a key nothing is
inserted.  The value of a header has no surplus blanks. -/
def keyFits (key : Option String) : Bool :=
  key.all fun key => key.length ≤ 128

/-- `trigger_verification` from the call of the client on: the claim is loaded and
nothing was stored under the key. -/
def triggerVerification (key : Option String) (row : Row) (outcome : HttpOutcome) : Triggered :=
  match requestVerification outcome with
  | .error (.oracleServiceError error) => { row, answer := .badGateway error }
  | .error _ => { row, answer := .internalServerError }
  | .ok result =>
      match commitRow row result with
      | none => { row, answer := .internalServerError }
      | some changed =>
          match respond changed result with
          | none => { row := changed, answer := .internalServerError }
          | some response =>
              if keyFits key = true then { row := changed, answer := .ok response }
              else { row := changed, answer := .internalServerError }

/-! ### Which answers are dealt with -/

/-- A body with a Boolean decision and three texts. -/
def WellFormed (outcome : HttpOutcome) (approved : Bool) (reason requestId txHash : Text) : Prop :=
  ∃ fields, outcome = .response 200 (some (.object fields)) ∧
    fields.lookup (textOf "approved") = some (.bool approved) ∧
    fields.lookup (textOf "reason") = some (.text reason) ∧
    fields.lookup (textOf "requestId") = some (.text requestId) ∧
    fields.lookup (textOf "txHash") = some (.text txHash)

def Row.verified (row : Row) (approved : Bool) (requestId txHash : Text) : Row :=
  { row with
    status := decided approved
    oracleRequestId := some requestId
    txHash := some txHash }

def responseOf (row : Row) (approved : Bool) (reason txHash : Text) : Response :=
  { claimId := row.id, approved, reason, oracleTxHash := txHash, status := decided approved }

/-- A well-formed body changes the row as it says and is answered with 200;
anything else leaves the row alone and is answered with 502.  The client raises
nothing but its own error. -/
structure DealtWith (key : Option String) (row : Row) (outcome : HttpOutcome) : Prop where
  answered : (∃ approved reason requestId txHash,
      WellFormed outcome approved reason requestId txHash ∧
        triggerVerification key row outcome =
          { row := row.verified approved requestId txHash
            answer := .ok (responseOf row approved reason txHash) }) ∨
    ∃ error, triggerVerification key row outcome = { row, answer := .badGateway error }
  raised : ∀ raised, requestVerification outcome = .error raised →
    ∃ error, raised = .oracleServiceError error

/-- The text is kept as it is by the columns for hashes. -/
structure Held (text : Text) : Prop where
  encodable : Encodable text
  nonNull : 0 ∉ text
  short : text.length ≤ 66

def fieldNames : List String := ["approved", "reason", "requestId", "txHash"]

/-- The answers that are dealt with: none arrived, the status is not 200, a field
of a JSON object is missing, or the body is well-formed, its texts can be stored
and sent on, and so can the key. -/
inductive Expected (key : Option String) : HttpOutcome → Prop where
  | requestError : Expected key .requestError
  | status {statusCode : Nat} {body : Option Json} (other : statusCode ≠ 200) :
      Expected key (.response statusCode body)
  | missing {fields : List (Text × Json)} {name : String} (listed : name ∈ fieldNames)
      (absent : fields.lookup (textOf name) = none) :
      Expected key (.response 200 (some (.object fields)))
  | wellFormed {outcome : HttpOutcome} {approved : Bool} {reason requestId txHash : Text}
      (shaped : WellFormed outcome approved reason requestId txHash)
      (encodable : Encodable reason) (requestHeld : Held requestId) (hashHeld : Held txHash)
      (fits : keyFits key = true) : Expected key outcome

section Client

theorem requestVerification_status {statusCode : Nat} (other : statusCode ≠ 200)
    (body : Option Json) :
    ∃ error, requestVerification (.response statusCode body) =
      .error (.oracleServiceError error) := by
  unfold requestVerification
  by_cases unauthorized : statusCode = 401
  · exact ⟨_, if_pos unauthorized⟩
  · dsimp only
    rw [if_neg unauthorized, if_pos other]
    exact ⟨_, rfl⟩

theorem requestVerification_object (fields : List (Text × Json)) :
    requestVerification (.response 200 (some (.object fields))) = readResult fields := rfl

theorem subscript_present {fields : List (Text × Json)} {name : String} {value : Json}
    (found : fields.lookup (textOf name) = some value) : subscript fields name = .ok value := by
  rw [subscript, found]

theorem subscript_missing {fields : List (Text × Json)} {name : String}
    (absent : fields.lookup (textOf name) = none) :
    subscript fields name = .error (.oracleServiceError (.missingField name)) := by
  rw [subscript, absent]

/-- The first missing field in the order of the names is reported; otherwise the
values are taken as they are. -/
theorem readResult_cases (fields : List (Text × Json)) :
    (∃ name ∈ fieldNames, fields.lookup (textOf name) = none ∧
      readResult fields = .error (.oracleServiceError (.missingField name))) ∨
    ∃ result, fields.lookup (textOf "approved") = some result.approved ∧
      fields.lookup (textOf "reason") = some result.reason ∧
      fields.lookup (textOf "requestId") = some result.requestId ∧
      fields.lookup (textOf "txHash") = some result.txHash ∧
      readResult fields = .ok result := by
  unfold readResult
  cases approved : fields.lookup (textOf "approved") with
  | none =>
      rw [subscript_missing approved]
      exact Or.inl ⟨"approved", by decide, approved, rfl⟩
  | some approvedValue =>
  rw [subscript_present approved]
  cases reason : fields.lookup (textOf "reason") with
  | none =>
      rw [subscript_missing reason]
      exact Or.inl ⟨"reason", by decide, reason, rfl⟩
  | some reasonValue =>
  rw [subscript_present reason]
  cases requestId : fields.lookup (textOf "requestId") with
  | none =>
      rw [subscript_missing requestId]
      exact Or.inl ⟨"requestId", by decide, requestId, rfl⟩
  | some requestIdValue =>
  rw [subscript_present requestId]
  cases txHash : fields.lookup (textOf "txHash") with
  | none =>
      rw [subscript_missing txHash]
      exact Or.inl ⟨"txHash", by decide, txHash, rfl⟩
  | some txHashValue =>
      rw [subscript_present txHash]
      exact Or.inr ⟨⟨approvedValue, reasonValue, requestIdValue, txHashValue⟩, rfl, rfl, rfl, rfl,
        rfl⟩

theorem readResult_missing {fields : List (Text × Json)} {name : String}
    (listed : name ∈ fieldNames) (absent : fields.lookup (textOf name) = none) :
    ∃ error, readResult fields = .error (.oracleServiceError error) := by
  rcases readResult_cases fields with ⟨first, _, _, failed⟩ | ⟨result, a, b, c, d, _⟩
  · exact ⟨_, failed⟩
  · simp only [fieldNames, List.mem_cons, List.not_mem_nil, or_false] at listed
    rcases listed with same | same | same | same <;> subst same <;> simp_all

theorem requestVerification_wellFormed {outcome : HttpOutcome} {approved : Bool}
    {reason requestId txHash : Text}
    (shaped : WellFormed outcome approved reason requestId txHash) :
    requestVerification outcome =
      .ok ⟨.bool approved, .text reason, .text requestId, .text txHash⟩ := by
  obtain ⟨fields, rfl, first, second, third, fourth⟩ := shaped
  rw [requestVerification_object, readResult, subscript_present first, subscript_present second,
    subscript_present third, subscript_present fourth]
  rfl

end Client

section Commit

theorem storedText_eq_self_iff (text : Text) : storedText text = some text ↔ Held text := by
  unfold storedText
  by_cases valid : Encodable text ∧ 0 ∉ text
  · rw [if_pos valid]
    by_cases short : text.length ≤ 66
    · rw [if_pos short]
      exact iff_of_true rfl ⟨valid.1, valid.2, short⟩
    · rw [if_neg short]
      refine iff_of_false ?_ (fun held => short held.short)
      split
      · intro same
        have lengths := congrArg List.length (Option.some.inj same)
        rw [List.length_take] at lengths
        omega
      · exact nofun
  · rw [if_neg valid]
    exact iff_of_false nofun (fun held => valid ⟨held.encodable, held.nonNull⟩)

theorem commitRow_texts (row : Row) (approved : Bool) (reason : Json) (requestId txHash : Text) :
    commitRow row ⟨.bool approved, reason, .text requestId, .text txHash⟩ =
      (storedText requestId).bind fun storedId =>
        (storedText txHash).map fun storedHash => row.verified approved storedId storedHash := by
  cases first : storedText requestId with
  | none => simp [commitRow, bindText, first]
  | some storedId =>
      cases second : storedText txHash with
      | none => simp [commitRow, bindText, first, second]
      | some storedHash => simp [commitRow, bindText, first, second, Row.verified, Json.truthy]

theorem respond_texts (row : Row) (approved : Bool) (reason txHash : Text) (requestId : Json) :
    respond row ⟨.bool approved, .text reason, requestId, .text txHash⟩ =
      if Encodable reason ∧ Encodable txHash then
        some { claimId := row.id, approved, reason, oracleTxHash := txHash, status := row.status }
      else none := rfl

end Commit

section Answer

variable {key : Option String} {row : Row} {outcome : HttpOutcome}

theorem triggerVerification_refused {error : ClientError}
    (refused : requestVerification outcome = .error (.oracleServiceError error)) :
    triggerVerification key row outcome = { row, answer := .badGateway error } := by
  rw [triggerVerification, refused]

theorem dealtWith_of_refused {error : ClientError}
    (refused : requestVerification outcome = .error (.oracleServiceError error)) :
    DealtWith key row outcome where
  answered := Or.inr ⟨error, triggerVerification_refused refused⟩
  raised := by
    intro raised failed
    rw [refused] at failed
    cases failed
    exact ⟨error, rfl⟩

theorem dealtWith_of_held {approved : Bool} {reason requestId txHash : Text}
    (shaped : WellFormed outcome approved reason requestId txHash)
    (encodable : Encodable reason) (requestHeld : Held requestId) (hashHeld : Held txHash)
    (fits : keyFits key = true) : DealtWith key row outcome where
  answered := by
    refine Or.inl ⟨approved, reason, requestId, txHash, shaped, ?_⟩
    rw [triggerVerification, requestVerification_wellFormed shaped]
    dsimp only
    rw [commitRow_texts, (storedText_eq_self_iff _).mpr requestHeld,
      (storedText_eq_self_iff _).mpr hashHeld]
    simp only [Option.bind_some, Option.map_some]
    rw [respond_texts, if_pos ⟨encodable, hashHeld.encodable⟩]
    exact if_pos fits
  raised := by
    intro raised failed
    rw [requestVerification_wellFormed shaped] at failed
    cases failed

/-- A result is never answered with 502. -/
theorem not_badGateway_of_ok {result : Result} (done : requestVerification outcome = .ok result)
    (error : ClientError) :
    triggerVerification key row outcome ≠ { row, answer := .badGateway error } := by
  rw [triggerVerification, done]
  dsimp only
  split
  · exact nofun
  · split
    · exact nofun
    · split <;> exact nofun

theorem held_of_answered {approved : Bool} {reason requestId txHash : Text}
    (shaped : WellFormed outcome approved reason requestId txHash)
    (answered : triggerVerification key row outcome =
      { row := row.verified approved requestId txHash
        answer := .ok (responseOf row approved reason txHash) }) :
    Encodable reason ∧ Held requestId ∧ Held txHash ∧ keyFits key = true := by
  rw [triggerVerification, requestVerification_wellFormed shaped] at answered
  dsimp only at answered
  rw [commitRow_texts] at answered
  cases storedId : storedText requestId with
  | none =>
      rw [storedId] at answered
      cases congrArg Triggered.answer answered
  | some keptId =>
  cases storedHash : storedText txHash with
  | none =>
      rw [storedId, storedHash] at answered
      cases congrArg Triggered.answer answered
  | some keptHash =>
      rw [storedId, storedHash] at answered
      simp only [Option.bind_some, Option.map_some] at answered
      rw [respond_texts] at answered
      by_cases encodable : Encodable reason ∧ Encodable txHash
      · rw [if_pos encodable] at answered
        dsimp only at answered
        split at answered
        case isFalse => cases congrArg Triggered.answer answered
        rename_i fits
        have rows := congrArg Triggered.row answered
        have sameId : some keptId = some requestId := congrArg Row.oracleRequestId rows
        have sameHash : some keptHash = some txHash := congrArg Row.txHash rows
        rw [sameId] at storedId
        rw [sameHash] at storedHash
        exact ⟨encodable.1, (storedText_eq_self_iff _).mp storedId,
          (storedText_eq_self_iff _).mp storedHash, fits⟩
      · rw [if_neg encodable] at answered
        cases congrArg Triggered.answer answered

end Answer

/-- An answer of the service is dealt with exactly when it is an expected one,
whatever the row. -/
theorem dealtWith_iff_expected (key : Option String) (row : Row) (outcome : HttpOutcome) :
    DealtWith key row outcome ↔ Expected key outcome := by
  constructor
  · intro dealt
    cases outcome with
    | requestError => exact .requestError
    | response statusCode body =>
        by_cases success : statusCode = 200
        · subst success
          cases body with
          | none =>
              obtain ⟨error, impossible⟩ := dealt.raised .jsonDecodeError rfl
              cases impossible
          | some json =>
              cases json with
              | object fields =>
                  rcases readResult_cases fields with ⟨name, listed, absent, _⟩ | ⟨result, rest⟩
                  · exact .missing listed absent
                  · have done := requestVerification_object fields
                    rw [rest.2.2.2.2] at done
                    rcases dealt.answered with ⟨approved, reason, requestId, txHash, shaped,
                      answered⟩ | ⟨error, refused⟩
                    · obtain ⟨encodable, requestHeld, hashHeld, fits⟩ :=
                        held_of_answered shaped answered
                      exact .wellFormed shaped encodable requestHeld hashHeld fits
                    · exact absurd refused (not_badGateway_of_ok done error)
              | _ =>
                  obtain ⟨error, impossible⟩ := dealt.raised .typeError rfl
                  cases impossible
        · exact .status success
  · intro expected
    cases expected with
    | requestError => exact dealtWith_of_refused rfl
    | status other =>
        obtain ⟨error, refused⟩ := requestVerification_status other _
        exact dealtWith_of_refused refused
    | missing listed absent =>
        obtain ⟨error, refused⟩ := readResult_missing listed absent
        exact dealtWith_of_refused refused
    | wellFormed shaped encodable requestHeld hashHeld fits =>
        exact dealtWith_of_held shaped encodable requestHeld hashHeld fits

section Sample

def sampleRow : Row where
  id := 1
  declaredAmount := 500
  status := .submitted
  onchainClaimId := some 1
  txHash := none
  oracleRequestId := none

/-- A decision without a reason. -/
def unreasoned : HttpOutcome :=
  .response 200 (some (.object
    [(textOf "approved", .bool true), (textOf "reason", .null),
     (textOf "requestId", .text (textOf "0x11")), (textOf "txHash", .text (textOf "0x99"))]))

/-- The row is approved, yet the request fails with an error that is not 502; and
a body that is not JSON raises an error of its own. -/
theorem malformed_answers_not_dealt_with :
    (triggerVerification none sampleRow unreasoned =
        { row := sampleRow.verified true (textOf "0x11") (textOf "0x99")
          answer := .internalServerError } ∧
      ¬DealtWith none sampleRow unreasoned) ∧
    (triggerVerification none sampleRow (.response 200 none) =
        { row := sampleRow, answer := .internalServerError } ∧
      requestVerification (.response 200 none) = .error .jsonDecodeError ∧
      ¬DealtWith none sampleRow (.response 200 none)) := by
  refine ⟨⟨by decide, ?_⟩, ⟨by decide, rfl, ?_⟩⟩
  · intro dealt
    rcases dealt.answered with ⟨approved, reason, requestId, txHash, shaped, _⟩ | ⟨error, refused⟩
    · obtain ⟨fields, outcome, _, given, _⟩ := shaped
      cases outcome
      cases given
    · have answers := congrArg Triggered.answer refused
      revert answers
      exact nofun
  · intro dealt
    obtain ⟨error, impossible⟩ := dealt.raised .jsonDecodeError rfl
    cases impossible

end Sample

end Dics.Backend.OracleClient
