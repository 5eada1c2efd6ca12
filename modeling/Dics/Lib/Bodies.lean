/-
JSON request bodies and the records read from them.

A record is read field by field, each under its declared name.  A required
field that is absent is an error, a body may have further fields, and the
errors of all fields are collected in the order of their declaration.
-/

import Mathlib.Algebra.GroupWithZero.Nat

namespace Bodies

inductive Json where
  | null
  | bool (value : Bool)
  | number (value : Rat)
  | text (value : String)
  | array (items : List Json)
  | object (fields : List (String × Json))

inductive FieldProblem where
  | missing
  | stringType
  | intType
  | intParsing
  | intFromFloat
  deriving DecidableEq

/-- A problem and the name of the field it is about. -/
structure FieldError where
  loc : String
  problem : FieldProblem
  deriving DecidableEq

abbrev Validated (Value : Type) := Except (List FieldError) Value

abbrev Reader (Value : Type) := Json → Except FieldProblem Value

def readString : Reader String
  | .text value => .ok value
  | _ => .error .stringType

/-- The lax mode: whole numbers and the numerals of whole numbers. -/
def readInt : Reader Int
  | .number value => if value.den = 1 then .ok value.num else .error .intFromFloat
  | .text value =>
      match value.toInt? with
      | some number => .ok number
      | none => .error .intParsing
  | _ => .error .intType

def readNullable {Value : Type} (read : Reader Value) : Reader (Option Value)
  | .null => .ok none
  | value => (read value).map some

section Fields

variable {First Second Value : Type}

def required (fields : List (String × Json)) (name : String) (read : Reader Value) :
    Validated Value :=
  match fields.lookup name with
  | none => .error [⟨name, .missing⟩]
  | some value => (read value).mapError (fun problem => [⟨name, problem⟩])

def withDefault (fields : List (String × Json)) (name : String) (read : Reader Value)
    (default : Value) : Validated Value :=
  match fields.lookup name with
  | none => .ok default
  | some value => (read value).mapError (fun problem => [⟨name, problem⟩])

/-- Both fields are read, whatever the first one says. -/
def both (first : Validated First) (second : Validated Second) : Validated (First × Second) :=
  match first, second with
  | .ok left, .ok right => .ok (left, right)
  | .ok _, .error errors => .error errors
  | .error errors, .ok _ => .error errors
  | .error errors, .error more => .error (errors ++ more)

theorem required_missing {fields : List (String × Json)} {name : String}
    (absent : fields.lookup name = none) (read : Reader Value) :
    required fields name read = .error [⟨name, .missing⟩] := by
  unfold required
  rw [absent]

theorem required_present {fields : List (String × Json)} {name : String} {json : Json}
    {read : Reader Value} {value : Value} (present : fields.lookup name = some json)
    (reads : read json = .ok value) : required fields name read = .ok value := by
  simp only [required, present, reads]
  rfl

end Fields

end Bodies
