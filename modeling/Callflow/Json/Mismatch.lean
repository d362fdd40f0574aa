import Callflow.Decimal.Shortest
import Callflow.Json.Value
import Callflow.Text.Quoted

/-!
How a JSON value can fail to have the shape a document asks for, and the readers of the plain
shapes.
-/

namespace Callflow.Json

inductive Found where
  | null
  | bool (b : Bool)
  | number (n : Number)
  | string (s : String)
  | sequence
  | map
  deriving DecidableEq, Repr

inductive Shape where
  | text
  | flag
  | real
  | sequence
  | tuple (size : Nat)
  | record (name : String)
  | nameOrMap
  | nothing
  deriving DecidableEq, Repr

inductive Mismatch where
  | wrongType (found : Found) (expected : Shape)
  /-- A sequence of values for a record or a tuple ends before its place `given`. -/
  | tooShort (given : Nat) (expected : Shape) (size : Nat)
  | tooLong (given : Nat)
  | notOneKey
  | missingField (name : String)
  | duplicateField (name : String)
  | unknownName (name : String) (known : List String)
  | noAlternative (choice : String)
  deriving DecidableEq, Repr

def Number.render : Number → String
  | .int n _ => toString n
  | .float x _ => x.render

namespace Found

def ofValue : Value → Found
  | .null => .null
  | .bool b => .bool b
  | .number n => .number n
  | .string s => .string s
  | .array _ => .sequence
  | .object _ => .map

def describe : Found → String
  | .null => "null"
  | .bool b => "boolean `" ++ toString b ++ "`"
  | .number (.int n h) => "integer `" ++ (Number.int n h).render ++ "`"
  | .number (.float x h) => "floating point `" ++ (Number.float x h).render ++ "`"
  | .string s => "string " ++ Text.quoted s
  | .sequence => "sequence"
  | .map => "map"

end Found

def Shape.describe : Shape → String
  | .text => "a string"
  | .flag => "a boolean"
  | .real => "f64"
  | .sequence => "a sequence"
  | .tuple n => "a tuple of size " ++ toString n
  | .record name => "struct " ++ name
  | .nameOrMap => "string or map"
  | .nothing => "unit"

namespace Mismatch

def tick (s : String) : String := "`" ++ s ++ "`"

def message : Mismatch → String
  | .wrongType found expected =>
    "invalid type: " ++ found.describe ++ ", expected " ++ expected.describe
  | .tooShort given (.record name) size =>
    "invalid length " ++ toString given ++ ", expected struct " ++ name ++ " with " ++
      toString size ++ (if size = 1 then " element" else " elements")
  | .tooShort given expected _ =>
    "invalid length " ++ toString given ++ ", expected " ++ expected.describe
  | .tooLong given =>
    "invalid length " ++ toString given ++ ", expected fewer elements in array"
  | .notOneKey => "invalid value: map, expected map with a single key"
  | .missingField name => "missing field " ++ tick name
  | .duplicateField name => "duplicate field " ++ tick name
  | .unknownName name known =>
    "unknown variant " ++ tick name ++ ", expected one of " ++
      String.intercalate ", " (known.map tick)
  | .noAlternative choice => "data did not match any variant of untagged enum " ++ choice

end Mismatch

abbrev Decoder (α : Type) := Value → Except Mismatch α

namespace Decoder

def refuse {α : Type} (v : Value) (expected : Shape) : Except Mismatch α :=
  .error (.wrongType (.ofValue v) expected)

def text : Decoder String
  | .string s => .ok s
  | v => refuse v .text

def flag : Decoder Bool
  | .bool b => .ok b
  | v => refuse v .flag

def real : Decoder Decimal.Binary64
  | .number n => .ok n.toBinary64
  | v => refuse v .real

def any : Decoder Value := .ok

def nothing : Decoder Unit
  | .null => .ok ()
  | v => refuse v .nothing

def items {α : Type} (item : Decoder α) : List Value → Except Mismatch (List α)
  | [] => .ok []
  | v :: rest => do
    let a ← item v
    let as ← items item rest
    .ok (a :: as)

def list {α : Type} (item : Decoder α) : Decoder (List α)
  | .array vs => items item vs
  | v => refuse v .sequence

def optional {α : Type} (decode : Decoder α) : Decoder (Option α)
  | .null => .ok none
  | v => (decode v).map some

/-- One of a closed list of names, as a text or as the only key of an object whose value is
`null`. -/
def name {α : Type} (known : List (String × α)) (v : Value) : Except Mismatch α :=
  match v with
  | .string s => ofName s
  | .object [(s, payload)] => do
    let a ← ofName s
    nothing payload
    .ok a
  | .object _ => .error .notOneKey
  | v => refuse v .nameOrMap
where
  ofName (s : String) : Except Mismatch α :=
    match known.lookup s with
    | some a => .ok a
    | none => .error (.unknownName s (known.map (·.1)))

def choose {α : Type} (choice : String) (alternatives : List (Value → Option α)) : Decoder α :=
  fun v =>
    match alternatives.findSome? (· v) with
    | some a => .ok a
    | none => .error (.noAlternative choice)

end Decoder

end Callflow.Json
