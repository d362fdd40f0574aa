import Callflow.Json.Mismatch

/-!
Records: values with named fields. A record is written as an object, or as the sequence of its
fields in their order. In an object the fields are read in the order they stand, and the first one
that is malformed or given twice decides; unknown ones are passed over. Only then a required field
that is not there is missed, in the order of the record. In a sequence the last fields may be left
out if each of them can be absent.
-/

namespace Callflow.Json

/-- A field by its name, perhaps a second spelling, and what is wrong with a value of it. -/
structure Slot where
  name : String
  spelling : Option String
  required : Bool
  check : Value → Except Mismatch Unit

def Slot.isSpelled (s : Slot) (key : String) : Bool := key == s.name || s.spelling == some key

/-- The fields of a record and how the record is made of their values. -/
structure Record (α : Type) where
  slots : List Slot
  build : List (String × Value) → Except Mismatch α

namespace Record

instance : Applicative Record where
  pure a := ⟨[], fun _ => .ok a⟩
  seq f x := ⟨f.slots ++ (x ()).slots, fun given => do
    let g ← f.build given
    let a ← (x ()).build given
    .ok (g a)⟩

/-- A field that takes `absent`, if there is such a value, when it is not given. -/
def fieldOr {α : Type} (absent : Option α) (name : String) (spelling : Option String)
    (decode : Decoder α) : Record α where
  slots := [⟨name, spelling, absent.isNone, fun v => (decode v).map fun _ => ()⟩]
  build given :=
    match given.lookup name, absent with
    | some v, _ => decode v
    | none, some a => .ok a
    | none, none => .error (.missingField name)

def required {α : Type} (name : String) (decode : Decoder α) : Record α :=
  fieldOr none name none decode

def withDefault {α : Type} (absent : α) (name : String) (decode : Decoder α) : Record α :=
  fieldOr (some absent) name none decode

def optional {α : Type} (name : String) (decode : Decoder α) : Record (Option α) :=
  withDefault none name (Decoder.optional decode)

def spelledTwice {α : Type} (name spelling : String) (decode : Decoder α) : Record (Option α) :=
  fieldOr (some none) name (some spelling) (Decoder.optional decode)

def screen (slots : List Slot) (seen : List String) :
    List (String × Value) → Except Mismatch (List (String × Value))
  | [] => .ok []
  | (key, v) :: rest =>
    match slots.find? (·.isSpelled key) with
    | none => screen slots seen rest
    | some s =>
      if s.name ∈ seen then .error (.duplicateField s.name)
      else do
        s.check v
        let given ← screen slots (s.name :: seen) rest
        .ok ((s.name, v) :: given)

/-- The values of a sequence under the names of the fields, from place `i` on. -/
def place (shape : Shape) (size : Nat) (i : Nat) :
    List Slot → List Value → Except Mismatch (List (String × Value))
  | s :: slots, v :: rest => do
    s.check v
    let given ← place shape size (i + 1) slots rest
    .ok ((s.name, v) :: given)
  | s :: slots, [] =>
    if s.required then .error (.tooShort i shape size)
    else place shape size (i + 1) slots []
  | [], [] => .ok []
  | [], rest => .error (.tooLong (i + rest.length))

def ofFields {α : Type} (r : Record α) (fields : List (String × Value)) : Except Mismatch α :=
  screen r.slots [] fields >>= r.build

def ofItems {α : Type} (shape : Shape) (r : Record α) (vs : List Value) : Except Mismatch α :=
  place shape r.slots.length 0 r.slots vs >>= r.build

def decode {α : Type} (name : String) (r : Record α) : Decoder α
  | .object fields => r.ofFields fields
  | .array vs => r.ofItems (.record name) vs
  | v => Decoder.refuse v (.record name)

def decodeObject {α : Type} (name : String) (r : Record α) : Decoder α
  | .object fields => r.ofFields fields
  | v => Decoder.refuse v (.record name)

def decodeTuple {α : Type} (r : Record α) : Decoder α
  | .array vs => r.ofItems (.tuple r.slots.length) vs
  | v => Decoder.refuse v (.tuple r.slots.length)

end Record

end Callflow.Json
