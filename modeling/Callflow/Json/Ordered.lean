import Callflow.Json.Value

/-!
Values in the form that reading a text gives them: at every depth an object has each key once, in
the order of code points.
-/

namespace Callflow.Json.Value

/-- Fields in the order of their keys, the last of several with one key. -/
def sortedFields (fields : List (String × Value)) : List (String × Value) :=
  fields.foldl (fun acc (key, v) => insertField acc key v) []

mutual

/-- The value with the fields of every object in the order of their keys. -/
def ordered : Value → Value
  | .array vs => .array (orderedItems vs)
  | .object fields => .object (sortedFields (orderedFields fields))
  | .null => .null
  | .bool b => .bool b
  | .number n => .number n
  | .string s => .string s

def orderedItems : List Value → List Value
  | [] => []
  | v :: rest => ordered v :: orderedItems rest

def orderedFields : List (String × Value) → List (String × Value)
  | [] => []
  | (key, v) :: rest => (key, ordered v) :: orderedFields rest

end

def IsOrdered (v : Value) : Prop := v.ordered = v

instance (v : Value) : Decidable v.IsOrdered := inferInstanceAs (Decidable (_ = _))

end Callflow.Json.Value
