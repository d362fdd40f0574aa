import Callflow.Decimal.Shortest
import Callflow.Json.Mismatch

/-!
Writing a JSON value, without blanks or with one field or item a line and two blanks a level.
Fields are written in the order they stand.
-/

namespace Callflow.Json

def hexByte (n : Nat) : List Char :=
  (if n < 16 then ['0'] else []) ++ Nat.toDigits 16 n

def escapeChar (c : Char) : List Char :=
  match c with
  | '"' => ['\\', '"']
  | '\\' => ['\\', '\\']
  | '\x08' => ['\\', 'b']
  | '\x0c' => ['\\', 'f']
  | '\n' => ['\\', 'n']
  | '\r' => ['\\', 'r']
  | '\t' => ['\\', 't']
  | c => if c.toNat < 0x20 then ['\\', 'u', '0', '0'] ++ hexByte c.toNat else [c]

def writeString (s : String) : String :=
  String.ofList ('"' :: (s.toList.flatMap escapeChar ++ ['"']))

namespace Value

mutual

def compact : Value → String
  | .null => "null"
  | .bool b => toString b
  | .number n => n.render
  | .string s => writeString s
  | .array vs => "[" ++ String.intercalate "," (compactItems vs) ++ "]"
  | .object fields => "\x7b" ++ String.intercalate "," (compactFields fields) ++ "\x7d"

def compactItems : List Value → List String
  | [] => []
  | v :: vs => compact v :: compactItems vs

def compactFields : List (String × Value) → List String
  | [] => []
  | (key, v) :: fields => (writeString key ++ ":" ++ compact v) :: compactFields fields

end

def indent (level : Nat) : String := String.ofList ('\n' :: List.replicate (2 * level) ' ')

/-- Items one a line at a level, between brackets at the level outside it. -/
def block (level : Nat) (opening closing : String) (items : List String) : String :=
  if items.isEmpty then opening ++ closing
  else
    opening ++ indent (level + 1) ++ String.intercalate ("," ++ indent (level + 1)) items ++
      indent level ++ closing

mutual

def prettyAt (level : Nat) : Value → String
  | .null => "null"
  | .bool b => toString b
  | .number n => n.render
  | .string s => writeString s
  | .array vs => block level "[" "]" (prettyItems (level + 1) vs)
  | .object fields => block level "\x7b" "\x7d" (prettyFields (level + 1) fields)

def prettyItems (level : Nat) : List Value → List String
  | [] => []
  | v :: vs => prettyAt level v :: prettyItems level vs

def prettyFields (level : Nat) : List (String × Value) → List String
  | [] => []
  | (key, v) :: fields =>
    (writeString key ++ ": " ++ prettyAt level v) :: prettyFields level fields

end

def pretty (v : Value) : String := prettyAt 0 v

end Value

end Callflow.Json
