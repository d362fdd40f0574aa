import Callflow.Json.Mismatch

/-!
What can be wrong with a JSON text, and where. A text is read as the list of its UTF-8 bytes; a
failure keeps the bytes that were not read yet, and its place is counted from them: the line, and
the bytes read of that line.
-/

namespace Callflow.Json

inductive Fault where
  | valueEnds
  | listEnds
  | objectEnds
  | stringEnds
  | colonExpected
  | listCommaExpected
  | objectCommaExpected
  | identExpected
  | valueExpected
  | keyNotString
  | trailingComma
  | trailingCharacters
  | badEscape
  | badNumber
  | numberTooLarge
  | controlCharacter
  | loneSurrogate
  | surrogateEnds
  | tooDeep
  | mismatch (m : Mismatch)
  deriving DecidableEq, Repr

def Fault.message : Fault → String
  | .valueEnds => "EOF while parsing a value"
  | .listEnds => "EOF while parsing a list"
  | .objectEnds => "EOF while parsing an object"
  | .stringEnds => "EOF while parsing a string"
  | .colonExpected => "expected `:`"
  | .listCommaExpected => "expected `,` or `]`"
  | .objectCommaExpected => "expected `,` or `\x7d`"
  | .identExpected => "expected ident"
  | .valueExpected => "expected value"
  | .keyNotString => "key must be a string"
  | .trailingComma => "trailing comma"
  | .trailingCharacters => "trailing characters"
  | .badEscape => "invalid escape"
  | .badNumber => "invalid number"
  | .numberTooLarge => "number out of range"
  | .controlCharacter => "control character (\\u0000-\\u001F) found while parsing a string"
  | .loneSurrogate => "lone leading surrogate in hex escape"
  | .surrogateEnds => "unexpected end of hex escape"
  | .tooDeep => "recursion limit exceeded"
  | .mismatch m => m.message

abbrev Bytes := List UInt8

structure Failure where
  fault : Fault
  unread : Bytes
  deriving DecidableEq, Repr

/-- A place in a text: lines count from one, columns are the bytes read of the line. -/
structure Position where
  line : Nat
  column : Nat
  deriving DecidableEq, Repr

def newline : UInt8 := 10

def Position.after (bytes : Bytes) : Position :=
  bytes.foldl (fun p b => if b = newline then ⟨p.line + 1, 0⟩ else ⟨p.line, p.column + 1⟩) ⟨1, 0⟩

structure SyntaxError where
  fault : Fault
  position : Position
  deriving DecidableEq, Repr

def SyntaxError.message (e : SyntaxError) : String :=
  e.fault.message ++ " at line " ++ toString e.position.line ++ " column " ++
    toString e.position.column

def Failure.locate (whole : Bytes) (f : Failure) : SyntaxError :=
  ⟨f.fault, .after (whole.take (whole.length - f.unread.length))⟩

end Callflow.Json
