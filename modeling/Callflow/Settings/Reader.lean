import Callflow.Json.Passing
import Callflow.Json.Writer
import Callflow.Settings

/-!
Settings in a JSON text. The text is read once, from left to right, and the first thing wrong with
it is reported where it stands, be it the text or the shape of a value. A setting that is not given
keeps its default, an unknown one is passed over, one given twice is refused. Settings and model
defaults may also be given as the list of their values, which may end early.
-/

namespace Callflow.Settings.Reader

open Json Scan

/-- The value that stands where another shape was expected. An array or an object is refused before
it is read, anything else behind it. -/
def refuse {α : Type} (expected : Shape) : Scan α := do
  let mismatch {α : Type} (found : Found) : Scan α := fail (.mismatch (.wrongType found expected))
  match ← peekToken with
  | none => failAt .valueExpected
  | some b =>
    if b = byte 'n' then do
      skip
      word ['u', 'l', 'l']
      mismatch .null
    else if b = byte 't' then do
      skip
      word ['r', 'u', 'e']
      mismatch (.bool true)
    else if b = byte 'f' then do
      skip
      word ['a', 'l', 's', 'e']
      mismatch (.bool false)
    else if b = byte '-' then do
      skip
      mismatch (.number (← number true))
    else if isDigit b then mismatch (.number (← number false))
    else if b = byte '"' then do
      skip
      mismatch (.string (← string))
    else if b = byte '[' then mismatch .sequence
    else if b = byte '\x7b' then mismatch .map
    else failAt .valueExpected

def valueStart : Scan UInt8 := do
  match ← peekToken with
  | none => failAt .valueEnds
  | some b => pure b

def text : Scan String := do
  if (← valueStart) = byte '"' then do
    skip
    string
  else refuse .text

def real : Scan Decimal.Binary64 := do
  let b ← valueStart
  if b = byte '-' then do
    skip
    return (← number true).toBinary64
  else if isDigit b then return (← number false).toBinary64
  else refuse .real

def texts : Scan (List String) := do
  if (← valueStart) = byte '[' then do
    skip
    itemsOf text ((← unreadLength) + 1) true
  else refuse .sequence

/-- A record read onto its defaults: its fields by name, each with how it is read into the
record. -/
abbrev Fields (α : Type) := List (String × (α → Scan α))

/-- A field given twice is reported behind its name and the blanks after it, or behind the brace
that follows them. -/
def refuseTwice {α : Type} (name : String) : Scan α := do
  if (← peekToken) = some (byte '\x7d') then skip
  fail (.mismatch (.duplicateField name))

def readObject {α : Type} (known : Fields α) :
    (steps : Nat) → (first : Bool) → (seen : List String) → α → Scan α
  | 0, _, _, _ => fail .objectEnds
  | steps + 1, first, seen, a => do
    if ← nextField first then do
      skip
      let key ← string
      match known.lookup key with
      | none => do
        colon
        passValue
        readObject known steps false seen a
      | some read =>
        if key ∈ seen then refuseTwice key
        else do
          colon
          let a ← read a
          readObject known steps false (key :: seen) a
    else do
      skip
      pure a

def closeList : Scan Unit := do
  match ← peekToken with
  | none => failAt .listEnds
  | some b =>
    if b = byte ']' then skip
    else if b = byte ',' then do
      skip
      if (← peekToken) = some (byte ']') then failAt .trailingComma else failAt .trailingCharacters
    else failAt .trailingCharacters

def readList {α : Type} : Fields α → (first : Bool) → α → Scan α
  | [], _, a => do
    closeList
    pure a
  | (_, read) :: rest, first, a => do
    if ← nextItem first then do
      let a ← read a
      readList rest false a
    else do
      skip
      pure a

def record {α : Type} (name : String) (known : Fields α) (start : α) : Scan α := do
  let b ← valueStart
  if b = byte '[' then do
    skip
    readList known true start
  else if b = byte '\x7b' then do
    skip
    readObject known ((← unreadLength) + 1) true [] start
  else refuse (.record name)

def modelFields : Fields ModelDefaults := [
  ("model_type", fun m => return { m with modelType := ← text }),
  ("temperature", fun m => return { m with temperature := ← real })]

def model : Scan ModelDefaults := record "ModelDefaults" modelFields {}

def fields : Fields Settings := [
  ("seed_variables", fun s => return { s with seedVariables := ← texts }),
  ("integer_variables", fun s => return { s with integerVariables := ← texts }),
  ("greeting_terms", fun s => return { s with greetingTerms := ← texts }),
  ("default_text", fun s => return { s with defaultText := ← text }),
  ("end_call_prompt", fun s => return { s with endCallPrompt := ← text }),
  ("synthesized_greeting", fun s => return { s with synthesizedGreeting := ← text }),
  ("synthesized_closing", fun s => return { s with synthesizedClosing := ← text }),
  ("model_options", fun s => return { s with model := ← model })]

end Reader

open Json

def read (input : String) : Except SyntaxError Settings :=
  Scan.run (do
    let s ← Reader.record "CompilerConfig" Reader.fields {}
    Scan.finish
    pure s) input

def readMessage (e : SyntaxError) : String := "Could not parse config: " ++ e.message

def ofTexts (ts : List String) : Value := .array (ts.map .string)

def encodeModel (m : ModelDefaults) : Value :=
  .object [("model_type", .string m.modelType), ("temperature", .ofBinary64 m.temperature)]

def encode (s : Settings) : Value :=
  .object [
    ("seed_variables", ofTexts s.seedVariables),
    ("integer_variables", ofTexts s.integerVariables),
    ("greeting_terms", ofTexts s.greetingTerms),
    ("default_text", .string s.defaultText),
    ("end_call_prompt", .string s.endCallPrompt),
    ("synthesized_greeting", .string s.synthesizedGreeting),
    ("synthesized_closing", .string s.synthesizedClosing),
    ("model_options", encodeModel s.model)]

end Callflow.Settings
