import Callflow.Json.Reader

/-!
Passing over a value without keeping it. Any number of levels may be open, numbers of any size are
passed, and an escape is only looked at, not decoded.
-/

namespace Callflow.Json

namespace Scan

def passDigits : Scan Unit := do
  let _ ← digits

def passExponent : Scan Unit := do
  skip
  let sign ← peek
  if sign = some (byte '+') ∨ sign = some (byte '-') then skip
  if (← next).any isDigit then passDigits else fail .badNumber

def passTail : Scan Unit := do
  let b ← peek
  if b = some (byte 'e') ∨ b = some (byte 'E') then passExponent

def passNumber : Scan Unit := do
  let b ← next
  if b = some (byte '0') then
    if (← peek).any isDigit then failAt .badNumber
  else if b.any isDigit then passDigits
  else fail .badNumber
  if (← peek) = some (byte '.') then do
    skip
    if (← digits).isEmpty then failAt .badNumber
  passTail

def passEscape : Scan Unit := do
  match ← next with
  | none => fail .stringEnds
  | some b =>
    if (simpleEscape? b).isSome then pure ()
    else if b = byte 'u' then do
      let _ ← hexEscape
    else fail .badEscape

def passPieces : (steps : Nat) → Scan Unit
  | 0 => fail .stringEnds
  | steps + 1 => do
    fun bs => .ok ((), bs.dropWhile isPlain)
    match ← peek with
    | none => fail .stringEnds
    | some b =>
      if b = byte '"' then skip
      else if b = byte '\\' then do
        skip
        passEscape
        passPieces steps
      else fail .controlCharacter

def passString : Scan Unit := do passPieces ((← unreadLength) + 1)

inductive Bracket where
  | list
  | object
  deriving DecidableEq

def Bracket.ends : Bracket → Fault
  | .list => .listEnds
  | .object => .objectEnds

def Bracket.commaExpected : Bracket → Fault
  | .list => .listCommaExpected
  | .object => .objectCommaExpected

def Bracket.closing : Bracket → Char
  | .list => ']'
  | .object => '\x7d'

def passStart : Scan (Option Bracket) := do
  match ← peekToken with
  | none => failAt .valueEnds
  | some b =>
    if b = byte 'n' then do
      skip
      word ['u', 'l', 'l']
      pure none
    else if b = byte 't' then do
      skip
      word ['r', 'u', 'e']
      pure none
    else if b = byte 'f' then do
      skip
      word ['a', 'l', 's', 'e']
      pure none
    else if b = byte '-' then do
      skip
      passNumber
      pure none
    else if isDigit b then do
      passNumber
      pure none
    else if b = byte '"' then do
      skip
      passString
      pure none
    else if b = byte '[' then do
      skip
      pure (some .list)
    else if b = byte '\x7b' then do
      skip
      pure (some .object)
    else failAt .valueExpected

/-- Closes brackets, innermost first, until another item follows. What is left are the brackets it
stands in; `fresh` says that nothing has been read in the innermost one. -/
def passClosings : List Bracket → (fresh : Bool) → Scan (List Bracket)
  | [], _ => pure []
  | b :: outer, fresh => do
    match ← peekToken with
    | none => failAt b.ends
    | some c =>
      if c = byte ',' ∧ !fresh then do
        skip
        pure (b :: outer)
      else if c = byte b.closing then do
        skip
        passClosings outer false
      else if fresh then pure (b :: outer)
      else failAt b.commaExpected

def passKey : Scan Unit := do
  match ← peekToken with
  | none => failAt .objectEnds
  | some b =>
    if b = byte '"' then do
      skip
      passString
      colon
    else failAt .keyNotString

/-- Values up to the end of the outermost bracket; each step takes at least one byte. -/
def passFrom : (steps : Nat) → List Bracket → Scan Unit
  | 0, _ => fail .valueEnds
  | steps + 1, enclosing => do
    let opened ← passStart
    let enclosing ← match opened with
      | some b => passClosings (b :: enclosing) true
      | none => passClosings enclosing false
    match enclosing with
    | [] => pure ()
    | b :: _ => do
      if b = .object then passKey
      passFrom steps enclosing

def passValue : Scan Unit := do passFrom ((← unreadLength) + 1) []

end Scan

end Callflow.Json
