import Callflow.Json.Scan

/-!
Reading a JSON value from a text. At most 127 arrays and objects may be open at once, so the reader
recurses on the number of levels that are left; the items of a level are read in a loop over the
unread bytes.
-/

namespace Callflow.Json

namespace Scan

def levels : Nat := 127

/-- Whether another item follows in a list; a comma stands before it unless it is the first. -/
def nextItem (first : Bool) : Scan Bool := do
  match ← peekToken with
  | none => failAt .listEnds
  | some b =>
    if b = byte ']' then pure false
    else if first then pure true
    else if b = byte ',' then do
      skip
      match ← peekToken with
      | none => failAt .valueEnds
      | some b => if b = byte ']' then failAt .trailingComma else pure true
    else failAt .listCommaExpected

def nextField (first : Bool) : Scan Bool := do
  match ← peekToken with
  | none => failAt .objectEnds
  | some b =>
    if b = byte '\x7d' then pure false
    else if first then
      if b = byte '"' then pure true else failAt .keyNotString
    else if b = byte ',' then do
      skip
      match ← peekToken with
      | none => failAt .valueEnds
      | some b =>
        if b = byte '"' then pure true
        else if b = byte '\x7d' then failAt .trailingComma
        else failAt .keyNotString
    else failAt .objectCommaExpected

def colon : Scan Unit := do
  match ← peekToken with
  | none => failAt .objectEnds
  | some b => if b = byte ':' then skip else failAt .colonExpected

def itemsOf {α : Type} (item : Scan α) : (steps : Nat) → (first : Bool) → Scan (List α)
  | 0, _ => fail .listEnds
  | steps + 1, first => do
    if ← nextItem first then do
      let a ← item
      let as ← itemsOf item steps false
      pure (a :: as)
    else do
      skip
      pure []

def fieldsOf {α : Type} (value : Scan α) : (steps : Nat) → (first : Bool) → Scan (List (String × α))
  | 0, _ => fail .objectEnds
  | steps + 1, first => do
    if ← nextField first then do
      skip
      let key ← string
      colon
      let v ← value
      let rest ← fieldsOf value steps false
      pure ((key, v) :: rest)
    else do
      skip
      pure []

def unreadLength : Scan Nat := fun bs => .ok (bs.length, bs)

/-- One value; `nested` reads the values inside it, if there is a level left for them. -/
def valueWith (nested : Option (Scan Value)) : Scan Value := do
  match ← peekToken with
  | none => failAt .valueEnds
  | some b =>
    if b = byte 'n' then do
      skip
      word ['u', 'l', 'l']
      pure .null
    else if b = byte 't' then do
      skip
      word ['r', 'u', 'e']
      pure (.bool true)
    else if b = byte 'f' then do
      skip
      word ['a', 'l', 's', 'e']
      pure (.bool false)
    else if b = byte '-' then do
      skip
      return .number (← number true)
    else if isDigit b then return .number (← number false)
    else if b = byte '"' then do
      skip
      return .string (← string)
    else if b = byte '[' then
      match nested with
      | none => failAt .tooDeep
      | some nested => do
        skip
        return .array (← itemsOf nested ((← unreadLength) + 1) true)
    else if b = byte '\x7b' then
      match nested with
      | none => failAt .tooDeep
      | some nested => do
        skip
        return .ofFields (← fieldsOf nested ((← unreadLength) + 1) true)
    else failAt .valueExpected

def value : (levels : Nat) → Scan Value
  | 0 => valueWith none
  | n + 1 => valueWith (some (value n))

def finish : Scan Unit := do
  if (← peekToken).isSome then failAt .trailingCharacters

end Scan

def Value.read (text : String) : Except SyntaxError Value :=
  Scan.run (do
    let v ← Scan.value Scan.levels
    Scan.finish
    pure v) text

end Callflow.Json
