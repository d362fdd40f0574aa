import Callflow.Decimal.Scaled
import Callflow.Json.Fault

/-!
The lexical level of JSON: blanks, words, strings and numbers. A step takes the unread bytes and
gives a value with the bytes it leaves. A fault found at the next byte without reading it is
reported behind that byte (`failAt`), one found by reading is reported there (`fail`).
-/

namespace Callflow.Json

abbrev Scan (α : Type) := StateT Bytes (Except Failure) α

namespace Scan

def run {α : Type} (s : Scan α) (text : String) : Except SyntaxError α :=
  let bytes := text.toUTF8.toList
  match StateT.run s bytes with
  | .ok (a, _) => .ok a
  | .error f => .error (f.locate bytes)

def fail {α : Type} (fault : Fault) : Scan α := fun bs => .error ⟨fault, bs⟩

def failAt {α : Type} (fault : Fault) : Scan α := fun bs => .error ⟨fault, bs.tail⟩

def peek : Scan (Option UInt8) := fun bs => .ok (bs.head?, bs)

def skip : Scan Unit := fun bs => .ok ((), bs.tail)

def next : Scan (Option UInt8) := fun bs => .ok (bs.head?, bs.tail)

def isSpace (b : UInt8) : Bool := b == 32 || b == 9 || b == 10 || b == 13

def peekToken : Scan (Option UInt8) := fun bs =>
  let bs := bs.dropWhile isSpace
  .ok (bs.head?, bs)

def byte (c : Char) : UInt8 := UInt8.ofNat c.toNat

def word : List Char → Scan Unit
  | [] => pure ()
  | c :: rest => do
    match ← next with
    | none => fail .valueEnds
    | some b => if b = byte c then word rest else fail .identExpected

def isDigit (b : UInt8) : Bool := decide (48 ≤ b) && decide (b ≤ 57)

def digit (b : UInt8) : Nat := b.toNat - 48

def digits : Scan (List Nat) := fun bs =>
  .ok ((bs.takeWhile isDigit).map digit, bs.dropWhile isDigit)

def hexValue? (b : UInt8) : Option Nat :=
  let n := b.toNat
  if 48 ≤ n ∧ n ≤ 57 then some (n - 48)
  else if 65 ≤ n ∧ n ≤ 70 then some (n - 55)
  else if 97 ≤ n ∧ n ≤ 102 then some (n - 87)
  else none

def hexEscape : Scan Nat := fun bs =>
  match bs with
  | a :: b :: c :: d :: rest =>
    match hexValue? a, hexValue? b, hexValue? c, hexValue? d with
    | some a, some b, some c, some d => .ok (((a * 16 + b) * 16 + c) * 16 + d, rest)
    | _, _, _, _ => .error ⟨.badEscape, rest⟩
  | _ => .error ⟨.stringEnds, []⟩

def isHighSurrogate (n : Nat) : Bool := decide (0xD800 ≤ n) && decide (n ≤ 0xDBFF)

def isLowSurrogate (n : Nat) : Bool := decide (0xDC00 ≤ n) && decide (n ≤ 0xDFFF)

def pairByte (c : Char) : Scan Unit := do
  match ← next with
  | none => fail .stringEnds
  | some b => if b = byte c then pure () else fail .surrogateEnds

def unicodeEscape : Scan Char := do
  let n ← hexEscape
  if isLowSurrogate n then fail .loneSurrogate
  else if isHighSurrogate n then do
    pairByte '\\'
    pairByte 'u'
    let m ← hexEscape
    if isLowSurrogate m then pure (Char.ofNat (0x10000 + (n - 0xD800) * 0x400 + (m - 0xDC00)))
    else fail .loneSurrogate
  else pure (Char.ofNat n)

def simpleEscape? (b : UInt8) : Option Char :=
  [('"', '"'), ('\\', '\\'), ('/', '/'), ('b', '\x08'), ('f', '\x0c'), ('n', '\n'), ('r', '\r'),
    ('t', '\t')].findSome? fun (letter, c) => if b = byte letter then some c else none

def escape : Scan Char := do
  match ← next with
  | none => fail .stringEnds
  | some b =>
    match simpleEscape? b with
    | some c => pure c
    | none => if b = byte 'u' then unicodeEscape else fail .badEscape

def isPlain (b : UInt8) : Bool := b != byte '"' && b != byte '\\' && decide (32 ≤ b)

def utf8 (c : Char) : Bytes := (String.singleton c).toUTF8.toList

/-- The bytes of a string up to its closing quote, in pieces; every piece takes at least one byte,
so `steps` need be no more than the unread bytes. -/
def pieces : (steps : Nat) → Scan (List Bytes)
  | 0 => fail .stringEnds
  | steps + 1 => do
    let plain : Bytes ← fun bs => .ok (bs.takeWhile isPlain, bs.dropWhile isPlain)
    match ← next with
    | none => fail .stringEnds
    | some b =>
      if b = byte '"' then pure [plain]
      else if b = byte '\\' then do
        let c ← escape
        let rest ← pieces steps
        pure (plain :: utf8 c :: rest)
      else fail .controlCharacter

def textOf (bs : Bytes) : String := (String.fromUTF8? ⟨bs.toArray⟩).getD ""

def string : Scan String := fun bs =>
  (do let ps ← pieces (bs.length + 1); pure (textOf ps.flatten) : Scan String) bs

def wordLimit : Nat := 0x10000000000000000

/-- As many digits onto `n` as keep it below the limit of a word, and the number of those left. -/
def fill (n : Nat) : List Nat → Nat × List Nat
  | [] => (n, [])
  | d :: ds => if n * 10 + d < wordLimit then fill (n * 10 + d) ds else (n, d :: ds)

def literal (negative : Bool) (n : Nat) (exponent : Int) : Scan Number := do
  match (Decimal.ofLiteral? negative n exponent).bind Number.ofBinary64? with
  | some x => pure x
  | none => fail .numberTooLarge

def exponentLimit : Nat := 0x80000000

/-- The digits of an exponent onto `e`. One beyond the limit ends the reading of a number that
would be too large. -/
def exponentDigits (tooLarge : Bool) (e : Nat) : Bytes → Except Failure (Nat × Bytes)
  | [] => .ok (e, [])
  | b :: rest =>
    if isDigit b then
      let e := e * 10 + digit b
      if tooLarge ∧ exponentLimit ≤ e then .error ⟨.numberTooLarge, rest⟩
      else exponentDigits tooLarge e rest
    else .ok (e, b :: rest)

/-- The exponent of a number, if one follows; `n * 10 ^ start` was read before it. -/
def withExponent (negative : Bool) (n : Nat) (start : Int) : Scan Number := do
  let b ← peek
  if b = some (byte 'e') ∨ b = some (byte 'E') then do
    skip
    let sign ← peek
    if sign = some (byte '+') ∨ sign = some (byte '-') then skip
    let down := decide (sign = some (byte '-'))
    match ← next with
    | none => fail .valueEnds
    | some d =>
      if isDigit d then do
        let e ← exponentDigits (!down && n != 0) (digit d)
        literal negative n (if down then start - e else start + e)
      else fail .badNumber
  else literal negative n start

def withDecimals (negative : Bool) (n : Nat) (start : Int) : Scan Number := do
  if (← peek) = some (byte '.') then do
    skip
    let ds ← digits
    if ds.isEmpty then
      match ← peek with
      | none => failAt .valueEnds
      | some _ => failAt .badNumber
    else
      let (m, left) := fill n ds
      withExponent negative m (start - (ds.length - left.length : Nat))
  else withExponent negative n start

/-- A whole number: one that no 64-bit integer holds is a binary64 number, and so is `-0`. -/
def whole (negative : Bool) (n : Nat) : Scan Number := do
  if negative ∧ n = 0 then literal true 0 0
  else
    match Number.ofInt? (if negative then -n else n) with
    | some x => pure x
    | none => literal negative n 0

def number (negative : Bool) : Scan Number := do
  match ← next with
  | none => fail .valueEnds
  | some b =>
    if b = byte '0' then do
      if (← peek).any isDigit then failAt .badNumber
      else tail 0 []
    else if isDigit b then do
      let ds ← digits
      let (n, left) := fill (digit b) ds
      tail n left
    else fail .badNumber
where
  tail (n : Nat) (left : List Nat) : Scan Number := do
    let b ← peek
    if left.isEmpty ∧ b ≠ some (byte '.') ∧ b ≠ some (byte 'e') ∧ b ≠ some (byte 'E') then
      whole negative n
    else withDecimals negative n left.length

end Scan

end Callflow.Json
