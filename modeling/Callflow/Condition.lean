import Callflow.Text.Blank

/-!
Conditions: a comparison of a variable with a value, found in a text that holds something like
`if (Age <= 65)`. The first place in the text where one can be read counts, and there the longest
operator with which it can be read.
-/

namespace Callflow

open Text

inductive Operator where
  | lessThan
  | lessThanOrEqual
  | greaterThan
  | greaterThanOrEqual
  | equal
  | notEqual
  deriving DecidableEq, Repr

namespace Operator

def token : Operator → String
  | .lessThan => "<"
  | .lessThanOrEqual => "<="
  | .greaterThan => ">"
  | .greaterThanOrEqual => ">="
  | .equal => "=="
  | .notEqual => "!="

/-- Longer tokens stand before their beginnings. -/
def all : List Operator :=
  [.lessThanOrEqual, .greaterThanOrEqual, .equal, .notEqual, .lessThan, .greaterThan]

def ofToken? (s : String) : Option Operator := all.find? (·.token = s)

def inverse : Operator → Operator
  | .lessThan => .greaterThanOrEqual
  | .lessThanOrEqual => .greaterThan
  | .greaterThan => .lessThanOrEqual
  | .greaterThanOrEqual => .lessThan
  | .equal => .notEqual
  | .notEqual => .equal

end Operator

def invertToken? (token : String) : Option String :=
  (Operator.ofToken? token).map (·.inverse.token)

def elseLabel : String := "Else"

def branchLabels (variableName operator value : String) : String × String :=
  (variableName ++ operator ++ value,
    match invertToken? operator with
    | some inverse => variableName ++ inverse ++ value
    | none => elseLabel)

structure Condition where
  variableName : String
  operator : Operator
  value : String
  deriving DecidableEq, Repr

namespace Condition

def labels (c : Condition) : String × String :=
  branchLabels c.variableName c.operator.token c.value

def trueLabel (c : Condition) : String := c.labels.1

def falseLabel (c : Condition) : String := c.labels.2

/-- The label of an edge that leaves by a handle: only the handle `true` is the true branch. -/
def labelFor (c : Condition) (handle : Option String) : String :=
  if handle = some "true" then c.trueLabel else c.falseLabel

def isNameStart (c : Char) : Bool := c.isAlpha || c == '_'

def isNameChar (c : Char) : Bool := c.isAlphanum || c == '_'

def isValueChar (c : Char) : Bool := !isBlankChar c && c != '(' && c != ')'

def skipBlank (cs : List Char) : List Char := cs.dropWhile isBlankChar

def after? : (token : List Char) → List Char → Option (List Char)
  | [], cs => some cs
  | t :: ts, c :: cs => if t = c then after? ts cs else none
  | _ :: _, [] => none

def readValue? (cs : List Char) : Option (List Char) :=
  let cs := skipBlank cs
  let value := cs.takeWhile isValueChar
  if value.isEmpty then none
  else
    match skipBlank (cs.dropWhile isValueChar) with
    | ')' :: _ => some value
    | _ => none

def readComparison? (cs : List Char) : Option (Operator × List Char) :=
  Operator.all.findSome? fun op =>
    (after? op.token.toList cs).bind fun rest => (readValue? rest).map fun value => (op, value)

def readHere? (cs : List Char) : Option Condition := do
  let cs ← after? ['i', 'f'] cs
  let cs ← after? ['('] (skipBlank cs)
  let cs := skipBlank cs
  if cs.head?.any isNameStart then do
    let (op, value) ← readComparison? (skipBlank (cs.dropWhile isNameChar))
    some ⟨String.ofList (cs.takeWhile isNameChar), op, String.ofList value⟩
  else none

def readChars? : List Char → Option Condition
  | [] => none
  | c :: cs =>
    match readHere? (c :: cs) with
    | some found => some found
    | none => readChars? cs

def read? (text : String) : Option Condition := readChars? text.toList

end Condition

end Callflow
