import Callflow.Decimal.Binary64

/-!
JSON values. A number keeps the kind its text had: a whole number of 64 bits, signed or not, or a
binary64 number. An object is the list of its fields; one read from a text has each key once, in
the order of code points.
-/

namespace Callflow.Json

open Decimal

/-- The whole numbers that 64 bits hold, signed or not. -/
def IsWord (n : Int) : Prop := -0x8000000000000000 ≤ n ∧ n < 0x10000000000000000

instance (n : Int) : Decidable (IsWord n) := inferInstanceAs (Decidable (_ ∧ _))

inductive Number where
  | int (n : Int) (range : IsWord n)
  | float (x : Binary64) (finite : x.isFinite = true)
  deriving DecidableEq, Repr

namespace Number

def ofInt? (n : Int) : Option Number :=
  if h : IsWord n then some (.int n h) else none

def ofBinary64? (x : Binary64) : Option Number :=
  if h : x.isFinite = true then some (.float x h) else none

def toBinary64 : Number → Binary64
  | .int n _ => Binary64.ofInt n
  | .float x _ => x

end Number

inductive Value where
  | null
  | bool (b : Bool)
  | number (n : Number)
  | string (s : String)
  | array (items : List Value)
  | object (fields : List (String × Value))
  deriving Repr, Inhabited

namespace Value

mutual

def decEq : (v w : Value) → Decidable (v = w)
  | .null, .null => .isTrue rfl
  | .bool a, .bool b => decidable_of_iff (a = b) (by simp)
  | .number a, .number b => decidable_of_iff (a = b) (by simp)
  | .string a, .string b => decidable_of_iff (a = b) (by simp)
  | .array a, .array b =>
    match decEqItems a b with
    | .isTrue h => .isTrue (by rw [h])
    | .isFalse h => .isFalse (by simpa using h)
  | .object a, .object b =>
    match decEqFields a b with
    | .isTrue h => .isTrue (by rw [h])
    | .isFalse h => .isFalse (by simpa using h)
  | .null, .bool _ | .null, .number _ | .null, .string _ | .null, .array _ | .null, .object _
  | .bool _, .null | .bool _, .number _ | .bool _, .string _ | .bool _, .array _
  | .bool _, .object _ | .number _, .null | .number _, .bool _ | .number _, .string _
  | .number _, .array _ | .number _, .object _ | .string _, .null | .string _, .bool _
  | .string _, .number _ | .string _, .array _ | .string _, .object _ | .array _, .null
  | .array _, .bool _ | .array _, .number _ | .array _, .string _ | .array _, .object _
  | .object _, .null | .object _, .bool _ | .object _, .number _ | .object _, .string _
  | .object _, .array _ => .isFalse nofun

def decEqItems : (v w : List Value) → Decidable (v = w)
  | [], [] => .isTrue rfl
  | a :: v, b :: w =>
    match decEq a b, decEqItems v w with
    | .isTrue ha, .isTrue hv => .isTrue (by rw [ha, hv])
    | .isFalse ha, _ => .isFalse (by simp [ha])
    | _, .isFalse hv => .isFalse (by simp [hv])
  | [], _ :: _ | _ :: _, [] => .isFalse nofun

def decEqFields : (v w : List (String × Value)) → Decidable (v = w)
  | [], [] => .isTrue rfl
  | (k, a) :: v, (l, b) :: w =>
    match decEq a b, decEqFields v w with
    | .isTrue ha, .isTrue hv => decidable_of_iff (k = l) (by simp [ha, hv])
    | .isFalse ha, _ => .isFalse (by simp [ha])
    | _, .isFalse hv => .isFalse (by simp [hv])
  | [], _ :: _ | _ :: _, [] => .isFalse nofun

end

instance : DecidableEq Value := decEq

def string? : Value → Option String
  | .string s => some s
  | _ => none

def object? : Value → Option (List (String × Value))
  | .object fields => some fields
  | _ => none

/-- A number of the format, or `null` for one that JSON cannot write. -/
def ofBinary64 (x : Binary64) : Value :=
  match Number.ofBinary64? x with
  | some n => .number n
  | none => .null

def ofNat (n : Nat) : Value :=
  match Number.ofInt? n with
  | some n => .number n
  | none => ofBinary64 (Binary64.ofInt n)

def fieldFor {α : Type} (key : String) (encode : α → Value) (a : Option α) :
    List (String × Value) :=
  match a with
  | some a => [(key, encode a)]
  | none => []

/-- The fields sorted by key, the last of several with one key. -/
def insertField (fields : List (String × Value)) (key : String) (v : Value) :
    List (String × Value) :=
  match fields with
  | [] => [(key, v)]
  | (k, w) :: rest =>
    if key < k then (key, v) :: (k, w) :: rest
    else if key = k then (key, v) :: rest
    else (k, w) :: insertField rest key v

def ofFields (fields : List (String × Value)) : Value :=
  .object (fields.foldl (fun acc (key, v) => insertField acc key v) [])

end Value

end Callflow.Json
