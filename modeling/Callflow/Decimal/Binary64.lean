/-!
Numbers of the binary64 format, as words. A finite number is a significand below `2 ^ 53` times a
power of two; a product, a quotient or a ratio of whole numbers is the nearest such number, and of
two equally near ones the one with the even significand. What lies beyond the largest is an
infinity.
-/

namespace Callflow.Decimal

structure Binary64 where
  bits : UInt64
  deriving DecidableEq, Repr

namespace Binary64

def signBit : Nat := 0x8000000000000000

def hiddenBit : Nat := 0x10000000000000

def significandLimit : Nat := 0x20000000000000

def infinity : Nat := 0x7FF0000000000000

/-- The power of two by which every number becomes whole. -/
def bias : Nat := 1075

def twoTo (n : Nat) : Nat := Nat.pow 2 n

def tenTo (n : Nat) : Nat := Nat.pow 10 n

def isNegative (x : Binary64) : Bool := decide (signBit ≤ x.bits.toNat)

def magnitude (x : Binary64) : Nat := x.bits.toNat % signBit

def exponentField (x : Binary64) : Nat := x.magnitude / hiddenBit

def fractionField (x : Binary64) : Nat := x.magnitude % hiddenBit

def isFinite (x : Binary64) : Bool := decide (x.magnitude < infinity)

def isZero (x : Binary64) : Bool := x.magnitude == 0

/-- A finite number has the magnitude `significand * 2 ^ scale / 2 ^ 1075`. -/
def significand (x : Binary64) : Nat :=
  if x.exponentField = 0 then x.fractionField else x.fractionField + hiddenBit

def scale (x : Binary64) : Nat := max x.exponentField 1

def ofMagnitude (negative : Bool) (magnitude : Nat) : Binary64 :=
  ⟨UInt64.ofNat (magnitude + if negative then signBit else 0)⟩

def negate (x : Binary64) : Binary64 := ofMagnitude (!x.isNegative) x.magnitude

def roundDiv (num den : Nat) : Nat :=
  let q := num / den
  let r := num % den
  if 2 * r < den then q else if den < 2 * r then q + 1 else q + q % 2

/-- The scale at which `num / den` has a significand of 53 digits, or 1 when it is smaller than
every number of that kind. -/
def scaleOf (num den : Nat) : Nat :=
  let guess := max 1 (1022 + Nat.log2 num - Nat.log2 den)
  if num * twoTo bias / (den * twoTo guess) < significandLimit then guess else guess + 1

def nearest (num den : Nat) : Nat :=
  if num = 0 then 0
  else
    let s := scaleOf num den
    min infinity ((s - 1) * hiddenBit + roundDiv (num * twoTo bias) (den * twoTo s))

def ofRatio (negative : Bool) (num den : Nat) : Binary64 := ofMagnitude negative (nearest num den)

def ofInt (n : Int) : Binary64 := ofRatio (decide (n < 0)) n.natAbs 1

def mul (x y : Binary64) : Binary64 :=
  ofRatio (x.isNegative != y.isNegative)
    (x.significand * y.significand * twoTo (x.scale + y.scale)) (twoTo (2 * bias))

def div (x y : Binary64) : Binary64 :=
  ofRatio (x.isNegative != y.isNegative)
    (x.significand * twoTo x.scale) (y.significand * twoTo y.scale)

def powerOfTen (n : Nat) : Binary64 := ofRatio false (tenTo n) 1

end Binary64

end Callflow.Decimal
