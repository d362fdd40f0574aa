import Callflow.Decimal.Binary64

/-!
A decimal literal as a number: the whole number of its digits, rounded once, is multiplied or
divided by a power of ten up to `10 ^ 308`, rounded again; a larger divisor is applied in steps of
`10 ^ 308`, each with its own rounding. Nothing beyond the largest number is accepted.
-/

namespace Callflow.Decimal

open Binary64

def largestPower : Nat := 308

def scaleDown (x : Binary64) (n : Nat) : Binary64 :=
  if n ≤ largestPower then div x (powerOfTen n)
  else if x.isZero then x
  else scaleDown (div x (powerOfTen largestPower)) (n - largestPower)
termination_by n
decreasing_by simp only [largestPower] at *; omega

def scaleUp? (x : Binary64) (n : Nat) : Option Binary64 :=
  if n ≤ largestPower then (some (mul x (powerOfTen n))).filter isFinite
  else if x.isZero then some x else none

/-- The value of a literal with these digits times `10 ^ exponent`. -/
def ofLiteral? (negative : Bool) (digits : Nat) (exponent : Int) : Option Binary64 :=
  let x := ofInt digits
  let y? :=
    match exponent with
    | .ofNat n => scaleUp? x n
    | .negSucc n => some (scaleDown x (n + 1))
  y?.map fun y => if negative then negate y else y

end Callflow.Decimal
