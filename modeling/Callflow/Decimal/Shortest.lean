import Callflow.Decimal.Binary64

/-!
The shortest decimal of a binary64 number: as few digits as still read back to it, and of those the
nearest. The grids of 1, 2, … 17 digits are tried in turn; on each only the two neighbours of the
number matter, since a grid point that reads back has one of them between itself and the number.
The text is positional from `1e-5` up to `1e16` and has an exponent elsewhere.
-/

namespace Callflow.Decimal

namespace Binary64

def num (x : Binary64) : Nat := x.significand * twoTo x.scale

def den : Nat := twoTo bias

/-- Whether `p / q` rounds to the number: it is within half a unit of it, the ends included when the
significand is even. Below a power of two the unit is half as large. -/
def readsBack (x : Binary64) (p q : Nat) : Bool :=
  let unit := twoTo x.scale
  let below := if x.fractionField = 0 ∧ 1 < x.exponentField then unit else 2 * unit
  -- four times the distances, over the common denominator
  let low := (4 * x.num - below) * q
  let high := (4 * x.num + 2 * unit) * q
  let mid := 4 * p * den
  if x.significand % 2 = 0 then decide (low ≤ mid) && decide (mid ≤ high)
  else decide (low < mid) && decide (mid < high)

/-- The least `k` with `num / den < 10 ^ k`, searched upwards from `k`. -/
def decimalExponent (num den : Nat) : Nat → Int → Int
  | 0, k => k
  | steps + 1, k =>
    let fits := if 0 ≤ k then num < den * tenTo k.toNat else num * tenTo (-k).toNat < den
    if fits then k else decimalExponent num den steps (k + 1)

end Binary64

structure Digits where
  digits : Nat
  exponent : Int

namespace Digits

def dropZeros (d : Digits) : Nat → Digits
  | 0 => d
  | n + 1 =>
    if d.digits ≠ 0 ∧ d.digits % 10 = 0 then dropZeros ⟨d.digits / 10, d.exponent + 1⟩ n else d

/-- The neighbours of a number on the grid of steps `10 ^ e`: the nearer one that reads back, on a
tie the even one. -/
def onGrid? (x : Binary64) (e : Int) : Option Digits :=
  let up := Binary64.tenTo e.toNat
  let down := Binary64.tenTo (-e).toNat
  let p := x.num * down
  let q := Binary64.den * up
  let below := p / q
  let above := below + 1
  let ok (n : Nat) := x.readsBack (n * up) down
  let nearer := if 2 * (p % q) < q then below
    else if q < 2 * (p % q) then above
    else below + below % 2
  if ok nearer then some ⟨nearer, e⟩
  else if ok below then some ⟨below, e⟩
  else if ok above then some ⟨above, e⟩
  else none

/-- The shortest digits that read back; 17 always do. -/
def shortest (x : Binary64) : Digits :=
  let k := Binary64.decimalExponent x.num Binary64.den 640 (-324)
  let grids := (List.range 17).map fun n => k - (n + 1 : Nat)
  (dropZeros · 20) <| (grids.findSome? (onGrid? x)).getD ⟨0, 0⟩

end Digits

namespace Binary64

def zeros (n : Nat) : String := String.ofList (List.replicate n '0')

def positional (ds : List Char) (point : Int) : String :=
  if point ≤ 0 then "0." ++ zeros (-point).toNat ++ String.ofList ds
  else
    let n := point.toNat
    if ds.length ≤ n then String.ofList ds ++ zeros (n - ds.length) ++ ".0"
    else String.ofList (ds.take n) ++ "." ++ String.ofList (ds.drop n)

def scientific (ds : List Char) (point : Int) : String :=
  let mantissa := match ds with
    | [] => "0"
    | [d] => String.ofList [d]
    | d :: rest => String.ofList (d :: '.' :: rest)
  let e := point - 1
  mantissa ++ "e" ++ (if e < 0 then "-" else "+") ++ toString e.natAbs

def render (x : Binary64) : String :=
  let sign := if x.isNegative then "-" else ""
  if x.isZero then sign ++ "0.0"
  else
    let d := Digits.shortest x
    let ds := (toString d.digits).toList
    let point := d.exponent + ds.length
    sign ++ if -5 < point ∧ point ≤ 16 then positional ds point else scientific ds point

end Binary64

end Callflow.Decimal
