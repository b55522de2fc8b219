import WormLang.Number.Binary

/-!
Operations on doubles: the remainder of a division, whole parts, and the length of a vector. Remainders and
whole parts are exact; a length is computed with a sum of squares that keeps what rounding takes from it.
-/
namespace WormLang.Number

/-- Why a number has no whole part. -/
inductive NotWhole where
  | infinite
  | nan
  deriving DecidableEq, Repr

/-- The remainder of `x` divided by `y`, with the sign of `x`. There is none if `x` is infinite or `y`
is zero. A remainder by an infinite number is `x` itself. -/
def remainder? (x y : Float) : Option Float :=
  match parts x, parts y with
  | .nan, _ => some x
  | _, .nan => some y
  | .infinite _, _ => none
  | .finite .., .infinite _ => some x
  | .finite negative mx qx, .finite _ my qy =>
    if my = 0 then none
    else
      let q := min qx qy
      let a := mx * Nat.pow 2 (qx - q).toNat
      let b := my * Nat.pow 2 (qy - q).toNat
      some (nearest negative (a % b) q)

/-- A sign and a size as a whole number. -/
def signed (negative : Bool) (n : Nat) : Int := if negative then -(n : Int) else n

/-- A number without its fractional part. -/
def truncate (x : Float) : Except NotWhole Int :=
  match parts x with
  | .nan => .error .nan
  | .infinite _ => .error .infinite
  | .finite negative m q =>
    let (n, d) := fraction m q
    .ok (signed negative (n / d))

/-- The least whole number that is not below `x`. -/
def ceiling (x : Float) : Except NotWhole Int :=
  match parts x with
  | .nan => .error .nan
  | .infinite _ => .error .infinite
  | .finite negative m q =>
    let (n, d) := fraction m q
    .ok (-Int.fdiv (signed (!negative) n) d)

/-- A number as the sum of a high part with few digits and a low part, so that products of parts are exact. -/
def split (x : Float) : Float × Float :=
  let t := x * 134217729.0
  let high := t - (t - x)
  (high, x - high)

/-- A running sum that starts at one, with what rounding took from it: the errors of large and of small terms,
and terms too small for the sum. -/
structure RunningSum where
  sum : Float := 1.0
  large : Float := 0.0
  small : Float := 0.0
  tiny : Float := 0.0

namespace RunningSum

/-- Add a large term. -/
def addLarge (s : RunningSum) (x : Float) : RunningSum :=
  let sum := s.sum + x
  { s with sum, large := s.large + ((s.sum - sum) + x) }

/-- Add a small term. -/
def addSmall (s : RunningSum) (x : Float) : RunningSum :=
  let sum := s.sum + x
  { s with sum, small := s.small + ((s.sum - sum) + x) }

/-- Add a tiny term whose error counts. -/
def addTiny (s : RunningSum) (x : Float) : RunningSum :=
  let sum := s.sum + x
  { s with sum, tiny := s.tiny + ((s.sum - sum) + x) }

/-- Add the square of a number of size at most one. -/
def addSquare (s : RunningSum) (x : Float) : RunningSum :=
  let (high, low) := split x
  let s := (s.addLarge (high * high)).addSmall (2.0 * high * low)
  { s with tiny := s.tiny + low * low }

/-- Take the square of a number away. -/
def subSquare (s : RunningSum) (x : Float) : RunningSum :=
  let (high, low) := split x
  ((s.addLarge (-high * high)).addSmall (-2.0 * high * low)).addTiny (-low * low)

def total (s : RunningSum) : Float := s.sum - 1.0 + (s.large + s.small + s.tiny)

end RunningSum

/-- The length of the vector `(x, y)`. The coordinates are scaled by a power of two so that no square overflows
or vanishes; one step of correction follows the square root. A vector so short that it cannot be scaled is
measured in units of its larger coordinate. -/
def distance (x y : Float) : Float :=
  let x := x.abs
  let y := y.abs
  if x.isInf || y.isInf then infinity false
  else if x.isNaN || y.isNaN then 0.0 / 0.0
  else
    let longest := if x < y then y else x
    match parts longest with
    | .finite _ 0 _ => longest
    | .finite _ m q =>
      let exponent := q + bitLength m
      if -1023 ≤ exponent then
        let scale := nearest false 1 (-exponent)
        let sum := (({} : RunningSum).addSquare (x * scale)).addSquare (y * scale)
        let root := sum.total.sqrt
        (root + (sum.subSquare root).total / (2.0 * root)) / scale
      else
        let square (z : Float) := z / longest * (z / longest)
        let sum := (({} : RunningSum).addLarge (square x)).addLarge (square y)
        longest * (sum.sum - 1.0 + sum.large).sqrt
    | _ => longest

/-- The smaller of two numbers; the first one unless the second is strictly smaller. -/
def smaller (x y : Float) : Float := if y < x then y else x

/-- The larger of two numbers; the first one unless the second is strictly larger. -/
def larger (x y : Float) : Float := if y > x then y else x

end WormLang.Number
