/-!
Doubles taken apart and put together. A finite double is `± mantissa · 2 ^ exponent` with the mantissa
below `2 ^ 53`; `nearest` rounds any `± m · 2 ^ q` to a double, ties to the even mantissa. Everything
between the two is exact arithmetic on natural numbers.
-/
namespace WormLang.Number

/-- A double taken apart. -/
inductive Parts where
  | nan
  | infinite (negative : Bool)
  /-- The number `mantissa · 2 ^ exponent`, with its sign. -/
  | finite (negative : Bool) (mantissa : Nat) (exponent : Int)
  deriving DecidableEq, Repr

/-- The least exponent of a double. -/
def leastExponent : Int := -1074

/-- The greatest exponent of a finite double with a full mantissa. -/
def greatestExponent : Int := 971

def parts (x : Float) : Parts :=
  let bits := x.toBits.toNat
  let negative := decide (Nat.pow 2 63 ≤ bits)
  let field : Nat := bits / Nat.pow 2 52 % Nat.pow 2 11
  let fraction : Nat := bits % Nat.pow 2 52
  if field = 2047 then
    if fraction = 0 then .infinite negative else .nan
  else if field = 0 then .finite negative fraction leastExponent
  else .finite negative (fraction + Nat.pow 2 52) ((field : Int) - 1075)

/-- A double from sign, exponent field and fraction. -/
def ofFields (negative : Bool) (field fraction : Nat) : Float :=
  Float.ofBits (UInt64.ofNat ((if negative then Nat.pow 2 63 else 0) + field * Nat.pow 2 52 + fraction))

def infinity (negative : Bool) : Float := ofFields negative 2047 0

/-- The quotient rounded to the nearest whole number, a tie to the even one. -/
def roundDiv (numerator denominator : Nat) : Nat :=
  let quotient := numerator / denominator
  let twice := 2 * (numerator % denominator)
  if twice < denominator then quotient
  else if denominator < twice then quotient + 1
  else quotient + quotient % 2

def bitLength (m : Nat) : Nat := if m = 0 then 0 else m.log2 + 1

/-- The double with a rounded mantissa, at most `2 ^ 53`, and its exponent, which is the least one if the mantissa
has less than 53 digits. A double with too large an exponent is infinite. -/
def assemble (negative : Bool) (mantissa : Nat) (exponent : Int) : Float :=
  let (mantissa, exponent) := if mantissa = Nat.pow 2 53 then (Nat.pow 2 52, exponent + 1) else (mantissa, exponent)
  if mantissa < Nat.pow 2 52 then ofFields negative 0 mantissa
  else if greatestExponent < exponent then infinity negative
  else ofFields negative (exponent + 1075).toNat (mantissa - Nat.pow 2 52)

/-- The double nearest to `± m · 2 ^ q`, a tie to the even mantissa, infinite if too large. -/
def nearest (negative : Bool) (m : Nat) (q : Int) : Float :=
  let exponent := max (q + bitLength m - 53) leastExponent
  let mantissa :=
    if exponent ≤ q then m * Nat.pow 2 (q - exponent).toNat else roundDiv m (Nat.pow 2 (exponent - q).toNat)
  assemble negative mantissa exponent

/-- Number of binary digits in front of the point of the fraction `n / d`, negative or zero if it starts with zeros
behind the point: the `k` with `2 ^ (k - 1) ≤ n / d < 2 ^ k`. -/
def binaryPoint (n d : Nat) : Int :=
  let guess := (bitLength n : Int) - bitLength d
  if n * Nat.pow 2 (-guess).toNat < d * Nat.pow 2 guess.toNat then guess else guess + 1

/-- The double nearest to the fraction `n / d`, a tie to the even mantissa, infinite if too large. -/
def nearestFraction (n d : Nat) : Float :=
  let exponent := max (binaryPoint n d - 53) leastExponent
  assemble false (roundDiv (n * Nat.pow 2 (-exponent).toNat) (d * Nat.pow 2 exponent.toNat)) exponent

/-- The fraction `(numerator, denominator)` of `m · 2 ^ q`. -/
def fraction (m : Nat) (q : Int) : Nat × Nat :=
  if 0 ≤ q then (m * Nat.pow 2 q.toNat, 1) else (m, Nat.pow 2 (-q).toNat)

end WormLang.Number
