import WormLang.Fault
import WormLang.Number.Arithmetic
import WormLang.Number.Reading

/-!
Numbers as hosts mix them: whole numbers of any size and doubles. An operation on two whole numbers is exact;
with a double on one side the other becomes a double first, which fails if it is too large. Comparisons are
always exact.
-/
namespace WormLang

/-- A whole number or a double. -/
inductive Quantity where
  | whole (n : Int)
  | double (x : Float)
  deriving Inhabited

namespace Quantity

def toDouble : Quantity → Except Fault Float
  | whole n =>
    match Number.ofInt? n with
    | some x => .ok x
    | none => .error { cause := .integerTooLarge }
  | double x => .ok x

/-- Combine two quantities by an operation on whole numbers or on doubles. -/
def combine (onWhole : Int → Int → Int) (onDouble : Float → Float → Float) (a b : Quantity) :
    Except Fault Quantity :=
  match a, b with
  | whole n, whole m => .ok (whole (onWhole n m))
  | a, b => do return double (onDouble (← a.toDouble) (← b.toDouble))

def add : Quantity → Quantity → Except Fault Quantity := combine (· + ·) (· + ·)

def sub : Quantity → Quantity → Except Fault Quantity := combine (· - ·) (· - ·)

def mul : Quantity → Quantity → Except Fault Quantity := combine (· * ·) (· * ·)

def abs : Quantity → Quantity
  | whole n => whole n.natAbs
  | double x => double x.abs

/-- How a whole number lies to a double; nothing if the double is nan. -/
def compareWhole (n : Int) (x : Float) : Option Ordering :=
  match Number.parts x with
  | .nan => none
  | .infinite negative => some (if negative then .gt else .lt)
  | .finite negative m q =>
    let (numerator, denominator) := Number.fraction m q
    some (compare (n * denominator) (Number.signed negative numerator))

/-- How two quantities lie to each other; nothing if one of them is nan. -/
def compare? : Quantity → Quantity → Option Ordering
  | whole n, whole m => some (compare n m)
  | whole n, double x => compareWhole n x
  | double x, whole n => (compareWhole n x).map Ordering.swap
  | double x, double y =>
    if x < y then some .lt else if x > y then some .gt else if x == y then some .eq else none

def eq (a b : Quantity) : Bool := compare? a b == some .eq

def lt (a b : Quantity) : Bool := compare? a b == some .lt

def gt (a b : Quantity) : Bool := compare? a b == some .gt

def le (a b : Quantity) : Bool := a.lt b || a.eq b

/-- Whether a quantity is nan; a whole number must fit a double to be asked. -/
def isNaN (a : Quantity) : Except Fault Bool := do return (← a.toDouble).isNaN

def isZero (a : Quantity) : Bool := a.eq (whole 0)

/-- The quotient. A zero divisor gives an infinity with the signs of both, or nan for zero and nan. -/
def div (a b : Quantity) : Except Fault Float := do
  let x ← a.toDouble
  let y ← b.toDouble
  return x / y

/-- The modulus of fingerprints: a prime. -/
def fingerprintModulus : Nat := Nat.pow 2 61 - 1

def infinityFingerprint : Int := 314159

/-- A fingerprint is never minus one. -/
def settle (n : Int) : Int := if n = -1 then -2 else n

/-- A number that equal quantities share, whatever their form; none for nan. A power of two counts modulo 61,
since `2 ^ 61` is one modulo the modulus. -/
def fingerprint? : Quantity → Option Int
  | whole n => some (settle (Number.signed (n < 0) (n.natAbs % fingerprintModulus)))
  | double x =>
    match Number.parts x with
    | .nan => none
    | .infinite negative => some (if negative then -infinityFingerprint else infinityFingerprint)
    | .finite negative m q =>
      some (settle (Number.signed negative (m * Nat.pow 2 (q.emod 61).toNat % fingerprintModulus)))

end Quantity

end WormLang
