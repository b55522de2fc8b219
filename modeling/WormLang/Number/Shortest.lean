import WormLang.Number.Binary

/-!
The fewest decimal digits that read back as a given double. The reals that round to `m · 2 ^ q` form an
interval, ends included iff `m` is even. For one digit, two digits and so on, the value's two neighbours
on that decimal grid are tested in exact arithmetic; the first grid with a neighbour in the interval
wins, of two neighbours the nearer one, a tie going to the even digit.
-/
namespace WormLang.Number

structure Decimal where
  digits : Nat
  exponent : Int
  deriving DecidableEq, Repr

/-- The value `4 · m · 2 ^ (q - 2)` on the grid of multiples of `10 ^ p`: numerator and denominator of
one quarter unit of `2 ^ q`, counted in multiples of `10 ^ p`. -/
def gridUnit (q p : Int) : Nat × Nat :=
  let (n, d) := fraction 1 (q - 2)
  if 0 ≤ p then (n, d * Nat.pow 10 p.toNat) else (n * Nat.pow 10 (-p).toNat, d)

/-- Number of decimal digits before the point of `m · 2 ^ q`, negative or zero if the number starts with
zeros behind the point: the least `k` with `m · 2 ^ q < 10 ^ k`. -/
def decimalPoint (m : Nat) (q : Int) : Int :=
  let guess := ((q + bitLength m - 1) * 30103).fdiv 100000 - 1
  let below (k : Int) : Bool :=
    let (n, d) := gridUnit q k
    4 * m * n < d
  if below guess then guess
  else if below (guess + 1) then guess + 1
  else if below (guess + 2) then guess + 2
  else guess + 3

/-- The lower end of the reals that round to `m · 2 ^ q`, in quarter units of `2 ^ q`. Doubles lie more closely below
a power of two than above it. -/
def lowerEnd (m : Nat) (q : Int) : Nat := if m = Nat.pow 2 52 ∧ leastExponent < q then 4 * m - 1 else 4 * m - 2

def upperEnd (m : Nat) : Nat := 4 * m + 2

/-- Whether `c · 10 ^ p` rounds to `m · 2 ^ q`. -/
def readsBack (m : Nat) (q p : Int) (c : Nat) : Bool :=
  let (n, d) := gridUnit q p
  if m % 2 = 0 then lowerEnd m q * n ≤ c * d && c * d ≤ upperEnd m * n
  else lowerEnd m q * n < c * d && c * d < upperEnd m * n

/-- The neighbour of `m · 2 ^ q` on the grid of multiples of `10 ^ p` that reads back, if there is one. -/
def readsBackOn (m : Nat) (q p : Int) : Option Nat :=
  let (n, d) := gridUnit q p
  let value := 4 * m * n
  let low := value / d
  let high := low + 1
  match readsBack m q p low && low != 0, readsBack m q p high with
  | false, false => none
  | true, false => some low
  | false, true => some high
  | true, true =>
    let toLow := value - low * d
    let toHigh := high * d - value
    if toLow < toHigh then some low
    else if toHigh < toLow then some high
    else if low % 2 = 0 then some low else some high

/-- Try grids of one more digit each, from the grid of multiples of `10 ^ p` on. -/
def shortestFrom (m : Nat) (q : Int) : (steps : Nat) → (p : Int) → Decimal
  | 0, p => { digits := (4 * m * (gridUnit q p).1) / (gridUnit q p).2, exponent := p }
  | steps + 1, p =>
    match readsBackOn m q p with
    | some digits => { digits, exponent := p }
    | none => shortestFrom m q steps (p - 1)

/-- The shortest decimal that reads back as `m · 2 ^ q`, for a mantissa that is not zero. Seventeen
digits are always enough. -/
def shortest (m : Nat) (q : Int) : Decimal :=
  shortestFrom m q 17 (decimalPoint m q - 1)

end WormLang.Number
