import WormLang.Number.Shortest

/-!
Texts of numbers. Messages use the shortest digits that read back, positional from `1e-4` up to below
`1e16` and scientific elsewhere; debug lines use a fixed number of places; reports use six significant
digits. A whole number can also be written out in full.
-/
namespace WormLang.Number

/-- Decimal digits of a number, most significant first. -/
def digitsOf (n : Nat) : List Char := Nat.toDigits 10 n

/-- A list of digits without the zeros at its end. -/
def dropTrailingZeros (ds : List Char) : List Char := (ds.reverse.dropWhile (· == '0')).reverse

def signText (negative : Bool) : List Char := if negative then ['-'] else []

/-- Where scientific notation starts, and what is written in positional notation behind the point when
no digit is left. -/
structure Layout where
  /-- Positional notation is used while the decimal point stands behind more than `least` places … -/
  least : Int
  /-- … and behind at most `most` places. -/
  most : Int
  /-- Whether a whole number keeps a zero behind the point. -/
  keepZero : Bool

/-- Numbers in messages and in program text. -/
def message : Layout := { least := -4, most := 16, keepZero := true }

/-- Numbers in reports. -/
def report : Layout := { least := -4, most := 6, keepZero := false }

/-- The exponent mark: a sign and at least two digits. -/
def exponentText (e : Int) : List Char :=
  let ds := digitsOf e.natAbs
  'e' :: (if e < 0 then '-' else '+') :: (if ds.length < 2 then '0' :: ds else ds)

/-- Digits `0.ds · 10 ^ point` in positional notation. -/
def positional (layout : Layout) (ds : List Char) (point : Int) : List Char :=
  if point ≤ 0 then '0' :: '.' :: (List.replicate (-point).toNat '0' ++ ds)
  else
    let width := point.toNat
    let whole := ds.take width ++ List.replicate (width - ds.length) '0'
    match ds.drop width with
    | [] => if layout.keepZero then whole ++ ['.', '0'] else whole
    | rest => whole ++ '.' :: rest

/-- Digits `0.ds · 10 ^ point` in scientific notation. -/
def scientific (ds : List Char) (point : Int) : List Char :=
  match ds with
  | [] => []
  | first :: [] => first :: exponentText (point - 1)
  | first :: rest => first :: '.' :: (rest ++ exponentText (point - 1))

/-- A decimal number that is not zero, in the notation that the layout chooses. -/
def Layout.write (layout : Layout) (d : Decimal) : List Char :=
  let ds := digitsOf d.digits
  let point := d.exponent + ds.length
  let ds := dropTrailingZeros ds
  if layout.least < point ∧ point ≤ layout.most then positional layout ds point
  else scientific ds point

def text (x : Float) : String :=
  match parts x with
  | .nan => "nan"
  | .infinite negative => String.ofList (signText negative ++ ['i', 'n', 'f'])
  | .finite negative m q =>
    if m = 0 then String.ofList (signText negative ++ ['0', '.', '0'])
    else String.ofList (signText negative ++ message.write (shortest m q))

/-- The number `m · 2 ^ q` rounded to `places` places behind the point, as a count of the last place. -/
def roundPlaces (m : Nat) (q : Int) (places : Nat) : Nat :=
  let (n, d) := fraction m q
  roundDiv (n * Nat.pow 10 places) d

/-- A count of last places, with the point set. -/
def setPoint (count places : Nat) : List Char :=
  let ds := digitsOf count
  let ds := List.replicate (places + 1 - ds.length) '0' ++ ds
  ds.take (ds.length - places) ++ '.' :: ds.drop (ds.length - places)

/-- The text of a number with a fixed number of places, at least one, behind the point. -/
def fixedText (places : Nat) (x : Float) : String :=
  match parts x with
  | .nan => "nan"
  | .infinite negative => String.ofList (signText negative ++ ['i', 'n', 'f'])
  | .finite negative m q => String.ofList (signText negative ++ setPoint (roundPlaces m q places) places)

/-- The number `m · 2 ^ q` rounded to `count` significant digits. -/
def significant (count : Nat) (m : Nat) (q : Int) : Decimal :=
  let p := decimalPoint m q - count
  let (n, d) := gridUnit q p
  { digits := roundDiv (4 * m * n) d, exponent := p }

/-- The text of a number in reports: six significant digits, no zeros at the end. -/
def reportText (x : Float) : String :=
  match parts x with
  | .nan => "nan"
  | .infinite negative => String.ofList (signText negative ++ ['i', 'n', 'f'])
  | .finite negative m q =>
    if m = 0 then String.ofList (signText negative ++ ['0'])
    else String.ofList (signText negative ++ report.write (significant 6 m q))

/-- Whether a number is finite and whole. -/
def isWhole (x : Float) : Bool :=
  match parts x with
  | .finite _ m q => if 0 ≤ q then true else m % Nat.pow 2 (-q).toNat == 0
  | _ => false

/-- The text of a number as a program prints it: a whole number in full with one zero behind the point,
any other number as in messages. -/
def displayText (x : Float) : String :=
  if isWhole x then fixedText 1 x else text x

end WormLang.Number
