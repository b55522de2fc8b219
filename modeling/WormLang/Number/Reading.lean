import WormLang.Number.Binary
import WormLang.Text.Numeral

/-!
Numbers given as text. A decimal is read as the double nearest to it. Host data may also spell infinity
and nan, carry a sign, have blanks around it and underscores between digits.
-/
namespace WormLang.Number

/-- The double nearest to `digits · 10 ^ exponent`. Decimals far outside the range of doubles are
infinite or zero without any power being computed. -/
def ofDecimal (digits : Nat) (exponent : Int) : Float :=
  if digits = 0 then 0.0
  else
    let point := exponent + (Nat.toDigits 10 digits).length
    if 310 < point then infinity false
    else if point < -330 then 0.0
    else nearestFraction (digits * Nat.pow 10 exponent.toNat) (Nat.pow 10 (-exponent).toNat)

def digitsValue (ds : List Char) : Nat := ds.foldl (fun n c => 10 * n + (c.toNat - '0'.toNat)) 0

def isDigits (ds : List Char) : Bool := !ds.isEmpty && ds.all Char.isDigit

/-- An exponent mark with its digits, or nothing. -/
def readExponent? (cs : List Char) : Option Int :=
  match cs with
  | [] => some 0
  | mark :: rest =>
    if mark != 'e' && mark != 'E' then none
    else
      match rest with
      | '+' :: ds => if isDigits ds then some (digitsValue ds) else none
      | '-' :: ds => if isDigits ds then some (-(digitsValue ds : Int)) else none
      | ds => if isDigits ds then some (digitsValue ds) else none

/-- The digits behind a point, if there is one, and what follows. -/
def readPlaces (cs : List Char) : List Char × List Char :=
  match cs with
  | '.' :: tail => (tail.takeWhile Char.isDigit, tail.dropWhile Char.isDigit)
  | _ => ([], cs)

/-- An unsigned decimal: digits with an optional point, at least one of them, and an optional exponent. -/
def readDecimal? (cs : List Char) : Option Float :=
  let whole := cs.takeWhile Char.isDigit
  let (places, rest) := readPlaces (cs.dropWhile Char.isDigit)
  if whole.isEmpty && places.isEmpty then none
  else
    (readExponent? rest).map fun e =>
      ofDecimal (digitsValue (whole ++ places)) (e - places.length)

/-- A text without the underscores that stand between two digits; none if one stands elsewhere. -/
def joinDigits? : List Char → Option (List Char)
  | [] => some []
  | c :: '_' :: d :: rest =>
    if c.isDigit && d.isDigit then (joinDigits? (d :: rest)).map (c :: ·) else none
  | c :: rest => if c == '_' then none else (joinDigits? rest).map (c :: ·)

/-- A sign and what follows it. -/
def splitSign (cs : List Char) : Bool × List Char :=
  match cs with
  | '-' :: rest => (true, rest)
  | '+' :: rest => (false, rest)
  | _ => (false, cs)

/-- A number given as text by a host: blanks around it, a sign, a decimal or a name of infinity or nan. -/
def read? (s : String) : Option Float :=
  let (negative, body) := splitSign (Text.plainNumeral s.toList)
  let size? :=
    match String.ofList (body.map Char.toLower) with
    | "inf" | "infinity" => some (infinity false)
    | "nan" => some (0.0 / 0.0)
    | _ => (joinDigits? body).bind readDecimal?
  size?.map fun x => if negative then -x else x

/-- The most digits that a whole number given as text can have. -/
def mostDigits : Nat := 4300

/-- A whole number given as text by a host: blanks around it, a sign, digits, not too many of them. -/
def readInt? (s : String) : Option Int :=
  let (negative, body) := splitSign (Text.plainNumeral s.toList)
  (joinDigits? body).bind fun ds =>
    if isDigits ds && ds.length ≤ mostDigits then
      some (if negative then -(digitsValue ds : Int) else digitsValue ds)
    else none

/-- A whole number as a double; none if it is too large for one. -/
def ofInt? (n : Int) : Option Float :=
  let x := nearest (decide (n < 0)) n.natAbs 0
  if x.isInf then none else some x

end WormLang.Number
