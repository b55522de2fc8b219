import WormLang.Datum.Comparison

/-!
What loose data does when it is calculated with. Numbers and truth values calculate as quantities, texts and
lists can be joined and repeated, and any other pair of operands is a fault that names their sorts. Messages
name the sorts of data by the `owner` that is handed in.
-/
namespace WormLang

namespace Datum

/-- The parts of data that can be gone through one by one. -/
def items? : Datum → Option (List Datum)
  | list _ items | tuple items => some items
  | text s => some (s.toList.map fun c => text (String.singleton c))
  | _ => none

/-- Data from parts of the same sort as given data. A joined list is a new one. -/
def ofItems (like : Datum) (stamp : Nat) (items : List Datum) : Datum :=
  let characters : Datum → String
    | text s => s
    | _ => ""
  match like with
  | text _ => text (String.join (items.map characters))
  | tuple _ => tuple items
  | _ => list stamp items

/-- Whether two pieces of data are lists of one sort. -/
def joins : Datum → Datum → Bool
  | list .., list .. | tuple _, tuple _ | text _, text _ => true
  | _, _ => false

/-- The whole number in data that can say how often something is repeated. -/
def count? : Datum → Option Nat
  | truth b => some (if b then 1 else 0)
  | int n => some n.toNat
  | _ => none

/-- The most parts that a repetition may have. -/
def mostParts : Nat := 1000000

variable (owner : Datum → String) (stamp : Nat)

/-- The fault of two operands that do not go together. -/
def mismatch (symbol : String) (a b : Datum) : Except Fault Datum :=
  .error { cause := .operandSorts symbol (owner a) (owner b) }

def add (a b : Datum) : Except Fault Datum :=
  match a.quantity?, b.quantity?, a.items? with
  | some x, some y, _ => do return (← x.add y).toDatum
  | _, _, some xs =>
    match b.items? with
    | some ys =>
      if joins a b then .ok (ofItems a stamp (xs ++ ys))
      else .error { cause := .notConcatenable (owner a) (owner b) }
    | none => .error { cause := .notConcatenable (owner a) (owner b) }
  | _, _, none => mismatch owner "+" a b

def sub (a b : Datum) : Except Fault Datum :=
  match a.quantity?, b.quantity? with
  | some x, some y => do return (← x.sub y).toDatum
  | _, _ => mismatch owner "-" a b

/-- Data as a number that a double is added to. -/
def summand (d : Datum) : Except Fault Float :=
  match d.quantity?, d.items? with
  | some x, _ => x.toDouble
  | none, some _ => .error { cause := .notConcatenable (owner d) "float" }
  | none, none => .error { cause := .operandSorts "+" (owner d) "float" }

/-- Data as a number that a double is multiplied by. -/
def factor (d : Datum) : Except Fault Float :=
  match d.quantity?, d.items? with
  | some x, _ => x.toDouble
  | none, some _ => .error { cause := .notRepeatable "float" }
  | none, none => .error { cause := .operandSorts "*" (owner d) "float" }

def repeated (like : Datum) (items : List Datum) (times : Datum) : Except Fault Datum :=
  match times.count? with
  | some n =>
    .ok (ofItems like stamp (List.replicate (min n mostParts) items).flatten)
  | none => .error { cause := .notRepeatable (owner times) }

def mul (a b : Datum) : Except Fault Datum :=
  match a.quantity?, b.quantity?, a.items?, b.items? with
  | some x, some y, _, _ => do return (← x.mul y).toDatum
  | _, _, some xs, _ => repeated owner stamp a xs b
  | _, _, none, some ys => repeated owner stamp b ys a
  | _, _, none, none => mismatch owner "*" a b

/-- Data that must be a number. -/
def toQuantity (d : Datum) : Except Fault Quantity :=
  match d.quantity? with
  | some x => .ok x
  | none => .error { cause := .notReal (owner d) }

def div (a b : Datum) : Except Fault Datum :=
  match a.quantity?, b.quantity? with
  | some x, some y => do return .float (← x.div y)
  | none, some y => if y.isZero then (toQuantity owner a).map fun _ => .null else mismatch owner "/" a b
  | _, none => mismatch owner "/" a b

mutual

/-- Whether the first piece of data lies to the second as asked for. Lists compare by the first parts that differ,
texts by their first characters that differ. -/
def holdsOrder (symbol : String) (holds : Quantity → Quantity → Bool) : Datum → Datum → Except Fault Bool
  | list _ xs, list _ ys | tuple xs, tuple ys => holdOrder symbol holds xs ys
  | text s, text t => .ok (holds (.whole 0) (.whole (if s < t then 1 else if t < s then -1 else 0)))
  | a, b =>
    match a.quantity?, b.quantity? with
    | some x, some y => .ok (holds x y)
    | _, _ => .error { cause := .orderSorts symbol (owner a) (owner b) }

/-- Whether the first list lies to the second as asked for; of two lists that agree as far as both go, the shorter
one comes first. -/
def holdOrder (symbol : String) (holds : Quantity → Quantity → Bool) :
    List Datum → List Datum → Except Fault Bool
  | x :: xs, y :: ys =>
    if isSame x y || isEqual x y then holdOrder symbol holds xs ys else holdsOrder symbol holds x y
  | xs, ys => .ok (holds (.whole xs.length) (.whole ys.length))

end

/-- Equality up to a tolerance. Both operands must be numbers, and are looked at in order. -/
def fuzzyEq (a b eps : Datum) : Except Fault Bool := do
  let x ← toQuantity owner a
  if ← x.isNaN then return false
  let y ← toQuantity owner b
  if ← y.isNaN then return false
  let gap := (← x.sub y).abs
  return (← holdsOrder owner "<=" Quantity.le gap.toDatum eps) || x.eq y

/-- At most, up to a tolerance. -/
def fuzzyLe (a b eps : Datum) : Except Fault Bool := do
  if ← fuzzyEq owner a b eps then return true
  holdsOrder owner "<" Quantity.lt a b

/-- At least, up to a tolerance. -/
def fuzzyGe (a b eps : Datum) : Except Fault Bool := do
  if ← fuzzyEq owner a b eps then return true
  holdsOrder owner ">" Quantity.gt a b

/-- A number without its fractional part. -/
def truncated (d : Datum) : Except Fault Int :=
  match d.quantity? with
  | some (.whole n) => .ok n
  | some (.double x) =>
    match Number.truncate x with
    | .ok n => .ok n
    | .error .infinite => .error { cause := .infinityToInteger }
    | .error .nan => .error { cause := .nanToInteger }
  | none => .error { cause := .notInteger (owner d) }

def size (d : Datum) : Except Fault Nat :=
  match d.items? with
  | some items => .ok items.length
  | none => .error { cause := .noLength (owner d) }

/-- The parts of data, which must have some. -/
def parts (d : Datum) : Except Fault (List Datum) :=
  match d.items? with
  | some items => .ok items
  | none => .error { cause := .notIterable (owner d) }

/-- The two parts of data that must have two. -/
def pair (d : Datum) : Except Fault (Datum × Datum) :=
  match d.items? with
  | some [a, b] => .ok (a, b)
  | some items =>
    .error { cause := if items.length < 2 then .tooFewToUnpack items.length else .tooManyToUnpack }
  | none => .error { cause := .notUnpackable (owner d) }

/-- Data as a double, which may be written as text. -/
def toDouble (d : Datum) : Except Fault Float :=
  match d, d.quantity? with
  | text s, _ =>
    match Number.read? s with
    | some x => .ok x
    | none => .error { cause := .unreadableNumber s }
  | _, some x => x.toDouble
  | _, none => .error { cause := .notFloat (owner d) }

/-- The two numbers in data that stands for a point. -/
def toPoint (d : Datum) : Except Fault (Float × Float) := do
  let (x, y) ← pair owner d
  return (← toDouble owner x, ← toDouble owner y)

def part (d : Datum) (i : Nat) : Except Fault Datum :=
  match d.items? with
  | some items =>
    match items[i]? with
    | some item => .ok item
    | none => .error { cause := .indexTooLarge (match d with | text _ => "string" | d => owner d) }
  | none => .error { cause := .notSubscriptable (owner d) }

end Datum

end WormLang
