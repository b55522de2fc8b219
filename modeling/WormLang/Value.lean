import WormLang.Ty
import WormLang.Number.Layout

/-!
Values of expressions. A value is a number, a truth value or a handle on something of the game; its type
is read off its form. Numbers compare with a tolerance where an order includes equality.
-/
namespace WormLang

/-- The identity of an entity of the game. Two entities are the same iff their identities are. -/
structure EntityId where
  index : Nat
  deriving DecidableEq, Repr, Inhabited

/-- A piece of a text that mentions entities. An entity is mentioned by the text that messages show for it at
the time. -/
inductive Segment where
  | words (s : String)
  | mention (id : EntityId)
  deriving DecidableEq, Repr

/-- A text in pieces, given how messages name entities. -/
def Segment.join (written : EntityId → String) (segments : List Segment) : String :=
  String.join <| segments.map fun
    | words s => s
    | mention id => written id

/-- A host object that is no entity. Programs can carry it in a variable and compare it, nothing else. -/
structure Thing where
  /-- Tells apart objects that look alike. -/
  stamp : Nat
  /-- The name of the object's sort, as messages about missing capabilities use it. -/
  owner : String
  /-- The text that a print statement shows. -/
  shown : List Segment
  deriving DecidableEq, Repr

/-- What an entity value refers to. -/
inductive Handle where
  | null
  | being (id : EntityId)
  | thing (t : Thing)
  deriving DecidableEq, Repr, Inhabited

inductive Value where
  | number (x : Float)
  | boolean (b : Bool)
  | entity (h : Handle)
  deriving Inhabited

def boolWord (b : Bool) : String := if b then "true" else "false"

def boolName (b : Bool) : String := if b then "True" else "False"

namespace Value

def ty : Value → Ty
  | number _ => .number
  | boolean _ => .boolean
  | entity _ => .entity

@[simp] theorem ty_number (x : Float) : (number x).ty = .number := rfl

@[simp] theorem ty_boolean (b : Bool) : (boolean b).ty = .boolean := rfl

@[simp] theorem ty_entity (h : Handle) : (entity h).ty = .entity := rfl

/-- The value of a variable that was never assigned. -/
def default : Ty → Value
  | .number => number 0.0
  | .boolean => boolean false
  | .entity => entity .null

@[simp] theorem ty_default (t : Ty) : (default t).ty = t := by cases t <;> rfl

/-- Equality of values: of one type, numbers by size, handles by identity. -/
def same : Value → Value → Bool
  | number x, number y => x == y
  | boolean a, boolean b => a == b
  | entity g, entity h => decide (g = h)
  | _, _ => false

/-- The number in a value; zero for a value of another type. -/
def toNumber : Value → Float
  | number x => x
  | _ => 0.0

def toBool : Value → Bool
  | boolean b => b
  | _ => false

def toHandle : Value → Handle
  | entity h => h
  | _ => .null

/-- The text that a print statement shows, given how messages name entities and how an entity's own text is
found. -/
def display {m : Type → Type} [Monad m] (written : EntityId → String) (shown : EntityId → m String) :
    Value → m String
  | number x => return Number.displayText x
  | boolean b => return boolWord b
  | entity .null => return "null"
  | entity (.being id) => shown id
  | entity (.thing t) => return Segment.join written t.shown

end Value

/-- The difference up to which two numbers count as equal in an inclusive comparison. -/
def tolerance : Float := 1e-4

/-- Equality up to `eps`; nan equals nothing. -/
def fuzzyEq (x y eps : Float) : Bool :=
  if x.isNaN || y.isNaN then false else (x - y).abs ≤ eps || x == y

/-- At most, up to `eps`. -/
def fuzzyLe (x y eps : Float) : Bool := fuzzyEq x y eps || x < y

/-- At least, up to `eps`. -/
def fuzzyGe (x y eps : Float) : Bool := fuzzyEq x y eps || x > y

end WormLang
