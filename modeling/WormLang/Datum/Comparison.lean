import WormLang.Datum

/-!
When host data counts as true, when two pieces of data are the same object, when they are equal, and which
of them share a fingerprint. Numbers are equal by size, whatever their form; lists item by item; values by
type and content, except that values of entities compare what they hold by identity.
-/
namespace WormLang

namespace Datum

/-- Whether data counts as true: zero, empty texts, empty lists and nothing do not. -/
def isTruthy : Datum → Bool
  | null => false
  | truth b => b
  | int n => n != 0
  | float x => x != 0.0
  | text s => !s.isEmpty
  | list _ items | tuple items => !items.isEmpty
  | _ => true

/-- Whether two pieces of data are one object. Numbers and tuples have no identity of their own, but there is only
one tuple without items. -/
def isSame : Datum → Datum → Bool
  | null, null => true
  | truth a, truth b => a == b
  | text a, text b => a == b
  | being a, being b => a == b
  | list a _, list b _ => a == b
  | tuple [], tuple [] => true
  | ty a, ty b => a == b
  | entityKind a, entityKind b => a == b
  | loopKind a, loopKind b => a == b
  | value a _ _, value b _ _ => a == b
  | object a, object b => a == b
  | _, _ => false

mutual

def isEqual : Datum → Datum → Bool
  | list _ xs, list _ ys => areEqual xs ys
  | tuple xs, tuple ys => areEqual xs ys
  | value _ t x, value _ u y => t == u && (if t == .entity then isSame x y else isEqual x y)
  | a, b =>
    match a.quantity?, b.quantity? with
    | some x, some y => x.eq y
    | _, _ => isSame a b

/-- Whether two lists of data are equal item by item; an object equals itself. -/
def areEqual : List Datum → List Datum → Bool
  | [], [] => true
  | x :: xs, y :: ys => (isSame x y || isEqual x y) && areEqual xs ys
  | _, _ => false

end

end Datum

/-- What a fingerprint depends on. -/
inductive Fingerprint where
  | number (n : Int)
  | word (s : String)
  | null
  | being (id : EntityId)
  | object (o : ObjectRef)
  /-- Of an object that is known by its stamp. -/
  | stamped (stamp : Nat)
  | pair (first second : Fingerprint)
  /-- Of something that shares its fingerprint with nothing else. -/
  | single
  deriving DecidableEq, Repr

namespace Datum

/-- The fingerprint of what is known by identity. -/
def identity : Datum → Fingerprint
  | null => .null
  | being id => .being id
  | list stamp _ | value stamp _ _ => .stamped stamp
  | ty t => .word t.name
  | entityKind k => .word ("EntityKind." ++ k.name)
  | loopKind k => .word ("ForeachKind." ++ k.name)
  | object o => .object o
  | _ => .single

mutual

/-- The fingerprint of data; a list has none. Kinds and types share theirs with the text of their name. -/
def fingerprint : Datum → Except Fault Fingerprint
  | null => .ok .null
  | text s => .ok (.word s)
  | being id => .ok (.being id)
  | list .. => .error { cause := .unhashable "list" }
  | tuple items => fingerprints items
  | ty t => .ok (.word t.name)
  | entityKind k => .ok (.word k.name)
  | loopKind k => .ok (.word k.name)
  | value stamp t data =>
    match t, data.quantity? with
    | .entity, _ => .ok (.pair (.word t.name) data.identity)
    | t, some x => .ok (.pair (.word t.name) ((x.fingerprint?.map .number).getD (.stamped stamp)))
    | _, none => .ok (.stamped stamp)
  | object o => .ok (.object o)
  | truth b => .ok (.number (if b then 1 else 0))
  | int n => .ok (((Quantity.whole n).fingerprint?.map .number).getD .single)
  | float x => .ok (((Quantity.double x).fingerprint?.map .number).getD .single)

def fingerprints : List Datum → Except Fault Fingerprint
  | [] => .ok .null
  | d :: rest => do return .pair (← fingerprint d) (← fingerprints rest)

end

def sharesFingerprint (a b : Datum) : Except Fault Bool := do
  let x ← fingerprint a
  let y ← fingerprint b
  return x == y && x != .single

/-- Data as a key of a table; a list cannot be one. -/
def checkKey (d : Datum) : Except Fault Unit := do
  let _ ← fingerprint d

end Datum

end WormLang
