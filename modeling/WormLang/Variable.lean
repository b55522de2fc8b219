import WormLang.Datum

/-!
Global variables. A variable keeps its declared type for ever and holds a value of that type; a table
names variables, each name once, in the order of declaration.
-/
namespace WormLang

structure Variable where
  ty : Ty
  value : Value
  deriving Inhabited

namespace Variable

/-- A variable with the first value of its type. -/
def ofTy (t : Ty) : Variable := { ty := t, value := Value.default t }

def accepts (v : Variable) (value : Value) : Bool := value.ty == v.ty

def assign (v : Variable) (value : Value) : Except Fault Variable :=
  if v.accepts value then .ok { v with value }
  else .error { cause := .cannotAssign value.ty v.ty }

/-- Store host data; plain data becomes a value of the declared type. -/
def store (names : Names) (v : Variable) : Datum → Except Fault Variable
  | .value _ t data => do v.assign (← Value.ofDatum names t data)
  | d => (Value.ofDatum names v.ty d).map fun value => { v with value }

end Variable

/-- Names with what they stand for, in the order of declaration. -/
structure Table (α : Type) where
  entries : List (String × α) := []
  deriving Inhabited

namespace Table

variable {α : Type}

def get? (t : Table α) (name : String) : Option α := t.entries.lookup name

def contains (t : Table α) (name : String) : Bool := (t.get? name).isSome

def names (t : Table α) : List String := t.entries.map Prod.fst

def size (t : Table α) : Nat := t.entries.length

/-- Give a name that is declared another content; other names keep theirs. -/
def set (t : Table α) (name : String) (a : α) : Table α :=
  { entries := t.entries.map fun entry => if entry.1 == name then (name, a) else entry }

/-- Only the content of the name changes, and only if it is declared. -/
theorem get?_set (t : Table α) (name other : String) (a : α) :
    (t.set name a).get? other = if other = name then (t.get? other).map fun _ => a else t.get? other := by
  unfold get? set
  induction t.entries with
  | nil => simp
  | cons entry rest ih =>
    obtain ⟨key, content⟩ := entry
    have unequal : ∀ {x : String}, x ≠ key → (x == key) = false := by simp
    by_cases same : key = name
    · subst same
      by_cases hit : other = key
      · simp [hit]
      · simpa [List.lookup_cons, unequal hit, hit] using ih
    · by_cases hit : other = key
      · simp [hit, same]
      · simpa [List.lookup_cons, unequal hit, same] using ih

def push (t : Table α) (name : String) (a : α) : Table α := { entries := t.entries ++ [(name, a)] }

/-- Declare a name, which must be neither empty nor declared. -/
def declare (t : Table α) (name : String) (a : α) (position : Option Position) :
    Except Fault (Table α) :=
  if name.isEmpty then .error { cause := .invalidName (Text.quoted name), position }
  else if t.contains name then .error { cause := .alreadyDeclared name, position }
  else .ok (t.push name a)

/-- What a name stands for; it must be declared. -/
def lookup (t : Table α) (name : String) (position : Option Position) : Except Fault α :=
  match t.get? name with
  | some a => .ok a
  | none => .error { cause := .variableMissing name, position }

def fetch (t : Table α) (name : String) : Except Fault α :=
  match t.get? name with
  | some a => .ok a
  | none => .error { cause := .missingKey (Text.quoted name) }

def remove (t : Table α) (name : String) : Except Fault (Table α) :=
  if t.contains name then .ok { entries := t.entries.filter (·.1 != name) }
  else .error { cause := .missingKey (Text.quoted name) }

def describe (t : Table α) : String := "VariableTable<" ++ ", ".intercalate t.names ++ ">"

end Table

end WormLang
