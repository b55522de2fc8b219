import WormLang.Workbench.Wording

/-!
Values and variables that a host makes by hand. A value is made of a type and of data that the type accepts;
numbers become doubles. A variable is known by reference: a content stored through one reference is seen
through every other, also after its name was dropped from the table.
-/
namespace WormLang

namespace Act

def makeValue (t d : Datum) : Act Datum := do
  match t with
  | .ty ty =>
    if !ty.accepts d then fail (.cannotStore (← written d) ty)
    match ty, d with
    | .number, .int n => return .value (← freshStamp) ty (.float (← .ofExcept (Quantity.whole n).toDouble))
    | ty, d => return .value (← freshStamp) ty d
  | t => fail (.valueNeedsType (← written t))

/-- A number as a value; anything else is refused. -/
def ofNumber (d : Datum) : Act Datum := makeValue (.ty .number) d

def ofBool (b : Bool) : Act Datum := makeValue (.ty .boolean) (.truth b)

/-- An entity as a value; anything that is not plain counts as one. -/
def ofEntity (d : Datum) : Act Datum := makeValue (.ty .entity) d

def firstValue (t : Datum) : Act Datum := do makeValue t (← field t "default")

/-- Make a variable outside of the table. -/
def makeCell (t : Datum) : Act Nat := do
  match t with
  | .ty _ =>
    let content ← firstValue t
    modifyGet fun w => (w.cells.size, { w with cells := w.cells.push { ty := t, content } })
  | t => fail (.variableNeedsType (← written t))

def typeAccepts (t d : Datum) : Act Bool :=
  match t with
  | .ty ty => return ty.accepts d
  | t => lacks t "accepts"

def cellAccepts (i : Nat) (d : Datum) : Act Bool := do
  let c ← cell i
  match d with
  | .value _ t _ => return c.ty.isSame (.ty t)
  | d => typeAccepts c.ty d

/-- Store data in a variable; data that is no value becomes one of the declared type. -/
def store (i : Nat) (d : Datum) : Act Unit := do
  let c ← cell i
  match d with
  | .value _ t _ =>
    if c.ty.isSame (.ty t) then setCell i { c with content := d }
    else fail (.cannotAssign t (← toTy c.ty))
  | d => setCell i { c with content := ← makeValue c.ty d }

/-- Require data that is a name: a text, and not empty. -/
def checkName (d position : Datum) : Act Unit := do
  match d with
  | .text s => if s.isEmpty then failAt (.invalidName (← written d)) position
  | d => failAt (.invalidName (← written d)) position

/-- Declare a variable. The name is checked first, then the type. -/
def declare (name t position : Datum) : Act Datum := do
  checkName name position
  let word ← shown name
  if (← get).table.contains word then failAt (.alreadyDeclared word) position
  let i ← makeCell t
  modify fun w => { w with table := w.table.push word i }
  return .object (.cell i)

/-- The variable behind a key of the table. -/
def lookup? (name : Datum) : Act (Option Nat) := do
  .ofExcept name.checkKey
  match name with
  | .text s => return (← get).table.get? s
  | _ => return none

/-- The variable behind a name, in what should be the table. -/
def lookupIn? (table : Datum) (operation : String) (name : Datum) : Act (Option Nat) :=
  match table with
  | .object .table => lookup? name
  | d => lacks d operation

/-- The variable behind a name, which must be declared. -/
def lookup (table name position : Datum) : Act Nat := do
  match ← lookupIn? table "lookup" name with
  | some i => return i
  | none => failAt (.variableMissing (← shown name)) position

/-- The variable behind a key, which must be in the table. -/
def fetch (name : Datum) : Act Nat := do
  match ← lookup? name with
  | some i => return i
  | none => fail (.missingKey (← written name))

def drop (name : Datum) : Act Unit := do
  let _ ← fetch name
  let word ← shown name
  let table ← .ofExcept ((← get).table.remove word)
  modify fun w => { w with table }

/-- Data that should be a variable, for an operation of variables. -/
def asCell (d : Datum) (operation : String) : Act Nat :=
  match d with
  | .object (.cell i) => return i
  | d => lacks d operation

end Act

/-- An operation on values, variables and the table. -/
inductive ValueStep where
  | make (t d : Datum)
  | first (t : Datum)
  /-- Text, display text, whether it is null, and the value itself. -/
  | show (d : Datum)
  | equal (a b : Datum)
  | sameFingerprint (a b : Datum)
  | setField (d name content : Datum)
  | describeType (t : Datum)
  | accepts (t d : Datum)
  | fuzzy (a b eps : Datum)
  | variable (t d : Datum)
  | store (v d : Datum)
  | declare (name t position : Datum)
  | lookup (name position : Datum)
  | find (name : Datum)
  | fetch (name : Datum)
  | drop (name : Datum)
  | contains (name : Datum)
  | describeTable

namespace Act

def answers (items : List Datum) : Datum := .tuple items

def writtenDatum (d : Datum) : Act Datum := return .text (← written d)

/-- Make an operation on values: the answer, and what a host can keep. -/
def valueStep : ValueStep → Act (Datum × Datum)
  | .make t d => do
    let v ← makeValue t d
    return (← writtenDatum v, v)
  | .first t => do
    let v ← firstValue t
    return (← writtenDatum v, v)
  | .show d => do
    let text ← writtenDatum d
    let display ← display d
    return (answers [text, .text display, ← field d "is_null", d], .null)
  | .equal a b => return (answers [.truth (a.isEqual b), .truth (!a.isEqual b)], .null)
  | .sameFingerprint a b => do return (.truth (← .ofExcept (a.sharesFingerprint b)), .null)
  | .setField d name content => do
    match name with
    | .text name => setField d name content
    | name => fail (.notFieldName ((← get).owner name))
    return (.null, .null)
  | .describeType t => do
    let name ← field t "name"
    let keyword ← field t "keyword"
    return (answers [name, keyword, ← field t "default", ← writtenDatum t], .null)
  | .accepts t d => do
    match t with
    | .object (.cell i) => return (.truth (← cellAccepts i d), .null)
    | t => return (.truth (← typeAccepts t d), .null)
  | .fuzzy a b eps => do
    let owner := (← get).owner
    let eq ← .ofExcept (Datum.fuzzyEq owner a b eps)
    let le ← .ofExcept (Datum.fuzzyLe owner a b eps)
    return (answers [.truth eq, .truth le, .truth (← .ofExcept (Datum.fuzzyGe owner a b eps))], .null)
  | .variable t d => do
    let i ← makeCell t
    if !d.isSame .null then store i d
    let v : Datum := .object (.cell i)
    return (← writtenDatum v, v)
  | .store v d => do
    let i ← asCell v "set_value"
    store i d
    return (answers [← writtenDatum v, (← cell i).content], .null)
  | .declare name t position => do
    let v ← declare name t position
    return (← writtenDatum v, v)
  | .lookup name position => do
    let v : Datum := .object (.cell (← lookup (.object .table) name position))
    return (← writtenDatum v, v)
  | .find name => do
    match ← lookup? name with
    | some i => return (← writtenDatum (.object (.cell i)), .object (.cell i))
    | none => return (← writtenDatum .null, .null)
  | .fetch name => do
    let v : Datum := .object (.cell (← fetch name))
    return (← writtenDatum v, v)
  | .drop name => do
    drop name
    return (← writtenDatum (.object .table), .null)
  | .contains name => do return (.truth (← lookup? name).isSome, .null)
  | .describeTable => do
    let table := (← get).table
    let entries ← table.entries.mapM fun (name, i) => do
      return answers [.text name, ← writtenDatum (.object (.cell i))]
    return (answers [.int table.size, answers (table.names.map .text), answers entries,
      ← writtenDatum (.object .table)], .null)

end Act

end WormLang
