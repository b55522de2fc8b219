import WormLang.Fault
import WormLang.Value
import WormLang.Number.Quantity

/-!
Loose host data. A host hands over data that is typed only by its form; a value accepts data of the
right form and refuses the rest with a fault that shows the data.

Lists and values have a stamp, which tells apart two of them that look alike. What a host keeps in a store of
its own is known by reference.
-/
namespace WormLang

/-- Something that a host keeps, by reference. -/
inductive ObjectRef where
  | node (index : Nat)
  | cell (index : Nat)
  | program (index : Nat)
  /-- The table of global variables. -/
  | table
  | place (p : Position)
  | fault (f : Fault)
  | team (name : String)
  deriving DecidableEq, Repr

/-- A piece of host data. -/
inductive Datum where
  | null
  | truth (b : Bool)
  | int (n : Int)
  | float (x : Float)
  | text (s : String)
  | being (id : EntityId)
  | list (stamp : Nat) (items : List Datum)
  | tuple (items : List Datum)
  | ty (t : Ty)
  | entityKind (k : EntityKind)
  | loopKind (k : LoopKind)
  | value (stamp : Nat) (t : Ty) (data : Datum)
  | object (o : ObjectRef)
  deriving Inhabited

def teamText (name : String) : String := "Team(" ++ Text.quoted name ++ ")"

def Position.written (p : Position) : String :=
  "SourcePosition(line=" ++ optionalIntText p.line ++ ", column=" ++ optionalIntText p.column ++ ", end_line=" ++
    optionalIntText p.endLine ++ ", end_column=" ++ optionalIntText p.endColumn ++ ", filename=" ++
    (match p.file with | some file => Text.quoted file | none => "None") ++ ")"

namespace ObjectRef

/-- The sort of what is referred to, as far as the reference tells it. -/
def owner : ObjectRef → String
  | node _ => "AstNode"
  | cell _ => "Variable"
  | program _ => "Program"
  | table => "VariableTable"
  | place _ => "SourcePosition"
  | fault f => f.kind.name
  | team _ => "Team"

def written : ObjectRef → String
  | place p => p.written
  | fault f => f.kind.name ++ "(" ++ Text.quoted f.text ++ ")"
  | team name => teamText name
  | o => o.owner

end ObjectRef

/-- How messages name entities: the sort of an entity, its text in messages, and its own text, which it may
fail to give. -/
structure Names where
  owner : EntityId → String
  written : EntityId → String
  shown : EntityId → Except Fault String

namespace Datum

mutual

/-- Data as messages show it, in pieces. -/
def segments : Datum → List Segment
  | null => [.words "None"]
  | truth b => [.words (boolName b)]
  | int n => [.words (intText n)]
  | float x => [.words (Number.text x)]
  | text s => [.words (Text.quoted s)]
  | being id => [.mention id]
  | list _ items => .words "[" :: segmentsAll items ++ [.words "]"]
  | tuple [d] => .words "(" :: segments d ++ [.words ",)"]
  | tuple items => .words "(" :: segmentsAll items ++ [.words ")"]
  | ty t => [.words ("Type." ++ t.name)]
  | entityKind k => [.words ("<EntityKind." ++ k.name ++ ": " ++ Text.quoted k.word ++ ">")]
  | loopKind k => [.words ("<ForeachKind." ++ k.name ++ ": " ++ Text.quoted k.word ++ ">")]
  | value _ t data => .words ("Value(" ++ t.keyword ++ ", ") :: segments data ++ [.words ")"]
  | object o => [.words o.written]

def segmentsAll : List Datum → List Segment
  | [] => []
  | [d] => segments d
  | d :: rest => segments d ++ .words ", " :: segmentsAll rest

end

def written (names : Names) (d : Datum) : String := Segment.join names.written d.segments

/-- Data that is no entity as text, in pieces: like in messages, but texts stand for themselves. -/
def label : Datum → List Segment
  | text s => [.words s]
  | entityKind k => [.words ("EntityKind." ++ k.name)]
  | loopKind k => [.words ("ForeachKind." ++ k.name)]
  | object (.place p) => [.words p.describe]
  | object (.fault f) => [.words f.text]
  | d => d.segments

def shown (names : Names) : Datum → Except Fault String
  | being id => names.shown id
  | d => .ok (Segment.join names.written d.label)

def owner (names : Names) : Datum → String
  | null => "NoneType"
  | truth _ => "bool"
  | int _ => "int"
  | float _ => "float"
  | text _ => "str"
  | being id => names.owner id
  | list .. => "list"
  | tuple _ => "tuple"
  | ty _ => "Type"
  | entityKind _ => "EntityKind"
  | loopKind _ => "ForeachKind"
  | value .. => "Value"
  | object o => o.owner

/-- What data refers to when it is kept as an entity. -/
def handle (names : Names) (d : Datum) : Handle :=
  let thing (stamp : Nat) : Handle :=
    .thing { stamp, owner := d.owner names, shown := d.label }
  match d with
  | null => .null
  | being id => .being id
  | list stamp _ | value stamp _ _ => thing stamp
  | _ => thing 0

/-- Whether data is a plain number, truth value or text. -/
def isPlain : Datum → Bool
  | truth _ | int _ | float _ | text _ => true
  | _ => false

/-- The number that data stands for; truth values count as one and zero. -/
def quantity? : Datum → Option Quantity
  | truth b => some (.whole (if b then 1 else 0))
  | int n => some (.whole n)
  | float x => some (.double x)
  | _ => none

end Datum

def Quantity.toDatum : Quantity → Datum
  | whole n => .int n
  | double x => .float x

/-- Whether data can be stored as a type: truth values as `bool`, numbers as `double`, and anything that
is not plain as `entity`. -/
def Ty.accepts : Ty → Datum → Bool
  | .boolean, .truth _ => true
  | .number, .int _ => true
  | .number, .float _ => true
  | .entity, d => !d.isPlain
  | _, _ => false

namespace Value

def ofDatum (names : Names) (t : Ty) (d : Datum) : Except Fault Value :=
  match t, d with
  | .boolean, .truth b => .ok (boolean b)
  | .number, .float x => .ok (number x)
  | .number, .int n => do return number (← (Quantity.whole n).toDouble)
  | .entity, d =>
    if d.isPlain then .error { cause := .cannotStore (d.written names) t }
    else .ok (entity (d.handle names))
  | t, d => .error { cause := .cannotStore (d.written names) t }

end Value

end WormLang
