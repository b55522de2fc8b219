import WormLang.Workbench.Operation

/-!
The bare interfaces to a game and the base sorts of nodes. An interface used as it is, without an implementation,
fails in most of its operations and says so; this module states what each operation answers.
-/
namespace WormLang

inductive Interface where
  | entity
  | world
  | handler
  | node
  | expression
  | statement
  | action
  | conditional
  deriving DecidableEq, Repr

namespace Interface

def name : Interface → String
  | entity => "Entity"
  | world => "World"
  | handler => "ActionHandler"
  | node => "AstNode"
  | expression => "Expression"
  | statement => "Statement"
  | action => "Action"
  | conditional => "ConditionalStatement"

def ofName? (s : String) : Option Interface :=
  [entity, world, handler, node, expression, statement, action, conditional].find? (·.name == s)

/-- The operations that an interface adds to those of its base sort. -/
def ownOperations : Interface → List (String × List String)
  | entity => []
  | world =>
    [("worms", []), ("food", []), ("entities", []), ("search_object", ["position", "angle"]),
      ("collection", ["kind"])]
  | handler =>
    [("turn", ["entity", "angle"]), ("move", ["entity"]), ("jump", ["entity"]), ("toggle_weapon", ["entity"]),
      ("fire", ["entity", "yield_"]), ("print", ["text"])]
  | node => [("unparse", [])]
  | expression => [("evaluate", ["context"])]
  | statement => [("execute", ["program"]), ("children", []), ("walk", [])]
  | action => [("execute", ["program"]), ("perform", ["handler", "entity", "context"]), ("unparse", [])]
  | conditional => [("execute", ["program"]), ("perform", ["program"])]

/-- The sorts that an interface builds on, itself first. -/
def bases : Interface → List Interface
  | expression => [expression, node]
  | statement => [statement, node]
  | action => [action, statement, node]
  | conditional => [conditional, statement, node]
  | i => [i]

/-- The sort that defines an operation of an interface, and its parameters. -/
def operation? (i : Interface) (operation : String) : Option Signature :=
  i.bases.firstM fun base => do
    let required ← base.ownOperations.lookup operation
    return { operation := base.name ++ "." ++ operation, required }

/-- What a field of an interface holds. -/
def field? (i : Interface) (field : String) : Option Datum :=
  match i, field with
  | .entity, "world" => some .null
  | .entity, "kind" => some (.entityKind .other)
  | .expression, "type" => some .null
  | .statement, "has_action" | .conditional, "has_action" => some (.truth false)
  | .action, "has_action" => some (.truth true)
  | .action, "keyword" => some .null
  | .action, "__repr__" | .action, "__str__" => some (.text "Action()")
  | i, "position" => if i.bases.contains .node then some .null else none
  | _, _ => none

/-- The capability that a bare entity lacks behind a field. -/
def capability? (i : Interface) (field : String) : Option String :=
  if i = entity then
    if field == "team" then some teamCapability else (Query.all.find? (·.field == field)).map Query.capability
  else none

def collectionOperation : LoopKind → String
  | .worm => "worms"
  | .food => "food"
  | .any => "entities"

/-- What an operation of an interface answers to its arguments. -/
def answer (i : Interface) (operation : String) (args : List Datum) : Act Datum := do
  let first := args.headD .null
  match i, operation with
  | .world, "collection" =>
    match first with
    | .loopKind kind => .fail (.notImplemented i.name (collectionOperation kind))
    | d => .fail (.unknownLoopKind (← .written d))
  | .action, "execute" | .conditional, "execute" => .field first "state"
  | .action, "unparse" => return .text "None;"
  | _, "children" => return .tuple []
  | _, _ => .fail (.notImplemented i.name operation)

def use (i : Interface) (name : String) (args : List Datum) : Act Datum := do
  match i.operation? name, i.field? name, i.capability? name with
  | some signature, _, _ =>
    let bound ← .ofExcept (signature.bind args [])
    i.answer name (bound.map Prod.snd)
  | none, some content, _ => return content
  | none, none, some capability => .fail (.unsupported i.name capability)
  | none, none, none => .fail (.noAttribute i.name name)

end Interface

end WormLang
