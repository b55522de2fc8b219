import WormLang.Datum

/-!
The game that a program is bound into, seen through two narrow interfaces over an arbitrary host state:
a world answers questions about entities, a handler performs deeds and prints. Questions never change
the host state. `Note` lists what the debug log can say.
-/
namespace WormLang

inductive Deed where
  | turn (angle : Float)
  | move
  | jump
  | toggleWeapon
  | fire (power : Int)
  deriving Inhabited

namespace Deed

def word : Deed → String
  | turn _ => "turn"
  | move => "move"
  | jump => "jump"
  | toggleWeapon => "toggleweap"
  | fire _ => "fire"

/-- The name of the handler operation that performs the deed. -/
def operation : Deed → String
  | toggleWeapon => "toggle_weapon"
  | deed => deed.word

end Deed

/-- Why a question about an entity has no answer. -/
inductive Lack where
  /-- The entity does not have what it is asked for. -/
  | capability
  | fault (f : Fault)

inductive Team where
  | named (name : String)
  /-- The team without anything in it, which is one for all. -/
  | empty
  /-- A team that nobody else can be in. -/
  | alone (id : EntityId)
  deriving DecidableEq, Repr

/-- What is seen in a direction: from where, and the nearest entity. -/
structure Sighting where
  origin : Float × Float
  found : Option EntityId

/-- Questions about the entities of a game with host state `σ`. -/
structure World (σ : Type) where
  /-- The name of an entity's sort. -/
  owner : σ → EntityId → String
  /-- The text that a print statement shows for an entity. -/
  shown : σ → EntityId → Except Fault String
  /-- The text that messages show for an entity. -/
  written : σ → EntityId → String
  /-- Whether an entity is part of a world. -/
  isPlaced : σ → EntityId → Bool
  /-- A number that an entity is asked for. -/
  number : σ → EntityId → Query → Except Lack Float
  /-- The team of an entity, none if it is in no team. -/
  team : σ → EntityId → Except Lack (Option Team)
  /-- What an entity is; none if it cannot tell. -/
  kind : σ → EntityId → Option EntityKind
  /-- The entities that a loop runs over, in order. -/
  members : σ → LoopKind → Except Fault (List EntityId)
  /-- Whether an entity has a place to look around from. -/
  hasPlace : σ → EntityId → Bool
  /-- The direction that an entity faces. What an entity has as its direction may be no angle, which shows only
  when it is turned from. -/
  heading : σ → EntityId → Except Lack (Except Fault Float)
  /-- What an entity sees in a direction. -/
  search : σ → EntityId → Float → Except Fault Sighting

/-- What performs deeds in a game with host state `σ`. A deed is done, refused or fails. -/
structure Handler (σ : Type) where
  perform : EntityId → Deed → σ → Except Fault Bool × σ
  print : String → σ → Except Fault Unit × σ

/-- The identity of a handler of the game. -/
structure HandlerId where
  index : Nat
  deriving DecidableEq, Repr, Inhabited

/-- A game: its world and its handler. -/
structure Game (σ : Type) where
  world : World σ
  handler : Handler σ

/-- The entity that a program is bound to. A program is bound to an entity and a handler at once. -/
structure Context where
  entity? : Option EntityId := none
  deriving DecidableEq, Repr, Inhabited

namespace Context

/-- Bind an entity, for good. -/
def bind (c : Context) (entity : Option EntityId) (hasHandler : Bool) : Except Fault Context :=
  if c.entity?.isSome then .error { cause := .alreadyBound }
  else
    match entity, hasHandler with
    | some id, true => .ok { entity? := some id }
    | _, _ => .error { cause := .bindingIncomplete }

def isBound (c : Context) : Bool := c.entity?.isSome

def entity (c : Context) : Except Fault EntityId :=
  match c.entity? with
  | some id => .ok id
  | none => .error { cause := .noEntity }

/-- The bound entity, as seen by someone who needs its handler first. -/
def actor (c : Context) : Except Fault EntityId :=
  match c.entity? with
  | some id => .ok id
  | none => .error { cause := .noHandler }

/-- The bound entity, which must be part of a world. -/
def resident {σ : Type} (c : Context) (world : World σ) (host : σ) : Except Fault EntityId := do
  let id ← c.entity
  if world.isPlaced host id then .ok id else .error { cause := .noWorld }

def describe (c : Context) (names : EntityId → String) : String :=
  "ExecutionContext<" ++ (match c.entity? with | some id => names id | none => "None") ++ ">"

end Context

inductive Note where
  | rejected (form : String) (fault : Fault)
  | rejectedProgram (count : Nat)
  | searched (origin : Float × Float) (angle : Float) (found : String)
  | refused (action : String)
  | started (cursor : String)
  | notFound (cursor : String)
  | finished (left : Int)
  | suspended (cursor : String)

def pairText (p : Float × Float) : String :=
  "(" ++ Number.text p.1 ++ ", " ++ Number.text p.2 ++ ")"

/-- The text of a log line, after the name of the part that speaks. -/
def Note.line : Note → String
  | rejected form fault => "wormscript.build: Rejected " ++ form ++ ": " ++ fault.text
  | rejectedProgram count =>
    "wormscript.parse: Program rejected with " ++ toString count ++ " semantic errors"
  | searched origin angle found =>
    "wormscript.sandbox: search from " ++ pairText origin ++ " at " ++ Number.fixedText 4 angle ++
      " found " ++ found
  | refused action => "wormscript.action: " ++ action ++ " refused by handler"
  | started cursor => "wormscript.program: Run started, resuming at " ++ cursor
  | notFound cursor =>
    "wormscript.program: Cursor " ++ cursor ++ " not found, running from the start"
  | finished left => "wormscript.program: Run finished with " ++ intText left ++ " statements left"
  | suspended cursor => "wormscript.program: Run suspended at " ++ cursor

/-- The debug log, oldest line first. -/
abbrev Log := Array Note

end WormLang
