import WormLang.Datum.Arithmetic
import WormLang.Host
import WormLang.Sandbox.Angle

/-!
A world in memory, for trying programs without a game: worms with every capability, food with a place and a
size, bystanders that are entities without capabilities, and rocks that are no entities at all. The world
keeps its members in the order in which they were added.
-/
namespace WormLang

/-- A worm. Its direction is kept within one turn and its action points between zero and their maximum. -/
structure Worm where
  x : Float
  y : Float
  radius : Float
  direction : Float
  hitPoints : Float
  maxHitPoints : Float
  actionPoints : Float
  maxActionPoints : Float
  team : Option String
  name : String
  deriving Inhabited

structure Food where
  x : Float
  y : Float
  radius : Float
  deriving Inhabited

/-- What can be in the world. -/
inductive Being where
  | worm (w : Worm)
  | food (f : Food)
  | bystander (name : String)
  | rock (name : String)
  deriving Inhabited

namespace Worm

/-- A worm at full points. Its direction must be one. -/
def makeBy (arithmetic : Angle.Arithmetic) (x y direction radius hitPoints actionPoints : Float)
    (team : Option String) (name : String) : Except Fault Worm := do
  let direction ← Angle.normalizeBy arithmetic direction
  return { x, y, radius, direction, hitPoints, maxHitPoints := hitPoints, actionPoints,
           maxActionPoints := actionPoints, team, name }

/-- A worm at full points, as doubles are added. -/
def make (x y direction radius hitPoints actionPoints : Float) (team : Option String) (name : String) :
    Except Fault Worm :=
  makeBy .standard x y direction radius hitPoints actionPoints team name

theorem make_eq (x y direction radius hitPoints actionPoints : Float) (team : Option String) (name : String) :
    make x y direction radius hitPoints actionPoints team name = do
      let direction ← Angle.normalize direction
      return { x, y, radius, direction, hitPoints, maxHitPoints := hitPoints, actionPoints,
               maxActionPoints := actionPoints, team, name } :=
  rfl

def faceBy (arithmetic : Angle.Arithmetic) (w : Worm) (angle : Float) : Except Fault Worm := do
  return { w with direction := ← Angle.normalizeBy arithmetic angle }

def face (w : Worm) (angle : Float) : Except Fault Worm := w.faceBy .standard angle

theorem face_eq (w : Worm) (angle : Float) :
    w.face angle = do return { w with direction := ← Angle.normalize angle } :=
  rfl

def turnBy (arithmetic : Angle.Arithmetic) (w : Worm) (angle : Float) : Except Fault Worm :=
  w.faceBy arithmetic (arithmetic.add w.direction angle)

theorem turnBy_standard (w : Worm) (angle : Float) : w.turnBy .standard angle = w.face (w.direction + angle) := rfl

/-- Have another number of action points, from zero up to the maximum. -/
def withPoints (w : Worm) (points : Float) : Worm :=
  { w with actionPoints := Number.larger 0.0 (Number.smaller points w.maxActionPoints) }

def startTurn (w : Worm) : Worm := { w with actionPoints := w.maxActionPoints }

def stepAhead (w : Worm) : Worm :=
  { w with x := w.x + w.radius * w.direction.cos, y := w.y + w.radius * w.direction.sin }

def number (w : Worm) : Query → Float
  | .x => w.x
  | .y => w.y
  | .radius => w.radius
  | .direction => w.direction
  | .actionPoints => w.actionPoints
  | .maxActionPoints => w.maxActionPoints
  | .hitPoints => w.hitPoints
  | .maxHitPoints => w.maxHitPoints

end Worm

namespace Being

def owner : Being → String
  | worm _ => "SandboxWorm"
  | food _ => "SandboxFood"
  | bystander _ => "HostEntity"
  | rock _ => "Rock"

def shown : Being → String
  | worm w => w.name
  | food _ => "food"
  | bystander name | rock name => name

def written : Being → String
  | food f => "SandboxFood" ++ pairText (f.x, f.y)
  | b => b.owner ++ "(" ++ Text.quoted b.shown ++ ")"

/-- What a being is; a rock cannot tell. -/
def kind? : Being → Option EntityKind
  | worm _ => some .worm
  | food _ => some .food
  | bystander _ => some .other
  | rock _ => none

def number? (q : Query) : Being → Option Float
  | worm w => some (w.number q)
  | food f =>
    match q with
    | .x => some f.x
    | .y => some f.y
    | .radius => some f.radius
    | _ => none
  | _ => none

def team? : Being → Option (Option String)
  | worm w => some w.team
  | _ => none

/-- Whether a being keeps a field under its name with an underscore in front. -/
def keeps (b : Being) (field : String) : Bool :=
  match b with
  | worm _ =>
    ["position", "radius", "direction", "hit_points", "max_hit_points", "action_points", "max_action_points",
      "team"].contains field
  | food _ => ["position", "radius"].contains field
  | _ => false

def lacks (b : Being) (capability field : String) : Fault :=
  match b with
  | rock _ => { cause := .noAttribute b.owner field }
  | _ => { cause := .unsupported b.owner capability }

end Being

/-- How lengths and directions are measured. -/
structure Measures where
  /-- The length of a vector, the abscissa first. -/
  distance : Float → Float → Float
  /-- The direction of a vector, the ordinate first. -/
  bearing : Float → Float → Float
  /-- How far two directions are apart. -/
  difference : Float → Float → Except Fault Float

def Measures.standard : Measures where
  distance := Number.distance
  bearing := Float.atan2
  difference := Angle.difference

def Query.field : Query → String
  | x | y => "position"
  | radius => "radius"
  | direction => "direction"
  | actionPoints => "action_points"
  | maxActionPoints => "max_action_points"
  | hitPoints => "hit_points"
  | maxHitPoints => "max_hit_points"

/-- The number that a query reads off a field, which is stored as a value. -/
def Query.readOff (q : Query) (names : Names) (d : Datum) : Except Fault Float := do
  let item ←
    match q with
    | x => d.part (·.owner names) 0
    | y => d.part (·.owner names) 1
    | _ => .ok d
  return (← Value.ofDatum names .number item).toNumber

/-- The world: every being by its identity, and the members in the order in which they were added. A host can
give any being further fields; a rock has no others. -/
structure Arena where
  beings : Array Being := #[]
  members : List EntityId := []
  extras : List ((EntityId × String) × Datum) := []
  /-- Whether the world is a bare interface, which answers no question about its members. -/
  isBare : Bool := false
  deriving Inhabited

namespace Arena

def being (a : Arena) (id : EntityId) : Being := a.beings.getD id.index default

def setBeing (a : Arena) (id : EntityId) (b : Being) : Arena :=
  { a with beings := a.beings.setIfInBounds id.index b }

def isPlaced (a : Arena) (id : EntityId) : Bool := a.members.contains id

def owner (a : Arena) : String := if a.isBare then "World" else "SandboxWorld"

def extra? (a : Arena) (id : EntityId) (field : String) : Option Datum := a.extras.lookup (id, field)

/-- Loose data in place of a field: a rock has nothing else, and a host can put it where a worm or food keeps the
field. -/
def loose? (a : Arena) (id : EntityId) (field : String) : Option Datum :=
  match a.being id with
  | .rock _ => a.extra? id field
  | b => if b.keeps field then a.extra? id ("_" ++ field) else none

/-- How messages name beings that were not changed by a host. -/
def givenNames (a : Arena) : Names where
  owner id := (a.being id).owner
  written id := (a.being id).written
  shown id := .ok (a.being id).shown

/-- The content of a being's own name, if a host renamed it; food has no name. -/
def renamed? (a : Arena) (id : EntityId) : Option Datum :=
  match a.being id with
  | .food _ => none
  | _ => a.extra? id "name"

/-- The text of a being; the name behind it must be a text. -/
def textOf (a : Arena) (id : EntityId) : Except Fault String :=
  match a.renamed? id with
  | some (.text s) => .ok s
  | some d => .error { cause := .notShowable (d.owner a.givenNames) }
  | none => .ok (a.being id).shown

def names (a : Arena) : Names where
  owner id := (a.being id).owner
  written id :=
    match a.being id, a.renamed? id, a.loose? id "position" with
    | .food f, _, some d => (Being.food f).owner ++ d.written a.givenNames
    | b, some d, _ => b.owner ++ "(" ++ d.written a.givenNames ++ ")"
    | b, _, _ => b.written
  shown id := a.textOf id

def setExtra (a : Arena) (id : EntityId) (field : String) (d : Datum) : Arena :=
  { a with extras := ((id, field), d) :: a.extras }

/-- Take a field that a host gave away from a being. -/
def dropExtra (a : Arena) (id : EntityId) (field : String) : Arena :=
  { a with extras := a.extras.filter fun entry => entry.1 != (id, field) }

/-- Change a being whose field has the right form from now on. -/
def setKept (a : Arena) (id : EntityId) (field : String) (b : Being) : Arena :=
  (a.dropExtra id ("_" ++ field)).setBeing id b

def add (a : Arena) (id : EntityId) : Except Fault Arena :=
  if a.isBare then .error { cause := .noAttribute a.owner "add" }
  else if a.isPlaced id then .error { cause := .alreadyInWorld (a.names.written id) }
  else .ok { a with members := a.members ++ [id] }

def remove (a : Arena) (id : EntityId) : Except Fault Arena :=
  if a.isBare then .error { cause := .noAttribute a.owner "remove" }
  else if a.isPlaced id then .ok { a with members := a.members.erase id }
  else .error { cause := .notInWorld }

def number (a : Arena) (id : EntityId) (q : Query) : Except Lack Float :=
  match a.loose? id q.field, (a.being id).number? q with
  | some d, _ => (q.readOff a.names d).mapError .fault
  | none, some x => .ok x
  | none, none => .error .capability

/-- The team of a being. Whoever has something loose as a team is in a team of its own, unless that is empty. -/
def team (a : Arena) (id : EntityId) : Except Lack (Option Team) :=
  match a.loose? id "team", (a.being id).team? with
  | some (.tuple []), _ => .ok (some .empty)
  | some _, _ => .ok (some (.alone id))
  | none, some t => .ok (t.map .named)
  | none, none => .error .capability

/-- What a being is; a rock cannot tell, and a field of a host's own is no kind. -/
def kind? (a : Arena) (id : EntityId) : Option EntityKind :=
  match a.extra? id "kind" with
  | some _ => none
  | none => (a.being id).kind?

/-- Whether a being is of a kind; it must be able to tell. -/
def isKind (a : Arena) (id : EntityId) (k : EntityKind) : Except Fault Bool :=
  match a.extra? id "kind", (a.being id).kind? with
  | none, none => .error ((a.being id).lacks "kind" "kind")
  | _, _ => .ok (a.kind? id == some k)

def position (a : Arena) (id : EntityId) : Except Fault (Float × Float) :=
  match a.loose? id "position" with
  | some d => d.toPoint (·.owner a.names)
  | none =>
    let b := a.being id
    match b.number? .x, b.number? .y with
    | some x, some y => .ok (x, y)
    | _, _ => .error (b.lacks "position" "position")

/-- Whether a being has a place, of whatever form. -/
def hasPlace (a : Arena) (id : EntityId) : Bool :=
  (a.loose? id Query.x.field).isSome || ((a.being id).number? .x).isSome

/-- The direction that a being faces; only a number can be turned from. -/
def heading (a : Arena) (id : EntityId) : Except Lack (Except Fault Float) :=
  match a.loose? id Query.direction.field, (a.being id).number? .direction with
  | some d, _ => .ok (d.summand (·.owner a.names))
  | none, some angle => .ok (.ok angle)
  | none, none => .error .capability

def bareFault (method : String) : Fault := { cause := .notImplemented "World" method }

/-- The members of a kind; every member must be able to tell its kind. -/
def ofKind (a : Arena) (k : EntityKind) : Except Fault (List EntityId) :=
  a.members.filterM (a.isKind · k)

def worms (a : Arena) : Except Fault (List EntityId) :=
  if a.isBare then .error (bareFault "worms") else a.ofKind .worm

def food (a : Arena) : Except Fault (List EntityId) :=
  if a.isBare then .error (bareFault "food") else a.ofKind .food

def entities (a : Arena) : Except Fault (List EntityId) :=
  if a.isBare then .error (bareFault "entities") else .ok a.members

/-- The members that a loop runs over. -/
def collection (a : Arena) : LoopKind → Except Fault (List EntityId)
  | .worm => a.worms
  | .food => a.food
  | .any => a.entities

/-- The nearest match so far and its distance. -/
structure Nearest where
  found : Option EntityId := none
  distance : Float := Number.infinity false

/-- Look at one member from a point: it matches if it is elsewhere, nearer than the nearest match so far, and in
the direction of the angle. -/
def lookBy (m : Measures) (a : Arena) (x y angle : Float) (nearest : Nearest) (id : EntityId) :
    Except Fault Nearest := do
  let (ex, ey) ← a.position id
  let distance := m.distance (ex - x) (ey - y)
  if distance ≤ 0.0 || distance ≥ nearest.distance then return nearest
  else
    let off ← m.difference (m.bearing (ey - y) (ex - x)) angle
    if off ≤ Angle.searchTolerance then return { found := some id, distance }
    else return nearest

/-- The nearest member from a point in the direction of an angle, the first of those at one distance. -/
def searchBy (m : Measures) (a : Arena) (origin : Float × Float) (angle : Float) : Except Fault (Option EntityId) :=
  if a.isBare then .error (bareFault "search_object")
  else do
    let nearest ← a.members.foldlM (a.lookBy m origin.1 origin.2 angle) {}
    return nearest.found

def search (a : Arena) (origin : Float × Float) (angle : Float) : Except Fault (Option EntityId) :=
  a.searchBy .standard origin angle

/-- What is seen in the direction of an angle from what should be a point; a bare interface does not look at it. -/
def searchAt (a : Arena) (origin : Except Fault (Float × Float)) (angle : Float) : Except Fault Sighting :=
  if a.isBare then .error (bareFault "search_object")
  else do
    let origin ← origin
    return { origin, found := ← a.search origin angle }

/-- What a being sees from its place in the direction of an angle. -/
def searchFrom (a : Arena) (id : EntityId) (angle : Float) : Except Fault Sighting :=
  a.searchAt (a.position id) angle

def describe (a : Arena) : String :=
  if a.isBare then "World" else "SandboxWorld<" ++ toString a.members.length ++ " entities>"

def world : World Arena where
  owner a := a.names.owner
  shown a := a.names.shown
  written a := a.names.written
  isPlaced a id := a.isPlaced id
  number a id q := a.number id q
  team a id := a.team id
  kind a id := a.kind? id
  members a kind := a.collection kind
  hasPlace a id := a.hasPlace id
  heading a id := a.heading id
  search a id angle := a.searchFrom id angle

end Arena

/-- A world that is a part of a larger host state. -/
def World.within {σ τ : Type} (w : World σ) (part : τ → σ) : World τ where
  owner h := w.owner (part h)
  shown h := w.shown (part h)
  written h := w.written (part h)
  isPlaced h := w.isPlaced (part h)
  number h := w.number (part h)
  team h := w.team (part h)
  kind h := w.kind (part h)
  members h := w.members (part h)
  hasPlace h := w.hasPlace (part h)
  heading h := w.heading (part h)
  search h := w.search (part h)

end WormLang
