import WormLang.Datum.Comparison
import WormLang.Sandbox.Reading

/-!
Handlers of the sandbox. The recording handler makes worms pay for their deeds with action points, refuses
what they cannot pay, and keeps a record of everything. The scripted handler answers as it was told. The
bare handler is an interface without any operation.
-/
namespace WormLang

/-- A deed and who did it. -/
structure Record where
  deed : Deed
  entity : EntityId
  /-- How a host wrote the measure of the deed, if not as the deed has it. -/
  measure? : Option String := none

/-- The measure of a deed as messages show it. -/
def Record.measure (r : Record) : Option String :=
  match r.measure?, r.deed with
  | some written, _ => some written
  | none, .turn angle => some (Number.text angle)
  | none, .fire power => some (intText power)
  | none, _ => none

/-- What a handler remembers, oldest first. -/
structure Records where
  actions : Array Record := #[]
  refused : Array Record := #[]
  /-- Programs print texts; a host can print anything. -/
  printed : Array Datum := #[]

namespace Records

def addAction (r : Records) (record : Record) : Records := { r with actions := r.actions.push record }

def addRefused (r : Records) (record : Record) : Records := { r with refused := r.refused.push record }

def addPrinted (r : Records) (d : Datum) : Records := { r with printed := r.printed.push d }

/-- The printed texts. -/
def texts (r : Records) : List String :=
  r.printed.toList.filterMap fun
    | .text s => some s
    | _ => none

def words (r : Records) : List String := r.actions.toList.map (·.deed.word)

end Records

/-- A handler of the sandbox with its memory. -/
inductive Keeper where
  | recording (records : Records)
  /-- Answers that are still to come, as a host gave them, and the records. -/
  | scripted (answers : List Datum) (records : Records)
  | bare
  /-- No handler at all. -/
  | absent

namespace Keeper

def owner : Keeper → String
  | recording _ => "RecordingHandler"
  | scripted .. => "ScriptedHandler"
  | bare => "ActionHandler"
  | absent => "NoneType"

def records? : Keeper → Option Records
  | recording records | scripted _ records => some records
  | bare | absent => none

/-- The records, read by the name of a field. -/
def recordsOf (k : Keeper) (field : String) : Except Fault Records :=
  match k.records? with
  | some r => .ok r
  | none => .error { cause := .noAttribute k.owner field }

def clear : Keeper → Except Fault Keeper
  | recording _ => .ok (recording {})
  | scripted answers _ => .ok (scripted answers {})
  | k => .error { cause := .noAttribute k.owner "clear" }

def isPresent : Keeper → Bool
  | absent => false
  | _ => true

end Keeper

structure Sandbox where
  arena : Arena := {}
  keeper : Keeper := .recording {}

namespace Sandbox

/-- A sandbox has one handler, which is its keeper. -/
def handler : HandlerId := ⟨0⟩

def handler? (given : Bool) : Option HandlerId := if given then some handler else none

/-- Action points for a step, a shot, and a change of weapon. -/
def moveCost : Float := 1.0

def fireCost : Float := 10.0

def toggleCost : Float := 0.0

/-- A number of points as a cost; no number is an infinite cost. -/
def costOf : Option Nat → Float
  | some n => Number.nearest false n 0
  | none => Number.infinity false

/-- The sort of a cost: costs are whole numbers, unless there is no number of points that is enough. -/
def costSort (cost : Float) : String := if cost.isInf then "float" else "int"

/-- The action points of a being, which are about to be compared with something of a sort. -/
def points (a : Arena) (id : EntityId) (symbol sort : String) : Except Fault Float :=
  let b := a.being id
  match a.loose? id "action_points", b.number? .actionPoints with
  | some (.float points), _ => .ok points
  | some d, _ => .error { cause := .orderSorts symbol (d.owner a.names) sort }
  | none, some points => .ok points
  | none, none => .error (b.lacks Query.actionPoints.capability "action_points")

/-- A being with a number of action points; a worm keeps them within its limits. -/
def withPoints (a : Arena) (id : EntityId) (points : Float) : Except Fault Arena :=
  match a.being id with
  | .worm w => a.setPoints id w points
  | _ => .ok (a.setExtra id "action_points" (.float points))

/-- Make a being pay for a deed and record it; refuse the deed if the being has too few points. -/
def pay (a : Arena) (r : Records) (cost : Float) (record : Record) :
    Except Fault (Bool × Arena × Records) := do
  let points ← points a record.entity "<" (costSort cost)
  if points < cost then return (false, a, r.addRefused record)
  else return (true, ← withPoints a record.entity (points - cost), r.addAction record)

def effect (w : Worm) : Deed → Except Fault Worm
  | .turn angle => w.turnBy .standard angle
  | .move => .ok w.stepAhead
  | _ => .ok w

/-- What a paid deed does to a being with loose fields: they must be there, and of the right form. -/
def looseEffect (a : Arena) (id : EntityId) : Deed → Except Fault Arena
  | .turn angle => do
    let direction ← (← a.read id "direction").summand (·.owner a.names)
    a.write id "direction" (.float (direction + angle))
  | .move => do
    let (x, y) ← (← a.read id "position").toPoint (·.owner a.names)
    let radius ← a.read id "radius"
    let direction ← (← (← a.read id "direction").toQuantity (·.owner a.names)).toDouble
    if direction.isInf then throw { cause := .mathDomain }
    let step ← radius.factor (·.owner a.names)
    a.write id "position" (.tuple [.float (x + step * direction.cos), .float (y + step * direction.sin)])
  | _ => .ok a

/-- Whether a being moves by loose fields. -/
def movesLoosely (a : Arena) (id : EntityId) : Bool :=
  ["position", "radius", "direction"].any fun field => (a.loose? id field).isSome

def takeEffect (a : Arena) (id : EntityId) (deed : Deed) : Except Fault Arena :=
  match a.being id with
  | .worm w => do
    if movesLoosely a id then looseEffect a id deed
    else return a.setBeing id (.worm (← effect w deed))
  | .rock _ => looseEffect a id deed
  | _ => .ok a

/-- The cost of a deed for a being; a jump costs all points, and is refused without any. -/
def cost (a : Arena) (id : EntityId) : Deed → Except Fault Float
  | .turn angle => do return costOf (← Angle.turnCost angle)
  | .move => .ok moveCost
  | .jump => points a id "<=" "int"
  | .toggleWeapon => .ok toggleCost
  | .fire _ => .ok fireCost

/-- Whether a deed is refused whatever it costs. -/
def isHopeless (cost : Float) : Deed → Bool
  | .jump => cost ≤ 0.0
  | _ => false

/-- Perform a deed with records: pay, then take effect. -/
def perform (a : Arena) (r : Records) (record : Record) : Except Fault Bool × Arena × Records :=
  match cost a record.entity record.deed with
  | .error f => (.error f, a, r)
  | .ok cost =>
    if isHopeless cost record.deed then (.ok false, a, r.addRefused record)
    else
      match pay a r cost record with
      | .error f => (.error f, a, r)
      | .ok (false, a, r) => (.ok false, a, r)
      | .ok (true, a, r) =>
        match takeEffect a record.entity record.deed with
        | .ok a => (.ok true, a, r)
        | .error f => (.error f, a, r)

/-- Ask the handler for a deed, which is remembered as the record says. Scripted answers are given as they are;
those that count as false are refusals. -/
def handle (record : Record) (s : Sandbox) : Except Fault Datum × Sandbox :=
  match s.keeper with
  | .recording r =>
    let (answer, arena, r) := perform s.arena r record
    (answer.map .truth, { arena, keeper := .recording r })
  | .scripted answers r =>
    let answer := answers.headD (.truth true)
    let r := if answer.isTruthy then r.addAction record else r.addRefused record
    (.ok answer, { s with keeper := .scripted answers.tail r })
  | .bare => (.error { cause := .notImplemented "ActionHandler" record.deed.operation }, s)
  | .absent => (.error { cause := .noAttribute s.keeper.owner record.deed.operation }, s)

/-- Ask the handler for a deed: whether it is done. -/
def attempt (record : Record) (s : Sandbox) : Except Fault Bool × Sandbox :=
  let (answer, s) := handle record s
  (answer.map Datum.isTruthy, s)

def print (d : Datum) (s : Sandbox) : Except Fault Unit × Sandbox :=
  match s.keeper with
  | .recording r => (.ok (), { s with keeper := .recording (r.addPrinted d) })
  | .scripted answers r => (.ok (), { s with keeper := .scripted answers (r.addPrinted d) })
  | .bare => (.error { cause := .notImplemented "ActionHandler" "print" }, s)
  | .absent => (.error { cause := .noAttribute s.keeper.owner "print" }, s)

def game : Game Sandbox where
  world := Arena.world.within Sandbox.arena
  handler := { perform := fun entity deed => attempt { deed, entity }, print := fun text => print (.text text) }

end Sandbox

end WormLang
