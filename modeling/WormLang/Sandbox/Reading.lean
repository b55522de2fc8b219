import WormLang.Sandbox.Arena

/-!
Fields of beings as a host reads and writes them by name. Reading a field that a being does not have is a
fault: entities name the capability that they lack, other objects the field. Some fields can be written, some
are fixed, and any other name makes a new field. What worms and food keep can also be reached without any check,
under its name with an underscore in front.
-/
namespace WormLang

/-- Fields that every entity has by its sort. -/
def entityFields : List String :=
  ["world", "position", "radius", "direction", "hit_points", "max_hit_points", "action_points",
    "max_action_points", "team"]

namespace Being

/-- The field of a being, as its sort defines it. -/
def read (b : Being) (field : String) : Except Fault Datum :=
  let unknown : Except Fault Datum := .error { cause := .noAttribute b.owner field }
  match field with
  | "position" =>
    match b.number? .x, b.number? .y with
    | some x, some y => .ok (.tuple [.float x, .float y])
    | _, _ => .error (b.lacks "position" field)
  | "team" =>
    match b.team? with
    | some (some name) => .ok (.object (.team name))
    | some none => .ok .null
    | none => .error (b.lacks teamCapability field)
  | "kind" =>
    match b.kind? with
    | some k => .ok (.entityKind k)
    | none => .error (b.lacks "kind" field)
  | "name" =>
    match b with
    | food _ => unknown
    | _ => .ok (.text b.shown)
  | _ =>
    match Query.all.find? (·.field == field) with
    | some q =>
      match b.number? q with
      | some x => .ok (.float x)
      | none => .error (b.lacks q.capability field)
    | none => unknown

/-- The field behind a name with an underscore in front, if a being keeps one there. -/
def kept? (b : Being) (field : String) : Option String :=
  match field.toList with
  | '_' :: rest => if b.keeps (String.ofList rest) then some (String.ofList rest) else none
  | _ => none

/-- A being that keeps something else in a field, if that has the right form. -/
def keep? (b : Being) (field : String) (d : Datum) : Option Being :=
  match b, field, d with
  | worm w, "position", .tuple [.float x, .float y] => some (worm { w with x, y })
  | worm w, "radius", .float radius => some (worm { w with radius })
  | worm w, "direction", .float direction => if direction.isInf then none else some (worm { w with direction })
  | worm w, "hit_points", .float hitPoints => some (worm { w with hitPoints })
  | worm w, "max_hit_points", .float maxHitPoints => some (worm { w with maxHitPoints })
  | worm w, "action_points", .float actionPoints => some (worm { w with actionPoints })
  | worm w, "max_action_points", .float maxActionPoints => some (worm { w with maxActionPoints })
  | food f, "position", .tuple [.float x, .float y] => some (food { f with x, y })
  | food f, "radius", .float radius => some (food { f with radius })
  | _, _, _ => none

/-- Whether the sort of a being defines a field for good. -/
def fixes (b : Being) (field : String) : Bool :=
  match b with
  | rock _ => field == "world"
  | _ => entityFields.contains field

end Being

namespace Arena

def read (a : Arena) (id : EntityId) (field : String) : Except Fault Datum :=
  let b := a.being id
  let given? := if b.fixes field then none else a.extra? id field
  match (a.loose? id field).or given? with
  | some d => .ok d
  | none => b.read ((b.kept? field).getD field)

/-- Give a worm another number of action points, from zero up to the maximum, which must be a number. -/
def setPoints (a : Arena) (id : EntityId) (w : Worm) (points : Float) : Except Fault Arena :=
  match a.loose? id "max_action_points" with
  | some d => .error { cause := .orderSorts "<" (d.owner a.names) "float" }
  | none => .ok (a.setKept id "action_points" (.worm (w.withPoints points)))

/-- Put data where a being keeps a field, whatever its form. -/
def keep (a : Arena) (id : EntityId) (field : String) (d : Datum) : Arena :=
  match (a.being id).keep? field d with
  | some b => a.setKept id field b
  | none => a.setExtra id ("_" ++ field) d

def write (a : Arena) (id : EntityId) (field : String) (d : Datum) : Except Fault Arena :=
  let b := a.being id
  let owner : Datum → String := fun d => d.owner a.names
  match b, field with
  | .worm w, "position" => do
    let (x, y) ← d.toPoint owner
    return a.setKept id field (.worm { w with x, y })
  | .food f, "position" => do
    let (x, y) ← d.toPoint owner
    return a.setKept id field (.food { f with x, y })
  | .worm w, "direction" => do
    let angle ← (← d.toQuantity owner).toDouble
    return a.setKept id field (.worm (← w.face angle))
  | .worm w, "action_points" => do a.setPoints id w (← d.toDouble owner)
  | b, field =>
    if b.fixes field then .error { cause := .noSetter b.owner field }
    else
      match b.kept? field with
      | some kept => .ok (a.keep id kept d)
      | none => .ok (a.setExtra id field d)

end Arena

end WormLang
