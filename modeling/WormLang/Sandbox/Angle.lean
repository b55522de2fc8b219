import WormLang.Fault
import WormLang.Number.Arithmetic

/-!
Angles in radians. A direction is kept within one turn, zero included and the full turn excluded. An
infinite angle has no direction.
-/
namespace WormLang.Angle

def fullTurn : Float := 6.283185307179586

/-- How two angles are added, and how one is taken from another. -/
structure Arithmetic where
  add : Float → Float → Float
  sub : Float → Float → Float

def Arithmetic.standard : Arithmetic where
  add := (· + ·)
  sub := (· - ·)

/-- The same direction within one turn. A negative remainder that is too small to count rounds up to a full
turn, which is zero. -/
def normalizeBy (arithmetic : Arithmetic) (angle : Float) : Except Fault Float :=
  match Number.remainder? angle fullTurn with
  | none => .error { cause := .mathDomain }
  | some r =>
    let r := if r < 0.0 then arithmetic.add r fullTurn else r
    .ok (if r ≥ fullTurn then 0.0 else r)

/-- The same direction within one turn, as doubles are added. -/
def normalize (angle : Float) : Except Fault Float := normalizeBy .standard angle

theorem normalize_eq (angle : Float) :
    normalize angle =
      match Number.remainder? angle fullTurn with
      | none => .error { cause := .mathDomain }
      | some r =>
        let r := if r < 0.0 then r + fullTurn else r
        .ok (if r ≥ fullTurn then 0.0 else r) :=
  rfl

/-- The smallest difference between two directions, whichever way round. -/
def differenceBy (arithmetic : Arithmetic) (a b : Float) : Except Fault Float := do
  let diff := (arithmetic.sub (← normalizeBy arithmetic a) (← normalizeBy arithmetic b)).abs
  return Number.smaller diff (arithmetic.sub fullTurn diff)

/-- The smallest difference between two directions, as doubles are subtracted. -/
def difference (a b : Float) : Except Fault Float := differenceBy .standard a b

theorem difference_eq (a b : Float) :
    difference a b = do
      let diff := ((← normalize a) - (← normalize b)).abs
      return Number.smaller diff (fullTurn - diff) :=
  rfl

/-- How far a bearing may be off a search direction. -/
def searchTolerance : Float := 1e-2

/-- Points for turning by an angle, one for every sixtieth of a turn; none are enough for an angle that is not
finite. -/
def turnCost (angle : Float) : Except Fault (Option Nat) :=
  if angle.isFinite then
    match Number.ceiling (60.0 * angle.abs / fullTurn) with
    | .ok n => .ok (some n.toNat)
    | .error _ => .error { cause := .infinityToInteger }
  else .ok none

end WormLang.Angle
