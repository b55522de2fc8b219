import WormLang.Stmt

/-!
Budget and resumption bookkeeping. A run spends its budget one unit at a time. The cursor is the
conditional statement where the last run stopped; while a run has not reached it again, it is seeking,
and otherwise it is live.
-/
namespace WormLang

/-- The bookkeeping of one program whose conditional statements are known as `κ`. A budget is a whole number,
unless a host is free to give any `β`. -/
structure RunState (κ : Type) (β : Type := Int) where
  budget : β
  /-- Live mode; false while a run is seeking the cursor. -/
  finished : Bool := true
  cursor : Option κ := none
  deriving Inhabited

namespace RunState

variable {κ β : Type}

def exhausted (s : RunState κ) : Bool := s.budget ≤ 0

/-- Whether the run is still looking for the cursor. -/
def seeking (s : RunState κ β) : Bool := !s.finished

def charge (s : RunState κ) : RunState κ := { s with budget := s.budget - 1 }

/-- Prepare a new run, which seeks if a cursor was left behind. -/
def start (s : RunState κ β) (budget : β) : RunState κ β :=
  { s with budget, finished := s.cursor.isNone }

/-- The cursor was reached: go on live from here. -/
def resume (s : RunState κ β) : RunState κ β := { s with cursor := none, finished := true }

/-- Remember where a failing run stopped, unless a statement further inside was remembered already. -/
def suspendAt (s : RunState κ β) (node : κ) : RunState κ β :=
  match s.cursor with
  | none => { s with cursor := some node }
  | some _ => s

/-- The root statement ran to its end. -/
def complete (s : RunState κ β) : RunState κ β := { s with cursor := none, finished := true }

def isAt (s : RunState Stmt) (id : NodeId) : Bool :=
  match s.cursor with
  | some node => node.id? == some id
  | none => false

/-- The units left, never below zero. -/
def remaining (s : RunState κ) : Int := max s.budget 0

def cursorText (s : RunState Stmt) : String :=
  match s.cursor with
  | some node => node.describe
  | none => "None"

/-- The bookkeeping as messages show it, given the texts of the budget and of the cursor. -/
def describe (s : RunState κ β) (budget cursor : String) : String :=
  "RunState<budget=" ++ budget ++ " finished=" ++ boolName s.finished ++ " cursor=" ++ cursor ++ ">"

end RunState

end WormLang
