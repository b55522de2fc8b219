import WormLang.Datum.Arithmetic
import WormLang.RunState

/-!
Budgets as hosts give them. A host can give any data as a budget, and nothing looks at it before it is used: a
number is spent in units of one, whether it is whole or not, and what is no number fails when it is compared.

A number pays for as many statements as the least whole number that is not below it, so a run on a loose budget is
the run on that whole number; only what is left reads differently.
-/
namespace WormLang

namespace Datum

variable (owner : Datum → String)

/-- How many statements a budget without end pays for. -/
def endless : Int := 1000000000000000000

/-- The statements that a budget pays for. What is no number cannot be compared with zero. -/
def units (d : Datum) : Except Fault Int :=
  match d.quantity? with
  | some (.whole n) => .ok n
  | some (.double x) =>
    match Number.ceiling x with
    | .ok n => .ok n
    | .error _ => .ok (if x < 0.0 then 0 else endless)
  | none => .error { cause := .orderSorts "<=" (owner d) "int" }

def lessUnit (d : Datum) : Except Fault Datum :=
  match d.quantity? with
  | some x => do return (← x.sub (.whole 1)).toDatum
  | none => .error { cause := .operandSorts "-=" (owner d) (owner (.int 1)) }

/-- A budget after a number of units was spent. -/
def afterSpending : Nat → Datum → Datum
  | 0, d => d
  | n + 1, d =>
    match d.quantity? with
    | some (.whole k) => .int (k - (n + 1))
    | some (.double x) => afterSpending n (.float (x - 1.0))
    | none => d

/-- What is left of a budget, never below zero. -/
def leftOver (d : Datum) : Except Fault Datum := do
  return if ← holdsOrder owner ">" Quantity.gt (.int 0) d then .int 0 else d

/-- A budget, if it is no whole number; nothing stands for the usual one. -/
def looseBudget? : Datum → Option Datum
  | null | int _ => none
  | d => some d

/-- The budget of a new program: nothing stands for the usual one, and it cannot be below zero. -/
def checkBudget (usual : Int) (d : Datum) : Except Fault Datum := do
  match d with
  | null => return .int usual
  | d =>
    if ← holdsOrder owner "<" Quantity.lt d (.int 0) then throw { cause := .negativeBudget }
    return d

end Datum

namespace RunState

variable {κ : Type} (owner : Datum → String)

/-- Whether a loose budget is used up. -/
def isExhausted (s : RunState κ Datum) : Except Fault Bool :=
  s.budget.holdsOrder owner "<=" Quantity.le (.int 0)

def spend (s : RunState κ Datum) : Except Fault (RunState κ Datum) := do
  return { s with budget := ← s.budget.lessUnit owner }

end RunState

end WormLang
