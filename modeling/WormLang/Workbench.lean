import WormLang.Workbench.Operation

/-!
A workbench for programs that a host assembles by hand: loose nodes whose slots can change at any time, values
and variables by reference, programs over them, and the sandbox to try them in.
-/
namespace WormLang

namespace Workbench

/-- What a computation on a workbench gives, and the workbench after it. -/
def perform {α : Type} (w : Workbench) (act : Act α) : Except Failure α × Workbench :=
  match act w with
  | .ok a w => (.ok a, w)
  | .error failure w => (.error failure, w)

/-- The program that was made last. -/
def current? (w : Workbench) : Option Nat :=
  if w.scripts.isEmpty then none else some (w.scripts.size - 1)

end Workbench

end WormLang
