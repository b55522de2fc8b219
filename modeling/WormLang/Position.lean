/-!
Where something stands in program text. Lines and columns count from one, ends are exclusive. A position
may be known in part only: hosts that build programs by hand give as much as they have.
-/
namespace WormLang

/-- A stretch of program text, with the name of the file if it is known. -/
structure Position where
  line : Option Int := none
  column : Option Int := none
  endLine : Option Int := none
  endColumn : Option Int := none
  file : Option String := none
  deriving DecidableEq, Repr, Inhabited

def intText (n : Int) : String := if n < 0 then "-" ++ toString n.natAbs else toString n.natAbs

/-- A whole number that may be missing. -/
def optionalIntText : Option Int → String
  | none => "None"
  | some n => intText n

namespace Position

/-- Line and column as messages write them; nothing when the line is not known. -/
def location? (p : Position) : Option String :=
  p.line.map fun line => "line " ++ intText line ++ ", column " ++ optionalIntText p.column

/-- Line and column, after the name of the file if there is one. -/
def describe (p : Position) : String :=
  match p.location?, p.file with
  | none, _ => ""
  | some location, none => location
  | some location, some file => if file.isEmpty then location else file ++ ": " ++ location

end Position

end WormLang
