/-!
The closed set of static types. Every expression and every variable has one of them.
-/
namespace WormLang

inductive Ty where
  | number
  | boolean
  | entity
  deriving DecidableEq, Repr, Inhabited

namespace Ty

def keyword : Ty → String
  | number => "double"
  | boolean => "bool"
  | entity => "entity"

def name : Ty → String
  | number => "NUMBER"
  | boolean => "BOOLEAN"
  | entity => "ENTITY"

def ofKeyword? : String → Option Ty
  | "double" => some number
  | "bool" => some boolean
  | "entity" => some entity
  | _ => none

@[simp] theorem ofKeyword?_keyword (t : Ty) : ofKeyword? t.keyword = some t := by cases t <;> rfl

end Ty

end WormLang
