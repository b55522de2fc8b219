/-!
Tables in a box. A column is as wide as its widest cell, with a blank on both sides; the head stands in a
heavier box than the rows.
-/
namespace WormLang.CommandLine

/-- The left end, the filling, the joint and the right end of a horizontal rule. -/
structure Rule where
  left : String
  fill : Char
  joint : String
  right : String

def topRule : Rule := { left := "┏", fill := '━', joint := "┳", right := "┓" }

def headRule : Rule := { left := "┡", fill := '━', joint := "╇", right := "┩" }

def bottomRule : Rule := { left := "└", fill := '─', joint := "┴", right := "┘" }

/-- A rule across columns of given widths. -/
def Rule.draw (r : Rule) (widths : List Nat) : String :=
  r.left ++ r.joint.intercalate (widths.map fun w => String.ofList (List.replicate (w + 2) r.fill)) ++ r.right

def drawCell (width : Nat) (text : String) : String :=
  " " ++ text ++ String.ofList (List.replicate (width - text.length + 1) ' ')

def drawRow (bar : String) (widths : List Nat) (cells : List String) : String :=
  bar ++ bar.intercalate (widths.zipWith drawCell cells) ++ bar

/-- The widths of columns: of a head and rows below it. -/
def columnWidths (head : List String) (rows : List (List String)) : List Nat :=
  rows.foldl (fun widths row => widths.zipWith max (row.map String.length)) (head.map String.length)

def drawTable (head : List String) (rows : List (List String)) : List String :=
  let widths := columnWidths head rows
  [topRule.draw widths, drawRow "┃" widths head, headRule.draw widths] ++
    rows.map (drawRow "│" widths) ++ [bottomRule.draw widths]

end WormLang.CommandLine
