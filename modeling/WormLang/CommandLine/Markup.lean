import WormLang.Fault
import WormLang.Text.Emoji
import WormLang.Text.Width

/-!
Marked-up lines of the console. A tag in square brackets opens or closes a style and is not shown; a
backslash in front of a tag shows it. The console has no styles here, so that only the plain text counts, but
a closing tag must still have an open one to close. Pictures are drawn for their names, controls that the
console would act on are dropped, and tabs become blanks.
-/
namespace WormLang.CommandLine

/-- A stretch of a marked-up line. -/
inductive Piece where
  | plain (text : List Char)
  /-- A tag by its content, and where in the line it stands. -/
  | tag (position : Nat) (content : List Char)
  deriving DecidableEq, Repr

/-- Whether a character can start the content of a tag. -/
def startsTag (c : Char) : Bool := ('a' ≤ c && c ≤ 'z') || c == '#' || c == '/' || c == '@'

/-- The content of the tag at the head of a text. -/
def tagContent? : List Char → Option (List Char)
  | '[' :: c :: rest =>
    let name := rest.takeWhile fun c => c != '[' && c != ']'
    if startsTag c && (rest.drop name.length).head? == some ']' then some (c :: name) else none
  | _ => none

/-- The number of backslashes at the head of a text and the content of the tag behind them. -/
def markedTag? (cs : List Char) : Option (Nat × List Char) :=
  let slashes := (cs.takeWhile (· == '\\')).length
  (tagContent? (cs.drop slashes)).map (slashes, ·)

/-- The pieces of a tag behind backslashes: two of them show one, and a single one left shows the tag. -/
def tagPieces (position slashes : Nat) (content : List Char) : List Piece :=
  let shown := if slashes < 2 then [] else [Piece.plain (List.replicate (slashes / 2) '\\')]
  shown ++ [if slashes % 2 = 1 then .plain ('[' :: content ++ [']'])
    else .tag (position + slashes / 2 * 2) content]

/-- Characters in reverse order as a piece, if there are any. -/
def plainPiece (pending : List Char) : List Piece := if pending.isEmpty then [] else [.plain pending.reverse]

/-- The pieces of a line without its first `skip` characters. -/
def pieces : (skip position : Nat) → (pending : List Char) → List Char → List Piece
  | _, _, pending, [] => plainPiece pending
  | skip + 1, position, pending, _ :: rest => pieces skip (position + 1) pending rest
  | 0, position, pending, c :: rest =>
    match markedTag? (c :: rest) with
    | some (slashes, content) =>
      plainPiece pending ++ tagPieces position slashes content ++
        pieces (slashes + content.length + 1) (position + 1) [] rest
    | none => pieces 0 (position + 1) (c :: pending) rest

/-- A text in which a bracket behind a backslash stands for itself. -/
def openBrackets : List Char → List Char
  | '\\' :: '[' :: rest => '[' :: openBrackets rest
  | c :: rest => c :: openBrackets rest
  | [] => []

/-- Controls that a console acts on: bell, backspace, vertical tab, form feed and carriage return. -/
def isConsoleControl (c : Char) : Bool := [7, 8, 11, 12, 13].contains c.toNat

/-- What the console shows of a plain piece. -/
def plainText (cs : List Char) : List Char :=
  (Text.drawPictures 0 (openBrackets cs)).filter fun c => !isConsoleControl c

/-- The name of a style, without the short forms of attributes. -/
def styleName (name : List Char) : String :=
  match String.ofList (Text.trimBlanks (name.map Text.smallLetter)) with
  | "" => "none"
  | "b" => "bold"
  | "d" => "dim"
  | "i" => "italic"
  | "u" => "underline"
  | "uu" => "underline2"
  | "r" => "reverse"
  | "c" => "conceal"
  | "s" => "strike"
  | "o" => "overline"
  | name => name

/-- The styles that are open behind a tag, the latest first. A closing tag closes the latest style of its name,
or the latest one of all if it has no name. -/
def followTag (open_ : List String) (position : Nat) (content : List Char) : Except Fault (List String) :=
  match content.takeWhile (· != '=') with
  | '/' :: name =>
    if (Text.trimBlanks name).isEmpty then
      match open_ with
      | _ :: others => .ok others
      | [] => .error { cause := .nothingToClose position }
    else if open_.contains (styleName name) then .ok (open_.erase (styleName name))
    else .error { cause := .unmatchedTag (String.ofList content) position }
  | name => .ok (styleName name :: open_)

/-- What the console shows of pieces, given the open styles. -/
def showPieces (open_ : List String) : List Piece → Except Fault (List Char)
  | [] => .ok []
  | .plain text :: rest => do return plainText text ++ (← showPieces open_ rest)
  | .tag position content :: rest => do showPieces (← followTag open_ position content) rest

/-- The text that the console shows for a marked-up line. -/
def render (line : String) : Except Fault String := do
  return String.ofList (Text.expandTabs [] (← showPieces [] (pieces 0 0 [] line.toList)))

/-- A text with a backslash in front of every tag, and two for each that stood there before. -/
def escapeTags : (skip : Nat) → List Char → List Char
  | _, [] => []
  | skip + 1, _ :: rest => escapeTags skip rest
  | 0, c :: rest =>
    match markedTag? (c :: rest) with
    | some (slashes, content) =>
      List.replicate (2 * slashes + 1) '\\' ++ '[' :: content ++ ']' ::
        escapeTags (slashes + content.length + 1) rest
    | none => c :: escapeTags 0 rest

/-- A text as markup that shows the text itself. -/
def escape (text : String) : String := String.ofList (escapeTags 0 text.toList)

end WormLang.CommandLine
