import WormLang.Token

/-!
Program text cut into tokens. White space (space, tab, form feed, carriage return, line feed) and line
comments separate tokens and are dropped. At each place the longest token is taken. Cutting stops at the
first character that starts nothing.

Names and numbers are written in ASCII only; any other character outside comments starts nothing.
-/
namespace WormLang

/-- The tokens of a text up to the first character that starts nothing. -/
structure Scan where
  tokens : List Token
  /-- The character where cutting stopped, unless the whole text was cut. -/
  stray? : Option (Char × Mark)
  deriving DecidableEq, Repr

/-- The mark behind a character. -/
def Mark.after (m : Mark) (c : Char) : Mark :=
  if c == '\n' then { line := m.line + 1, column := 1 } else { m with column := m.column + 1 }

namespace Scan

def isSpace (c : Char) : Bool :=
  c == ' ' || c == '\t' || c == '\x0c' || c == '\r' || c == '\n'

def isWordStart (c : Char) : Bool := c.isAlpha || c == '_'

def isWordPart (c : Char) : Bool := c.isAlphanum || c == '_'

/-- Length of the run of digits at the head of a text. -/
def digitsLength (cs : List Char) : Nat := (cs.takeWhile Char.isDigit).length

/-- Length of an exponent at the head of a text; zero if there is none. -/
def exponentLength (cs : List Char) : Nat :=
  match cs with
  | mark :: rest =>
    if mark == 'e' || mark == 'E' then
      match rest with
      | sign :: tail =>
        if sign == '+' || sign == '-' then
          if digitsLength tail = 0 then 0 else digitsLength tail + 2
        else if digitsLength rest = 0 then 0
        else digitsLength rest + 1
      | [] => 0
    else 0
  | [] => 0

/-- Length of a point and the digits behind it; zero if there is no digit. -/
def placesLength (cs : List Char) : Nat :=
  match cs with
  | point :: rest =>
    if point == '.' then if digitsLength rest = 0 then 0 else digitsLength rest + 1 else 0
  | [] => 0

/-- Length of a number at the head of a text; zero if there is none. -/
def numberLength (cs : List Char) : Nat :=
  let whole := digitsLength cs
  let places := placesLength (cs.drop whole)
  if whole + places = 0 then 0
  else whole + places + exponentLength (cs.drop (whole + places))

def doubleSymbol? : Char → Char → Option Symbol
  | ':', '=' => some .assign
  | '|', '|' => some (.logical .or)
  | '&', '&' => some (.logical .and)
  | '<', '=' => some (.order .le)
  | '>', '=' => some (.order .ge)
  | '=', '=' => some (.equality .eq)
  | '!', '=' => some (.equality .ne)
  | _, _ => none

def singleSymbol? : Char → Option Symbol
  | ';' => some .semicolon
  | ',' => some .comma
  | '(' => some .openParen
  | ')' => some .closeParen
  | '\x7b' => some .openBrace
  | '\x7d' => some .closeBrace
  | '<' => some (.order .lt)
  | '>' => some (.order .gt)
  | '+' => some (.arithmetic .add)
  | '-' => some (.arithmetic .sub)
  | '*' => some (.arithmetic .mul)
  | '/' => some (.arithmetic .div)
  | '!' => some .bang
  | _ => none

/-- The symbol at the head of a text, and how many characters it has beyond the first. -/
def symbol? (c : Char) (rest : List Char) : Option (Symbol × Nat) :=
  match rest.head?.bind (doubleSymbol? c) with
  | some s => some (s, 1)
  | none => (singleSymbol? c).map (·, 0)

/-- The lexeme at the head of a text, and how many characters it has beyond the first. -/
def lexeme? (c : Char) (rest : List Char) : Option (Lexeme × Nat) :=
  if isWordStart c then
    let tail := rest.takeWhile isWordPart
    some (Lexeme.ofWord (String.ofList (c :: tail)), tail.length)
  else
    match numberLength (c :: rest) with
    | 0 => (symbol? c rest).map fun (s, extra) => (.symbol s, extra)
    | extra + 1 => some (.number (String.ofList (c :: rest.take extra)), extra)

/-- Cut a text from a mark on. -/
def run (m : Mark) : List Char → Scan
  | [] => { tokens := [], stray? := none }
  | c :: rest =>
    if isSpace c then run (m.after c) rest
    else if c == '/' && rest.head? == some '/' then
      let comment := rest.takeWhile (· != '\n')
      run { m with column := m.column + 1 + comment.length } (rest.drop comment.length)
    else
      match lexeme? c rest with
      | none => { tokens := [], stray? := some (c, m) }
      | some (lexeme, extra) =>
        let stop : Mark := { m with column := m.column + 1 + extra }
        let scan := run stop (rest.drop extra)
        { scan with tokens := { lexeme, extent := { start := m, stop } } :: scan.tokens }
termination_by cs => cs.length
decreasing_by all_goals simp only [List.length_cons, List.length_drop]; omega

def ofText (source : String) : Scan := run { line := 1, column := 1 } source.toList

end Scan

end WormLang
