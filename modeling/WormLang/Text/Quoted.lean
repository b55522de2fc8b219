import WormLang.Text.Printable

/-!
Quoted text, as messages show names and characters. The quote is a single quote, unless the text holds
a single quote and no double quote. Backslash, the chosen quote, line feed, carriage return and tab are
escaped by a backslash, other unprintable characters by their code point in lower-case hexadecimal.
-/
namespace WormLang.Text

/-- The last `width` hexadecimal digits of a number, lower case, padded with zeros. -/
def hexadecimal : (width code : Nat) → List Char
  | 0, _ => []
  | width + 1, code => hexadecimal width (code / 16) ++ [Nat.digitChar (code % 16)]

/-- An unprintable character by its code point: two, four or eight digits, whichever is enough. -/
def escapeCode (code : Nat) : List Char :=
  if code < 0x100 then '\\' :: 'x' :: hexadecimal 2 code
  else if code < 0x10000 then '\\' :: 'u' :: hexadecimal 4 code
  else '\\' :: 'U' :: hexadecimal 8 code

/-- One character inside quotes. -/
def escapeChar (quote c : Char) : List Char :=
  if c == quote || c == '\\' then ['\\', c]
  else if c == '\n' then ['\\', 'n']
  else if c == '\r' then ['\\', 'r']
  else if c == '\t' then ['\\', 't']
  else if isPrintable c then [c]
  else escapeCode c.toNat

/-- The quote for a text: double only if the text holds a single quote and no double quote. -/
def quoteFor (s : List Char) : Char :=
  if s.contains '\x27' && !s.contains '\x22' then '\x22' else '\x27'

def quoted (s : String) : String :=
  let quote := quoteFor s.toList
  String.ofList (quote :: s.toList.flatMap (escapeChar quote) ++ [quote])

end WormLang.Text
