/-!
Blanks of every script: the space, the controls that move to another line or field, and the separators
outside ASCII.
-/
namespace WormLang.Text

/-- Blanks outside ASCII. -/
def isWideBlank (c : Char) : Bool :=
  let code := c.toNat
  code == 0x85 || code == 0xa0 || code == 0x1680 || (0x2000 ≤ code && code ≤ 0x200a) || code == 0x2028 ||
    code == 0x2029 || code == 0x202f || code == 0x205f || code == 0x3000

/-- Blanks of ASCII: the space and the controls from tab to carriage return. -/
def isPlainBlank (c : Char) : Bool := c == ' ' || (0x09 ≤ c.toNat && c.toNat ≤ 0x0d)

/-- Blanks of any script, the four separators among the controls included. -/
def isBlank (c : Char) : Bool :=
  isPlainBlank c || isWideBlank c || (0x1c ≤ c.toNat && c.toNat ≤ 0x1f)

/-- A text without the blanks at both ends. -/
def trimBlanks (cs : List Char) : List Char := ((cs.dropWhile isBlank).reverse.dropWhile isBlank).reverse

end WormLang.Text
