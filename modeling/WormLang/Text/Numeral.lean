import WormLang.Text.Blank

/-!
Numerals of any script in ASCII, as hosts may give them. A blank outside ASCII counts as a space, and a
decimal digit outside ASCII as the ASCII digit of its value; everything else stands for itself. Spaces and
the blank controls of ASCII are dropped at both ends.
-/
namespace WormLang.Text

def zeros : List Nat :=
  [0x660, 0x6f0, 0x7c0, 0x966, 0x9e6, 0xa66, 0xae6, 0xb66, 0xbe6, 0xc66, 0xce6, 0xd66, 0xde6, 0xe50, 0xed0,
    0xf20, 0x1040, 0x1090, 0x17e0, 0x1810, 0x1946, 0x19d0, 0x1a80, 0x1a90, 0x1b50, 0x1bb0, 0x1c40, 0x1c50,
    0xa620, 0xa8d0, 0xa900, 0xa9d0, 0xa9f0, 0xaa50, 0xabf0, 0xff10, 0x104a0, 0x10d30, 0x11066, 0x110f0,
    0x11136, 0x111d0, 0x112f0, 0x11450, 0x114d0, 0x11650, 0x116c0, 0x11730, 0x118e0, 0x11950, 0x11c50,
    0x11d50, 0x11da0, 0x16a60, 0x16ac0, 0x16b50, 0x1d7ce, 0x1d7d8, 0x1d7e2, 0x1d7ec, 0x1d7f6, 0x1e140,
    0x1e2f0, 0x1e950, 0x1fbf0]

/-- The value of a decimal digit outside ASCII. -/
def digitValue? (c : Char) : Option Nat :=
  (zeros.find? fun base => base ≤ c.toNat && c.toNat < base + 10).map (c.toNat - ·)

/-- A character of a numeral in ASCII, if it has a counterpart there. -/
def plainNumeralChar (c : Char) : Char :=
  if isWideBlank c then ' '
  else
    match digitValue? c with
    | some value => Nat.digitChar value
    | none => c

/-- A numeral in ASCII, without the blanks at both ends. -/
def plainNumeral (s : List Char) : List Char :=
  let s := s.map plainNumeralChar
  ((s.dropWhile isPlainBlank).reverse.dropWhile isPlainBlank).reverse

end WormLang.Text
