import Mathlib
import WormLang.Token.Lexer

/-!
Spelling: how lexemes stand in a text so that cutting the text gives them back. A word or a number must be followed
by a delimiter, a symbol by nothing that makes a longer symbol or a comment of it; any white space may stand before
a lexeme.
-/
namespace WormLang

namespace Scan

/-- A word: a letter or an underscore, then letters, digits and underscores. -/
def isWord : List Char → Bool
  | [] => false
  | c :: rest => isWordStart c && rest.all isWordPart

/-- Characters that end a word or a number. -/
def isDelimiter (c : Char) : Bool := isSpace c || c == '(' || c == ')' || c == ';' || c == ','

/-- Characters that can make a longer symbol or a comment of the symbol before them. -/
def joinsSymbol (c : Char) : Bool := c == '=' || c == '/' || c == '|' || c == '&'

/-- What can follow a word or a number without becoming part of it. -/
def Delimited (rest : List Char) : Prop := ∀ c ∈ rest.head?, isDelimiter c = true

theorem isWordPart_of_isDelimiter {c : Char} (delimits : isDelimiter c = true) : isWordPart c = false := by
  simp only [isDelimiter, isSpace, Bool.or_eq_true, beq_iff_eq] at delimits
  obtain ((((((((rfl | rfl) | rfl) | rfl) | rfl) | rfl) | rfl) | rfl) | rfl) := delimits <;> decide

theorem takeWhile_append_delimited {p : Char → Bool} (stops : ∀ c, isDelimiter c = true → p c = false)
    (cs rest : List Char) (delimited : Delimited rest) :
    (cs ++ rest).takeWhile p = cs.takeWhile p := by
  induction cs with
  | nil =>
    cases rest with
    | nil => rfl
    | cons c rest => simp [stops c (delimited c rfl)]
  | cons c cs ih =>
    cases here : p c with
    | true => simp [here, ih]
    | false => simp [here]

theorem digitsLength_append (cs : List Char) {rest : List Char} (delimited : Delimited rest) :
    digitsLength (cs ++ rest) = digitsLength cs := by
  unfold digitsLength
  rw [takeWhile_append_delimited _ cs rest delimited]
  intro c delimits
  have notPart := isWordPart_of_isDelimiter delimits
  simp only [isWordPart, Char.isAlphanum, Bool.or_eq_false_iff] at notPart
  exact notPart.1.2

theorem ne_of_isDelimiter {c d : Char} (delimits : isDelimiter c = true) (other : isDelimiter d = false) : c ≠ d := by
  intro same
  rw [same, other] at delimits
  cases delimits

theorem placesLength_append (cs : List Char) {rest : List Char} (delimited : Delimited rest) :
    placesLength (cs ++ rest) = placesLength cs := by
  cases cs with
  | cons c cs => simp [placesLength, digitsLength_append cs delimited]
  | nil =>
    cases rest with
    | nil => rfl
    | cons c rest =>
      have noPoint : c ≠ '.' := ne_of_isDelimiter (delimited c rfl) (by decide)
      simp [placesLength, noPoint]

theorem exponentLength_append (cs : List Char) {rest : List Char} (delimited : Delimited rest) :
    exponentLength (cs ++ rest) = exponentLength cs := by
  have none : digitsLength rest = 0 := by
    rw [← List.nil_append rest, digitsLength_append [] delimited]
    rfl
  cases cs with
  | nil =>
    cases rest with
    | nil => rfl
    | cons c rest =>
      have notSmall : c ≠ 'e' := ne_of_isDelimiter (delimited c rfl) (by decide)
      have notLarge : c ≠ 'E' := ne_of_isDelimiter (delimited c rfl) (by decide)
      simp [exponentLength, notSmall, notLarge]
  | cons mark cs =>
    cases cs with
    | cons sign tail =>
      have tailSame := digitsLength_append tail delimited
      have allSame := digitsLength_append (sign :: tail) delimited
      rw [List.cons_append] at allSame
      simp [exponentLength, tailSame, allSame]
    | nil =>
      cases rest with
      | nil => rfl
      | cons c rest =>
        have notPlus : c ≠ '+' := ne_of_isDelimiter (delimited c rfl) (by decide)
        have notMinus : c ≠ '-' := ne_of_isDelimiter (delimited c rfl) (by decide)
        simp [exponentLength, notPlus, notMinus, none]

theorem digitsLength_le (cs : List Char) : digitsLength cs ≤ cs.length :=
  (List.takeWhile_sublist _).length_le

theorem placesLength_le (cs : List Char) : placesLength cs ≤ cs.length := by
  cases cs with
  | nil => exact Nat.le_refl _
  | cons c cs =>
    have digits := digitsLength_le cs
    simp only [placesLength]
    split
    · split
      · omega
      · simp only [List.length_cons]
        omega
    · omega

/-- A delimiter changes nothing about the number before it. -/
theorem numberLength_append (cs : List Char) {rest : List Char} (delimited : Delimited rest) :
    numberLength (cs ++ rest) = numberLength cs := by
  have wholeBound := digitsLength_le cs
  have placesBound := placesLength_le (cs.drop (digitsLength cs))
  rw [List.length_drop] at placesBound
  unfold numberLength
  rw [digitsLength_append cs delimited]
  dsimp only
  rw [List.drop_append_of_le_length wholeBound, placesLength_append _ delimited,
    List.drop_append_of_le_length (by omega), exponentLength_append _ delimited]

/-- A number starts with a digit or a point. -/
theorem numberLength_cons_eq_zero {c : Char} (noDigit : c.isDigit = false) (noPoint : c ≠ '.') (rest : List Char) :
    numberLength (c :: rest) = 0 := by
  have noWhole : digitsLength (c :: rest) = 0 := by simp [digitsLength, noDigit]
  simp [numberLength, noWhole, placesLength, noPoint]

end Scan

namespace Lexeme

/-- A text that cutting can give for the lexeme. -/
def Valid : Lexeme → Prop
  | keyword _ | symbol _ => True
  | name text => Scan.isWord text.toList = true ∧ Keyword.ofWord? text = none
  | number text => text ≠ "" ∧ Scan.numberLength text.toList = text.toList.length

instance : (l : Lexeme) → Decidable l.Valid
  | name text => inferInstanceAs (Decidable (Scan.isWord text.toList = true ∧ Keyword.ofWord? text = none))
  | number text =>
    inferInstanceAs (Decidable (text ≠ "" ∧ Scan.numberLength text.toList = text.toList.length))
  | keyword _ | symbol _ => isTrue trivial

/-- What follows the lexeme does not become part of it. -/
def Clear (rest : List Char) : Lexeme → Prop
  | symbol _ => ∀ c ∈ rest.head?, Scan.joinsSymbol c = false
  | _ => Scan.Delimited rest

end Lexeme

theorem Keyword.isWord_word (k : Keyword) : Scan.isWord k.word.toList = true := by
  cases k with
  | type t => cases t <;> decide
  | kind k => cases k <;> decide
  | query q => cases q <;> decide
  | function f => cases f <;> decide
  | test k => cases k <;> decide
  | truth b => cases b <;> decide
  | _ => decide

theorem Keyword.ofWord?_word (k : Keyword) : Keyword.ofWord? k.word = some k := by
  cases k with
  | type t => cases t <;> decide
  | kind k => cases k <;> decide
  | query q => cases q <;> decide
  | function f => cases f <;> decide
  | test k => cases k <;> decide
  | truth b => cases b <;> decide
  | _ => decide

namespace Scan

/-- The word at the head of a text is cut up to the delimiter behind it. -/
theorem lexeme?_word {c : Char} {tail : List Char} (word : isWord (c :: tail) = true) {rest : List Char}
    (delimited : Delimited rest) :
    lexeme? c (tail ++ rest) = some (Lexeme.ofWord (String.ofList (c :: tail)), tail.length) := by
  simp only [isWord, Bool.and_eq_true, List.all_eq_true] at word
  have cut : (tail ++ rest).takeWhile isWordPart = tail := by
    rw [List.takeWhile_append_of_pos word.2, ← List.nil_append rest,
      takeWhile_append_delimited (fun _ => isWordPart_of_isDelimiter) [] rest delimited]
    exact List.append_nil tail
  unfold lexeme?
  rw [if_pos word.1, cut]

def startsNumber (c : Char) : Bool := c.isDigit || c == '.'

theorem startsNumber_of_numberLength {c : Char} {tail : List Char} (number : numberLength (c :: tail) ≠ 0) :
    startsNumber c = true := by
  cases digit : c.isDigit with
  | true => simp [startsNumber, digit]
  | false =>
    by_cases point : c = '.'
    · simp [startsNumber, point]
    · exact absurd (numberLength_cons_eq_zero digit point tail) number

theorem not_isWordStart_of_startsNumber {c : Char} (starts : startsNumber c = true) : isWordStart c = false := by
  simp only [startsNumber, Bool.or_eq_true, beq_iff_eq] at starts
  obtain digit | rfl := starts
  · simp only [Char.isDigit, Bool.and_eq_true, decide_eq_true_eq, UInt32.le_iff_toNat_le] at digit
    simp only [isWordStart, Char.isAlpha, Char.isUpper, Char.isLower, Bool.or_eq_false_iff, Bool.and_eq_false_iff,
      decide_eq_false_iff_not, UInt32.le_iff_toNat_le, beq_eq_false_iff_ne]
    have zero : '0'.val.toNat = 48 := rfl
    have nine : '9'.val.toNat = 57 := rfl
    have upper : 'A'.val.toNat = 65 := rfl
    have lower : 'a'.val.toNat = 97 := rfl
    refine ⟨⟨by omega, by omega⟩, ?_⟩
    rintro rfl
    have underscore : '_'.val.toNat = 95 := rfl
    omega
  · decide

/-- The number at the head of a text is cut up to the delimiter behind it. -/
theorem lexeme?_number {c : Char} {tail : List Char}
    (number : numberLength (c :: tail) = (c :: tail).length) {rest : List Char} (delimited : Delimited rest) :
    lexeme? c (tail ++ rest) = some (.number (String.ofList (c :: tail)), tail.length) := by
  have starts : startsNumber c = true := startsNumber_of_numberLength (by rw [number]; simp)
  have cut : numberLength (c :: (tail ++ rest)) = tail.length + 1 := by
    rw [← List.cons_append, numberLength_append _ delimited, number, List.length_cons]
  unfold lexeme?
  rw [if_neg (by simp [not_isWordStart_of_startsNumber starts]), cut]
  simp

theorem doubleSymbol?_eq_none {c d : Char} (plain : joinsSymbol d = false) : doubleSymbol? c d = none := by
  unfold doubleSymbol?
  split
  all_goals first | rfl | (exfalso; revert plain; decide)

/-- A symbol of one character is cut if nothing behind it makes it longer. -/
theorem lexeme?_single {c : Char} {s : Symbol} (single : singleSymbol? c = some s)
    (noWord : isWordStart c = false) (noNumber : startsNumber c = false) {rest : List Char}
    (clear : ∀ d ∈ rest.head?, joinsSymbol d = false) : lexeme? c rest = some (.symbol s, 0) := by
  have alone : rest.head?.bind (doubleSymbol? c) = none := by
    cases next : rest.head? with
    | none => rfl
    | some d => exact doubleSymbol?_eq_none (clear d next)
  simp only [startsNumber, Bool.or_eq_false_iff, beq_eq_false_iff_ne] at noNumber
  unfold lexeme? symbol?
  rw [if_neg (by simp [noWord]), numberLength_cons_eq_zero noNumber.1 noNumber.2, alone, single]
  rfl

/-- A symbol of two characters is cut whatever follows. -/
theorem lexeme?_double {c d : Char} {s : Symbol} (double : doubleSymbol? c d = some s)
    (noWord : isWordStart c = false) (noNumber : startsNumber c = false) (rest : List Char) :
    lexeme? c (d :: rest) = some (.symbol s, 1) := by
  simp only [startsNumber, Bool.or_eq_false_iff, beq_eq_false_iff_ne] at noNumber
  unfold lexeme? symbol?
  rw [if_neg (by simp [noWord]), numberLength_cons_eq_zero noNumber.1 noNumber.2]
  simp [double]

/-- The symbol at the head of a text is cut if nothing behind it makes it longer. -/
theorem lexeme?_symbol (s : Symbol) {rest : List Char} (clear : ∀ c ∈ rest.head?, joinsSymbol c = false) :
    ∃ c tail, s.text.toList = c :: tail ∧ lexeme? c (tail ++ rest) = some (.symbol s, tail.length) := by
  cases s with
  | arithmetic op => cases op <;> exact ⟨_, [], rfl, lexeme?_single rfl (by decide) (by decide) clear⟩
  | order op =>
    cases op with
    | lt => exact ⟨_, [], rfl, lexeme?_single rfl (by decide) (by decide) clear⟩
    | gt => exact ⟨_, [], rfl, lexeme?_single rfl (by decide) (by decide) clear⟩
    | le => exact ⟨'<', ['='], rfl, lexeme?_double rfl (by decide) (by decide) rest⟩
    | ge => exact ⟨'>', ['='], rfl, lexeme?_double rfl (by decide) (by decide) rest⟩
  | equality op => cases op <;> exact ⟨_, [_], rfl, lexeme?_double rfl (by decide) (by decide) rest⟩
  | logical op => cases op <;> exact ⟨_, [_], rfl, lexeme?_double rfl (by decide) (by decide) rest⟩
  | assign => exact ⟨':', ['='], rfl, lexeme?_double rfl (by decide) (by decide) rest⟩
  | bang | semicolon | comma | openParen | closeParen | openBrace | closeBrace =>
    exact ⟨_, [], rfl, lexeme?_single rfl (by decide) (by decide) clear⟩

/-- A character that starts a lexeme rather than white space or a comment. -/
def OpensLexeme (c : Char) (rest : List Char) : Prop :=
  isSpace c = false ∧ (c == '/' && rest.head? == some '/') = false

theorem opensLexeme_of_ne {c : Char} (noSpace : isSpace c = false) (noSlash : c ≠ '/') (rest : List Char) :
    OpensLexeme c rest :=
  ⟨noSpace, by simp [noSlash]⟩

theorem opensLexeme_of_isWordStart {c : Char} (starts : isWordStart c = true) (rest : List Char) :
    OpensLexeme c rest := by
  have other : ∀ d, isWordStart d = false → c ≠ d := by
    intro d plain same
    rw [same, plain] at starts
    cases starts
  refine opensLexeme_of_ne ?_ (other '/' (by decide)) rest
  simp [isSpace, other ' ' (by decide), other '\t' (by decide), other '\x0c' (by decide),
    other '\r' (by decide), other '\n' (by decide)]

theorem opensLexeme_of_startsNumber {c : Char} (starts : startsNumber c = true) (rest : List Char) :
    OpensLexeme c rest := by
  have other : ∀ d, startsNumber d = false → c ≠ d := by
    intro d plain same
    rw [same, plain] at starts
    cases starts
  refine opensLexeme_of_ne ?_ (other '/' (by decide)) rest
  simp [isSpace, other ' ' (by decide), other '\t' (by decide), other '\x0c' (by decide),
    other '\r' (by decide), other '\n' (by decide)]

theorem opensLexeme_symbol (s : Symbol) {c : Char} {tail rest : List Char} (text : s.text.toList = c :: tail)
    (clear : ∀ d ∈ rest.head?, joinsSymbol d = false) : OpensLexeme c (tail ++ rest) := by
  by_cases slash : c = '/'
  · subst slash
    have single : tail = [] := by
      cases s with
      | arithmetic op =>
        cases op with
        | div =>
          cases text
          rfl
        | _ => cases text
      | order op => cases op <;> cases text
      | equality op => cases op <;> cases text
      | logical op => cases op <;> cases text
      | _ => cases text
    subst single
    refine ⟨by decide, ?_⟩
    cases next : rest.head? with
    | none => simp [next]
    | some d =>
      have plain := clear d next
      have noSlash : d ≠ '/' := by
        rintro rfl
        cases plain
      simp [next, noSlash]
  · refine opensLexeme_of_ne ?_ slash _
    have heads : (s.text.toList.head?.map isSpace) = some false := by
      cases s with
      | arithmetic op => cases op <;> decide
      | order op => cases op <;> decide
      | equality op => cases op <;> decide
      | logical op => cases op <;> decide
      | _ => decide
    rw [text] at heads
    exact Option.some.inj heads

/-- A valid lexeme with nothing behind it that becomes part of it is cut as it stands. -/
theorem lexeme?_of_valid {l : Lexeme} (valid : l.Valid) {rest : List Char} (clear : l.Clear rest) :
    ∃ c tail, l.text.toList = c :: tail ∧ OpensLexeme c (tail ++ rest) ∧
      lexeme? c (tail ++ rest) = some (l, tail.length) := by
  have word : ∀ text : String, isWord text.toList = true → Delimited rest →
      ∃ c tail, text.toList = c :: tail ∧ OpensLexeme c (tail ++ rest) ∧
        lexeme? c (tail ++ rest) = some (Lexeme.ofWord text, tail.length) := by
    intro text isWord delimited
    cases chars : text.toList with
    | nil =>
      rw [chars] at isWord
      cases isWord
    | cons c tail =>
      rw [chars] at isWord
      have same : String.ofList (c :: tail) = text := by rw [← chars, String.ofList_toList]
      have cut := lexeme?_word isWord delimited
      rw [same] at cut
      simp only [Scan.isWord, Bool.and_eq_true] at isWord
      exact ⟨c, tail, rfl, opensLexeme_of_isWordStart isWord.1 _, cut⟩
  cases l with
  | keyword k =>
    obtain ⟨c, tail, chars, opens, cut⟩ := word k.word k.isWord_word clear
    refine ⟨c, tail, chars, opens, ?_⟩
    rw [cut, Lexeme.ofWord, Keyword.ofWord?_word]
  | name text =>
    obtain ⟨c, tail, chars, opens, cut⟩ := word text valid.1 clear
    refine ⟨c, tail, chars, opens, ?_⟩
    rw [cut, Lexeme.ofWord, valid.2]
  | symbol s =>
    obtain ⟨c, tail, chars, cut⟩ := lexeme?_symbol s clear
    exact ⟨c, tail, chars, opensLexeme_symbol s chars clear, cut⟩
  | number text =>
    obtain ⟨nonempty, full⟩ := valid
    cases chars : text.toList with
    | nil => exact absurd (String.toList_eq_nil_iff.mp chars) nonempty
    | cons c tail =>
      rw [chars] at full
      have same : String.ofList (c :: tail) = text := by rw [← chars, String.ofList_toList]
      have starts : startsNumber c = true := startsNumber_of_numberLength (by rw [full]; simp)
      have cut := lexeme?_number full clear
      rw [same] at cut
      exact ⟨c, tail, chars, opensLexeme_of_startsNumber starts _, cut⟩

end Scan

/-- A text spells lexemes: white space may stand anywhere between them, and none runs into the next. -/
inductive Spells : List Lexeme → List Char → Prop
  | nil : Spells [] []
  | blank {lexemes : List Lexeme} {c : Char} {rest : List Char} (space : Scan.isSpace c = true)
    (spelled : Spells lexemes rest) : Spells lexemes (c :: rest)
  | lexeme {l : Lexeme} {lexemes : List Lexeme} {rest : List Char} (valid : l.Valid) (clear : l.Clear rest)
    (spelled : Spells lexemes rest) : Spells (l :: lexemes) (l.text.toList ++ rest)

/-- Cutting a text gives the lexemes that it spells, and nothing is left over. -/
theorem Spells.run {lexemes : List Lexeme} {cs : List Char} (spelled : Spells lexemes cs) (m : Mark) :
    (Scan.run m cs).tokens.map Token.lexeme = lexemes ∧ (Scan.run m cs).stray? = none := by
  induction spelled generalizing m with
  | nil => simp [Scan.run]
  | blank space spelled ih =>
    rw [Scan.run, if_pos space]
    exact ih _
  | lexeme valid clear spelled ih =>
    obtain ⟨c, tail, chars, ⟨noSpace, noComment⟩, cut⟩ := Scan.lexeme?_of_valid valid clear
    rw [chars, List.cons_append, Scan.run, if_neg (by simp [noSpace]),
      if_neg (Bool.eq_false_iff.mp noComment), cut]
    dsimp only
    rw [List.drop_left]
    obtain ⟨rest, whole⟩ := ih { m with column := m.column + 1 + tail.length }
    exact ⟨by simp [rest], whole⟩

end WormLang
