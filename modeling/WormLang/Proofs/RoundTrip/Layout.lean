import WormLang.Proofs.Grammar.Terminals

/-!
Layout of program text. Tokens may stand anywhere, with white space and comments between them, as long as what stands
behind a token starts with white space. Whatever the tokens and whatever stands between them, cutting the text gives the
tokens back.
-/
namespace WormLang

namespace Scan

/-- White space, and comments with the ends of their lines. -/
inductive Gap : List Char → Prop
  | nil : Gap []
  | space {c : Char} {rest : List Char} (space : isSpace c = true) (gap : Gap rest) : Gap (c :: rest)
  | comment {line rest : List Char} (oneLine : '\n' ∉ line) (gap : Gap rest) :
    Gap ('/' :: '/' :: (line ++ '\n' :: rest))

/-- What separates a token from what is behind it: a gap that starts with white space. -/
inductive Separator : List Char → Prop
  | space {c : Char} {rest : List Char} (space : isSpace c = true) (gap : Gap rest) : Separator (c :: rest)

/-- Gaps are dropped. -/
theorem Gap.exists_run {gap : List Char} (isGap : Gap gap) (m : Mark) (rest : List Char) :
    ∃ n, run m (gap ++ rest) = run n rest := by
  induction isGap generalizing m with
  | nil => exact ⟨m, rfl⟩
  | space space _ ih =>
    rw [List.cons_append, run, if_pos space]
    exact ih _
  | @comment line more oneLine _ ih =>
    have comment : ('/' :: (line ++ '\n' :: (more ++ rest))).takeWhile (· != '\n') = '/' :: line := by
      rw [← List.cons_append, List.takeWhile_append_of_pos]
      · simp
      · intro c member
        have other : c ≠ '\n' := by
          rintro rfl
          simp [oneLine] at member
        simpa using other
    have whole : '/' :: '/' :: (line ++ '\n' :: more) ++ rest = '/' :: '/' :: (line ++ '\n' :: (more ++ rest)) := by
      simp
    have behind : ('/' :: (line ++ '\n' :: (more ++ rest))).drop ('/' :: line).length = '\n' :: (more ++ rest) := by
      rw [← List.cons_append, List.drop_left]
    rw [whole, run, if_neg (by decide), if_pos (by simp)]
    dsimp only
    rw [comment, behind, run, if_pos (by decide)]
    exact ih _

theorem Separator.gap {gap : List Char} (separates : Separator gap) : Gap gap := by
  cases separates with
  | space space isGap => exact .space space isGap

/-- Nothing behind a separator becomes part of the token before it. -/
theorem Separator.clear {gap : List Char} (separates : Separator gap) (rest : List Char) (l : Lexeme) :
    l.Clear (gap ++ rest) := by
  cases separates with
  | @space c more space isGap =>
    have delimits : Delimited (c :: more ++ rest) := by
      intro d head
      cases head
      simp [isDelimiter, space]
    have joinless : ∀ d ∈ (c :: more ++ rest).head?, joinsSymbol d = false := by
      intro d head
      cases head
      simp only [isSpace, Bool.or_eq_true, beq_iff_eq] at space
      obtain (((rfl | rfl) | rfl) | rfl) | rfl := space <;> decide
    cases l with
    | symbol => exact joinless
    | keyword | name | number => exact delimits

end Scan

namespace Grammar

open Scan

theorem digitsLength_of_digits {w rest : List Char} (digits : Digits w) (stops : ∀ c ∈ rest.head?, c.isDigit = false) :
    digitsLength (w ++ rest) = w.length := by
  have none : rest.takeWhile Char.isDigit = [] := by
    cases rest with
    | nil => rfl
    | cons c more => simp [stops c rfl]
  rw [digitsLength, List.takeWhile_append_of_pos digits.2, none, List.append_nil]

/-- An exponent starts with a letter. -/
theorem Exponent.head {v : List Char} (exponent : Exponent v) : ∀ c ∈ v.head?, c = 'e' ∨ c = 'E' := by
  intro c head
  cases exponent with
  | none => cases head
  | plain letter => cases head; exact letter
  | signed letter => cases head; exact letter

theorem Digits.head {w : List Char} (digits : Digits w) : ∃ c rest, w = c :: rest ∧ c.isDigit = true := by
  obtain ⟨c, rest, rfl⟩ := List.exists_cons_of_ne_nil digits.1
  exact ⟨c, rest, rfl, digits.2 c List.mem_cons_self⟩

theorem exponentLength_of_exponent {v : List Char} (exponent : Exponent v) : exponentLength v = v.length := by
  have whole : ∀ {w : List Char}, Digits w → digitsLength w = w.length := fun {w} digits => by
    simpa using @digitsLength_of_digits w [] digits nofun
  cases exponent with
  | none => rfl
  | plain letter digits =>
    obtain ⟨d, rest, rfl, digit⟩ := digits.head
    have notSign : ¬ (d == '+' || d == '-') = true := by
      rintro sign
      simp only [Bool.or_eq_true, beq_iff_eq] at sign
      obtain rfl | rfl := sign <;> exact absurd digit (by decide)
    simp [exponentLength, letter, notSign, whole digits]
  | signed letter signs digits => simp [exponentLength, letter, signs, whole digits, digits.1]

/-- A point and digits are cut where no digit follows. -/
theorem placesLength_of_digits {u rest : List Char} (digits : Digits u) (stops : ∀ c ∈ rest.head?, c.isDigit = false) :
    placesLength ('.' :: (u ++ rest)) = u.length + 1 := by
  have present : u.length ≠ 0 := fun empty => digits.1 (List.length_eq_zero_iff.mp empty)
  simp [placesLength, digitsLength_of_digits digits stops, present]

/-- The text of a number is cut as a whole. -/
theorem Terminal.Text.numberLength_eq {w : List Char} (text : Text .number w) :
    w ≠ [] ∧ numberLength w = w.length := by
  cases text with
  | @number w v mantissa exponent =>
    have stops : ∀ c ∈ v.head?, c.isDigit = false := by
      intro c head
      obtain rfl | rfl := exponent.head c head <;> decide
    have noPlaces : placesLength v = 0 := by
      cases v with
      | nil => rfl
      | cons c rest =>
        have noPoint : c ≠ '.' := by
          rintro rfl
          obtain same | same := exponent.head _ rfl <;> cases same
        simp [placesLength, noPoint]
    have front : digitsLength (w ++ v) + placesLength ((w ++ v).drop (digitsLength (w ++ v))) = w.length := by
      cases mantissa with
      | whole digits => rw [digitsLength_of_digits digits stops, List.drop_left, noPlaces, Nat.add_zero]
      | @both w u digits places =>
        have point : ∀ c ∈ ('.' :: (u ++ v)).head?, c.isDigit = false := by
          rintro c head
          cases head
          decide
        rw [List.append_assoc, List.cons_append, digitsLength_of_digits digits point, List.drop_left,
          placesLength_of_digits places stops, List.length_append, List.length_cons]
      | @places u digits =>
        have none : digitsLength ('.' :: (u ++ v)) = 0 := rfl
        rw [List.cons_append, none, List.drop_zero, placesLength_of_digits digits stops, List.length_cons, Nat.zero_add]
    have present : w ≠ [] := by
      cases mantissa with
      | whole digits => exact digits.1
      | both => simp
      | places => simp
    refine ⟨by simp [present], ?_⟩
    unfold numberLength
    dsimp only
    rw [front, if_neg (by simpa using present), List.drop_left, exponentLength_of_exponent exponent, List.length_append]

theorem Terminal.Text.isWord {w : List Char} (text : Text .name w) : isWord w = true := by
  cases text with
  | name word => exact word

end Grammar

/-- A lexeme has a text of its terminal, and a name is none of the keywords. -/
structure Lexeme.Genuine (l : Lexeme) : Prop where
  text : l.terminal.Text l.text.toList
  noKeyword : ∀ text, l = .name text → ∀ k : Keyword, k.word ≠ text

/-- Lexemes with texts of their terminals can be cut. -/
theorem Lexeme.Genuine.valid {l : Lexeme} (genuine : l.Genuine) : l.Valid := by
  have isText := genuine.text
  cases l with
  | keyword | symbol => trivial
  | name text =>
    refine ⟨isText.isWord, Option.eq_none_iff_forall_ne_some.mpr fun k known => ?_⟩
    exact genuine.noKeyword text rfl k (Keyword.word_of_ofWord? known)
  | number text =>
    obtain ⟨present, whole⟩ := isText.numberLength_eq
    exact ⟨fun empty => present (String.toList_eq_nil_iff.mpr empty), whole⟩

/-- What stands behind a token: separators, and tokens between them. -/
inductive Trail : List Lexeme → List Char → Prop
  | nil : Trail [] []
  | separator {gap : List Char} (separates : Scan.Separator gap) : Trail [] gap
  | lexeme {l : Lexeme} {lexemes : List Lexeme} {gap rest : List Char} (separates : Scan.Separator gap)
    (trail : Trail lexemes rest) : Trail (l :: lexemes) (gap ++ (l.text.toList ++ rest))

/-- A text consists of lexemes with separators between them. What stands in front of the first one need not start with
white space. -/
inductive LaidOut : List Lexeme → List Char → Prop
  | blank {gap : List Char} (isGap : Scan.Gap gap) : LaidOut [] gap
  | lexeme {l : Lexeme} {lexemes : List Lexeme} {gap rest : List Char} (isGap : Scan.Gap gap)
    (trail : Trail lexemes rest) : LaidOut (l :: lexemes) (gap ++ (l.text.toList ++ rest))

namespace Scan

/-- A text is cut into some lexemes and nothing is left over. -/
def Gives (lexemes : List Lexeme) (scan : Scan) : Prop := scan.tokens.map Token.lexeme = lexemes ∧ scan.stray? = none

theorem Gap.gives {gap : List Char} (isGap : Gap gap) (m : Mark) : (run m gap).Gives [] := by
  obtain ⟨n, dropped⟩ := isGap.exists_run m []
  rw [List.append_nil] at dropped
  rw [dropped, run]
  exact ⟨rfl, rfl⟩

/-- Behind a gap a valid lexeme is cut, and then what stands behind it. -/
theorem Gap.gives_cons {gap rest : List Char} {l : Lexeme} {lexemes : List Lexeme} (isGap : Gap gap) (valid : l.Valid)
    (clear : l.Clear rest) (others : ∀ m, (run m rest).Gives lexemes) (m : Mark) :
    (run m (gap ++ (l.text.toList ++ rest))).Gives (l :: lexemes) := by
  obtain ⟨n, dropped⟩ := isGap.exists_run m (l.text.toList ++ rest)
  obtain ⟨c, tail, chars, ⟨noSpace, noComment⟩, cut⟩ := lexeme?_of_valid valid clear
  rw [dropped, chars, List.cons_append, run, if_neg (by simp [noSpace]), if_neg (Bool.eq_false_iff.mp noComment), cut]
  dsimp only
  rw [List.drop_left]
  obtain ⟨tokens, whole⟩ := others { n with column := n.column + 1 + tail.length }
  exact ⟨by rw [List.map_cons, tokens], whole⟩

end Scan

theorem Trail.clear {lexemes : List Lexeme} {cs : List Char} (trail : Trail lexemes cs) (l : Lexeme) : l.Clear cs := by
  cases trail with
  | nil => cases l <;> exact nofun
  | separator separates => simpa using separates.clear [] l
  | lexeme separates => exact separates.clear _ l

theorem Trail.gives {lexemes : List Lexeme} {cs : List Char} (trail : Trail lexemes cs)
    (valid : ∀ l ∈ lexemes, l.Valid) (m : Mark) : (Scan.run m cs).Gives lexemes := by
  induction trail generalizing m with
  | nil => exact Scan.Gap.nil.gives m
  | separator separates => exact separates.gap.gives m
  | lexeme separates trail ih =>
    obtain ⟨first, others⟩ := List.forall_mem_cons.mp valid
    exact separates.gap.gives_cons first (trail.clear _) (ih others) m

/-- Cutting a text gives the lexemes that it consists of, whatever stands between them. -/
theorem LaidOut.gives {lexemes : List Lexeme} {source : String} (laidOut : LaidOut lexemes source.toList)
    (genuine : ∀ l ∈ lexemes, l.Genuine) : (Scan.ofText source).Gives lexemes := by
  unfold Scan.ofText
  generalize source.toList = cs at laidOut
  cases laidOut with
  | blank isGap => exact isGap.gives _
  | lexeme isGap trail =>
    obtain ⟨first, others⟩ := List.forall_mem_cons.mp genuine
    exact isGap.gives_cons first.valid (trail.clear _) (trail.gives fun l member => (others l member).valid) _

end WormLang
