import WormLang.Program
import WormLang.Proofs.RoundTrip.Spelling
import WormLang.Proofs.Build.Outcome

/-!
The lexemes of the program text of expressions, statements and programs, and that the text spells them. Pieces of
text are put together with blanks between them, or directly where the second piece starts with a delimiter or the
first is a symbol that the second does not extend.
-/
namespace WormLang

open Scan

/-- A piece of text spells lexemes wherever a delimiter follows it. -/
def Spelled (lexemes : List Lexeme) (text : String) : Prop :=
  ∀ more rest, Spells more rest → Delimited rest → Spells (lexemes ++ more) (text.toList ++ rest)

/-- A piece of text does not extend a symbol before it. -/
def Opens (text : String) : Prop := ∃ c tail, text.toList = c :: tail ∧ joinsSymbol c = false

theorem joinsSymbol_of_isDelimiter {c : Char} (delimits : isDelimiter c = true) : joinsSymbol c = false := by
  simp only [isDelimiter, isSpace, Bool.or_eq_true, beq_iff_eq] at delimits
  obtain ((((((((rfl | rfl) | rfl) | rfl) | rfl) | rfl) | rfl) | rfl) | rfl) := delimits <;> decide

theorem Lexeme.clear_of_delimited (l : Lexeme) {rest : List Char} (delimited : Delimited rest) : l.Clear rest := by
  cases l with
  | symbol s => exact fun c next => joinsSymbol_of_isDelimiter (delimited c next)
  | _ => exact delimited

namespace Spelled

variable {lexemes more : List Lexeme} {s t : String}

theorem lexeme {l : Lexeme} (valid : l.Valid) : Spelled [l] l.text :=
  fun _ _ spelled delimited => .lexeme valid (l.clear_of_delimited delimited) spelled

theorem keyword (k : Keyword) : Spelled [.keyword k] k.word := @lexeme (.keyword k) trivial

theorem symbol (y : Symbol) : Spelled [.symbol y] y.text := @lexeme (.symbol y) trivial

/-- Two pieces with a delimiter between them, the first character of the second. -/
theorem tight (first : Spelled lexemes s) (second : Spelled more t) {c : Char} {tail : List Char}
    (starts : t.toList = c :: tail) (delimits : isDelimiter c = true) : Spelled (lexemes ++ more) (s ++ t) := by
  intro others rest spelled delimited
  rw [List.append_assoc, String.toList_append, List.append_assoc]
  refine first _ _ (second _ _ spelled delimited) ?_
  rw [starts]
  intro d next
  cases next
  exact delimits

/-- Two pieces with white space between them. -/
theorem spaced (first : Spelled lexemes s) (second : Spelled more t) (gap : String) {c : Char}
    (white : gap.toList = [c]) (space : isSpace c = true) : Spelled (lexemes ++ more) (s ++ gap ++ t) := by
  intro others rest spelled delimited
  rw [List.append_assoc, String.toList_append, String.toList_append, List.append_assoc, List.append_assoc, white]
  refine first _ _ (.blank space (second _ _ spelled delimited)) ?_
  intro d next
  cases next
  simp [isDelimiter, space]

/-- A symbol directly before a piece that does not extend it. -/
theorem after (y : Symbol) (piece : Spelled lexemes s) (opens : Opens s) :
    Spelled (.symbol y :: lexemes) (y.text ++ s) := by
  intro others rest spelled delimited
  obtain ⟨c, tail, starts, plain⟩ := opens
  rw [List.cons_append, String.toList_append, List.append_assoc]
  refine .lexeme (l := .symbol y) trivial ?_ (piece _ _ spelled delimited)
  rw [starts]
  intro d next
  cases next
  exact plain

end Spelled

def binaryLexemes (left : List Lexeme) (y : Symbol) (right : List Lexeme) : List Lexeme :=
  .symbol .openParen :: (left ++ .symbol y :: (right ++ [.symbol .closeParen]))

def Expr.lexemes : Expr → List Lexeme
  | number _ x => [.number (Number.displayText x)]
  | boolean _ b => [.keyword (.truth b)]
  | null _ => [.keyword .null]
  | self _ => [.keyword .self]
  | access _ name _ => [.name name]
  | arithmetic _ op l r => binaryLexemes l.lexemes (.arithmetic op) r.lexemes
  | order _ op l r => binaryLexemes l.lexemes (.order op) r.lexemes
  | equality _ op l r => binaryLexemes l.lexemes (.equality op) r.lexemes
  | logical _ op l r => binaryLexemes l.lexemes (.logical op) r.lexemes
  | math _ f e => .keyword (.function f) :: .symbol .openParen :: (e.lexemes ++ [.symbol .closeParen])
  | negation _ e => .symbol .bang :: e.lexemes
  | query _ q e => .keyword (.query q) :: e.lexemes
  | sameTeam _ e => .keyword .sameteam :: e.lexemes
  | isKind _ k e => .keyword (.test k) :: e.lexemes
  | search _ e => .keyword .searchobj :: e.lexemes
  | placeholder _ => []

/-- The text of an expression spells its lexemes. -/
structure Expr.Printed (e : Expr) (text : String) : Prop where
  unparse : e.unparse = .ok text
  spelled : Spelled e.lexemes text
  opens : Opens text

theorem Opens.append {s : String} (opens : Opens s) (t : String) : Opens (s ++ t) := by
  obtain ⟨c, tail, starts, plain⟩ := opens
  exact ⟨c, tail ++ t.toList, by rw [String.toList_append, starts]; rfl, plain⟩

theorem opens_of_isWord {s : String} (word : isWord s.toList = true) : Opens s := by
  cases chars : s.toList with
  | nil =>
    rw [chars] at word
    cases word
  | cons c tail =>
    refine ⟨c, tail, chars, ?_⟩
    rw [chars] at word
    simp only [isWord, Bool.and_eq_true] at word
    have other : ∀ d, isWordStart d = false → c ≠ d := by
      rintro d plain rfl
      rw [plain] at word
      cases word.1
    simp [joinsSymbol, other '=' (by decide), other '/' (by decide), other '|' (by decide), other '&' (by decide)]

theorem opens_of_number {text : String} (valid : (Lexeme.number text).Valid) : Opens text := by
  obtain ⟨nonempty, full⟩ := valid
  cases chars : text.toList with
  | nil => exact absurd (String.toList_eq_nil_iff.mp chars) nonempty
  | cons c tail =>
    refine ⟨c, tail, chars, ?_⟩
    rw [chars] at full
    have starts : startsNumber c = true := startsNumber_of_numberLength (by rw [full]; simp)
    have other : ∀ d, startsNumber d = false → c ≠ d := by
      rintro d plain rfl
      rw [plain] at starts
      cases starts
    simp [joinsSymbol, other '=' (by decide), other '/' (by decide), other '|' (by decide), other '&' (by decide)]

theorem Spelled.binary {left right : List Lexeme} {l r : String} (spelledLeft : Spelled left l) (opensLeft : Opens l)
    (spelledRight : Spelled right r) (y : Symbol) :
    Spelled (binaryLexemes left y right) (Expr.binaryText l y.text r) := by
  have operator := spelledLeft.spaced (symbol y) " " rfl (by decide)
  have operands := operator.spaced spelledRight " " rfl (by decide)
  have closed := operands.tight (symbol .closeParen) rfl (by decide)
  have opens : Opens (l ++ " " ++ y.text ++ " " ++ r ++ Symbol.closeParen.text) :=
    ((((opensLeft.append _).append _).append _).append _).append _
  have spelled := closed.after .openParen opens
  have text : Symbol.openParen.text ++ (l ++ " " ++ y.text ++ " " ++ r ++ Symbol.closeParen.text) =
      Expr.binaryText l y.text r := by
    simp only [Expr.binaryText, Symbol.text, String.append_assoc]
  rw [text] at spelled
  simpa [binaryLexemes] using spelled

namespace Expr.Printed

variable {e operand l r : Expr}

/-- An operation on two operands is printed in parentheses. -/
theorem binary (y : Symbol) (lexemes : e.lexemes = binaryLexemes l.lexemes y r.lexemes)
    (unparse : e.unparse = do return binaryText (← l.unparse) y.text (← r.unparse))
    (left : ∃ text, l.Printed text) (right : ∃ text, r.Printed text) : ∃ text, e.Printed text := by
  obtain ⟨textLeft, left⟩ := left
  obtain ⟨textRight, right⟩ := right
  refine ⟨binaryText textLeft y.text textRight, ?_, ?_, ?_⟩
  · rw [unparse, left.unparse, right.unparse]
    rfl
  · rw [lexemes]
    exact left.spelled.binary left.opens right.spelled y
  · have parenthesis : Opens "(" := ⟨'(', [], rfl, by decide⟩
    exact (((((parenthesis.append _).append _).append _).append _).append _).append _

/-- An operator that is a word stands in front of its operand. -/
theorem word (k : Keyword) (lexemes : e.lexemes = .keyword k :: operand.lexemes)
    (unparse : e.unparse = do return k.word ++ " " ++ (← operand.unparse)) (inner : ∃ text, operand.Printed text) :
    ∃ text, e.Printed text := by
  obtain ⟨text, printed⟩ := inner
  refine ⟨k.word ++ " " ++ text, ?_, ?_, ((opens_of_isWord k.isWord_word).append _).append _⟩
  · rw [unparse, printed.unparse]
    rfl
  · rw [lexemes]
    exact (Spelled.keyword k).spaced printed.spelled " " rfl (by decide)

/-- A function is printed with its argument in parentheses. -/
theorem call (at? : Option Position) (f : MathFunction) (inner : ∃ text, operand.Printed text) :
    ∃ text, (Expr.math at? f operand).Printed text := by
  obtain ⟨text, printed⟩ := inner
  have closed := printed.spelled.tight (.symbol .closeParen) rfl (by decide)
  have argument := closed.after .openParen (printed.opens.append _)
  have starts : (Symbol.openParen.text ++ (text ++ Symbol.closeParen.text)).toList = '(' :: (text.toList ++ [')']) := by
    simp [Symbol.text]
  have spelled := (Spelled.keyword (.function f)).tight argument starts (by decide)
  have whole : (Keyword.function f).word ++ (Symbol.openParen.text ++ (text ++ Symbol.closeParen.text)) =
      f.word ++ "(" ++ text ++ ")" := by
    simp only [Keyword.word, Symbol.text, String.append_assoc]
  rw [whole] at spelled
  refine ⟨f.word ++ "(" ++ text ++ ")", ?_, spelled, ?_⟩
  · rw [Expr.unparse, printed.unparse]
    rfl
  · exact (((opens_of_isWord (Keyword.isWord_word (.function f))).append _).append _).append _

/-- A negation is printed directly before its operand. -/
theorem bang (at? : Option Position) (inner : ∃ text, operand.Printed text) :
    ∃ text, (Expr.negation at? operand).Printed text := by
  obtain ⟨text, printed⟩ := inner
  refine ⟨"!" ++ text, ?_, printed.spelled.after .bang printed.opens, '!', text.toList, by simp, by decide⟩
  rw [Expr.unparse, printed.unparse]
  rfl

end Expr.Printed

/-- Every expression without placeholders whose names and numbers are valid lexemes has a text that spells its
lexemes. -/
theorem Expr.exists_printed {globals : Table Variable} {e : Expr} (typed : e.WellTyped globals)
    (valid : ∀ l ∈ e.lexemes, l.Valid) : ∃ text, e.Printed text := by
  induction e with
  | number at? x =>
    have number : (Lexeme.number (Number.displayText x)).Valid := valid _ List.mem_cons_self
    exact ⟨_, rfl, .lexeme number, opens_of_number number⟩
  | boolean at? b =>
    have word : boolWord b = (Keyword.truth b).word := rfl
    exact ⟨_, rfl, word ▸ .keyword (.truth b), opens_of_isWord (word ▸ (Keyword.truth b).isWord_word)⟩
  | null at? => exact ⟨_, rfl, .keyword .null, opens_of_isWord (Keyword.isWord_word .null)⟩
  | self at? => exact ⟨_, rfl, .keyword .self, opens_of_isWord (Keyword.isWord_word .self)⟩
  | access at? name ty =>
    have named : (Lexeme.name name).Valid := valid _ List.mem_cons_self
    exact ⟨_, rfl, .lexeme named, opens_of_isWord named.1⟩
  | arithmetic at? op l r ihLeft ihRight =>
    exact Printed.binary (.arithmetic op) rfl rfl
      (ihLeft typed.1.1 fun l member => valid l (by simp [lexemes, binaryLexemes, member]))
      (ihRight typed.2.1 fun l member => valid l (by simp [lexemes, binaryLexemes, member]))
  | order at? op l r ihLeft ihRight =>
    exact Printed.binary (.order op) rfl rfl
      (ihLeft typed.1.1 fun l member => valid l (by simp [lexemes, binaryLexemes, member]))
      (ihRight typed.2.1 fun l member => valid l (by simp [lexemes, binaryLexemes, member]))
  | equality at? op l r ihLeft ihRight =>
    exact Printed.binary (.equality op) rfl rfl
      (ihLeft typed.1 fun l member => valid l (by simp [lexemes, binaryLexemes, member]))
      (ihRight typed.2.1 fun l member => valid l (by simp [lexemes, binaryLexemes, member]))
  | logical at? op l r ihLeft ihRight =>
    exact Printed.binary (.logical op) rfl rfl
      (ihLeft typed.1.1 fun l member => valid l (by simp [lexemes, binaryLexemes, member]))
      (ihRight typed.2.1 fun l member => valid l (by simp [lexemes, binaryLexemes, member]))
  | math at? f e ih => exact Printed.call at? f (ih typed.1 fun l member => valid l (by simp [lexemes, member]))
  | negation at? e ih => exact Printed.bang at? (ih typed.1 fun l member => valid l (by simp [lexemes, member]))
  | query at? q e ih =>
    exact Printed.word (.query q) rfl rfl (ih typed.1 fun l member => valid l (by simp [lexemes, member]))
  | sameTeam at? e ih =>
    exact Printed.word .sameteam rfl rfl (ih typed.1 fun l member => valid l (by simp [lexemes, member]))
  | isKind at? k e ih =>
    exact Printed.word (.test k) rfl rfl (ih typed.1 fun l member => valid l (by simp [lexemes, member]))
  | search at? e ih =>
    exact Printed.word .searchobj rfl rfl (ih typed.1 fun l member => valid l (by simp [lexemes, member]))
  | placeholder fault => cases typed

def Action.lexemes : Action → List Lexeme
  | turn angle => .keyword .turn :: (angle.lexemes ++ [.symbol .semicolon])
  | fire power => .keyword .fire :: (power.lexemes ++ [.symbol .semicolon])
  | move => [.keyword .move, .symbol .semicolon]
  | jump => [.keyword .jump, .symbol .semicolon]
  | toggleWeapon => [.keyword .toggleweap, .symbol .semicolon]
  | skip => [.keyword .skip, .symbol .semicolon]

namespace Stmt

/-- The lexemes between the word foreach and the body of the loop. -/
def eachLexemes (kind : LoopKind) (name : String) : List Lexeme :=
  [.symbol .openParen, .keyword (.kind kind), .symbol .comma, .name name, .symbol .closeParen, .keyword .doWord]

mutual

def lexemes : Stmt → List Lexeme
  | sequence _ body => .symbol .openBrace :: (lexemesAll body ++ [.symbol .closeBrace])
  | assignment _ name e => .name name :: .symbol .assign :: (e.lexemes ++ [.symbol .semicolon])
  | print _ e => .keyword .print :: (e.lexemes ++ [.symbol .semicolon])
  | action _ a => a.lexemes
  | branch _ _ c yes no =>
    .keyword .ifWord :: (c.lexemes ++ .keyword .thenWord :: (yes.lexemes ++
      if no.children.isEmpty then [] else .keyword .elseWord :: no.lexemes))
  | loop _ _ c body => .keyword .whileWord :: (c.lexemes ++ body.lexemes)
  | each _ _ kind name body => .keyword .foreach :: (eachLexemes kind name ++ body.lexemes)
  | placeholder _ => []

def lexemesAll : List Stmt → List Lexeme
  | [] => []
  | s :: rest => s.lexemes ++ lexemesAll rest

end

theorem lexemesAll_eq_flatMap (body : List Stmt) : lexemesAll body = body.flatMap lexemes := by
  induction body with
  | nil => rfl
  | cons s rest ih => rw [lexemesAll, ih, List.flatMap_cons]

/-- The text of a statement spells its lexemes. -/
structure Printed (s : Stmt) (text : String) : Prop where
  unparse : s.unparse = .ok text
  spelled : Spelled s.lexemes text
  opens : Opens text

end Stmt

/-- Pieces of text joined by white space. -/
theorem Spelled.joined (gap : String) {c : Char} (white : gap.toList = [c]) (space : isSpace c = true)
    (pieces : List (List Lexeme × String)) (spelled : ∀ piece ∈ pieces, Spelled piece.1 piece.2) :
    Spelled (pieces.flatMap Prod.fst) (gap.intercalate (pieces.map Prod.snd)) := by
  induction pieces with
  | nil =>
    intro more rest others _
    simpa using others
  | cons piece rest ih =>
    have first := spelled piece List.mem_cons_self
    cases rest with
    | nil => simpa using first
    | cons next rest =>
      have later := ih fun other member => spelled other (List.mem_cons_of_mem _ member)
      have both := first.spaced later gap white space
      rw [List.flatMap_cons, List.map_cons, List.map_cons, String.intercalate_cons_cons, ← List.map_cons]
      exact both

theorem Opens.joined (gap : String) {pieces : List (List Lexeme × String)} (some : pieces ≠ [])
    (opens : ∀ piece ∈ pieces, Opens piece.2) : Opens (gap.intercalate (pieces.map Prod.snd)) := by
  cases pieces with
  | nil => exact absurd rfl some
  | cons piece rest =>
    have first := opens piece List.mem_cons_self
    cases rest with
    | nil => simpa using first
    | cons next rest =>
      rw [List.map_cons, List.map_cons, String.intercalate_cons_cons]
      exact (first.append _).append _

/-- Statements that have texts have them in order. -/
theorem Stmt.exists_pieces (body : List Stmt) (printed : ∀ s ∈ body, ∃ text, s.Printed text) :
    ∃ pieces : List (List Lexeme × String), unparseAll body = .ok (pieces.map Prod.snd) ∧
      pieces.flatMap Prod.fst = lexemesAll body ∧ ∀ piece ∈ pieces, Spelled piece.1 piece.2 ∧ Opens piece.2 := by
  induction body with
  | nil => exact ⟨[], rfl, rfl, by simp⟩
  | cons s rest ih =>
    obtain ⟨text, first⟩ := printed s List.mem_cons_self
    obtain ⟨pieces, unparsed, lexemes, spelled⟩ := ih fun t member => printed t (List.mem_cons_of_mem _ member)
    refine ⟨(s.lexemes, text) :: pieces, ?_, ?_, ?_⟩
    · rw [unparseAll, first.unparse, unparsed]
      rfl
    · rw [List.flatMap_cons, lexemes, lexemesAll]
    · intro piece member
      obtain rfl | member := List.mem_cons.mp member
      · exact ⟨first.spelled, first.opens⟩
      · exact spelled piece member

theorem Spelled.of_eq {lexemes : List Lexeme} {s t : String} (spelled : Spelled lexemes s) (same : s = t) :
    Spelled lexemes t := same ▸ spelled

namespace Stmt.Printed

/-- A word, an expression and a semicolon. -/
theorem command (k : Keyword) {e : Expr} {text : String} (printed : e.Printed text) :
    Spelled (.keyword k :: (e.lexemes ++ [.symbol .semicolon])) (k.word ++ " " ++ text ++ ";") :=
  ((Spelled.keyword k).spaced printed.spelled " " rfl (by decide)).tight (.symbol .semicolon) rfl (by decide)

theorem opens_command (k : Keyword) (text : String) : Opens (k.word ++ " " ++ text ++ ";") :=
  (((opens_of_isWord k.isWord_word).append _).append _).append _

theorem action {globals : Table Variable} {a : Action} (at? : Option Position) (typed : a.WellTyped globals)
    (valid : ∀ l ∈ a.lexemes, l.Valid) : ∃ text, (Stmt.action at? a).Printed text := by
  have simple : ∀ k : Keyword, Spelled [.keyword k, .symbol .semicolon] (k.word ++ ";") :=
    fun k => (Spelled.keyword k).tight (.symbol .semicolon) rfl (by decide)
  have opens : ∀ k : Keyword, Opens (k.word ++ ";") := fun k => (opens_of_isWord k.isWord_word).append _
  cases a with
  | turn angle =>
    obtain ⟨text, printed⟩ := angle.exists_printed typed.1 fun l member => valid l (by simp [Action.lexemes, member])
    refine ⟨"turn " ++ text ++ ";", ?_, command .turn printed, opens_command .turn text⟩
    rw [Stmt.unparse, Action.unparse, printed.unparse]
    rfl
  | fire power =>
    obtain ⟨text, printed⟩ := power.exists_printed typed.1 fun l member => valid l (by simp [Action.lexemes, member])
    refine ⟨"fire " ++ text ++ ";", ?_, command .fire printed, opens_command .fire text⟩
    rw [Stmt.unparse, Action.unparse, printed.unparse]
    rfl
  | move => exact ⟨_, rfl, simple .move, opens .move⟩
  | jump => exact ⟨_, rfl, simple .jump, opens .jump⟩
  | toggleWeapon => exact ⟨_, rfl, simple .toggleweap, opens .toggleweap⟩
  | skip => exact ⟨_, rfl, simple .skip, opens .skip⟩

/-- Statements between braces. -/
theorem sequence (at? : Option Position) {body : List Stmt} (printed : ∀ s ∈ body, ∃ text, s.Printed text) :
    ∃ text, (Stmt.sequence at? body).Printed text := by
  obtain ⟨pieces, unparsed, lexemes, spelled⟩ := exists_pieces body printed
  have inner := Spelled.joined " " rfl (by decide) pieces fun piece member => (spelled piece member).1
  rw [lexemes] at inner
  refine ⟨braces (" ".intercalate (pieces.map Prod.snd)), ?_, ?_, ?_⟩
  · rw [Stmt.unparse, unparsed]
    rfl
  · unfold braces
    split
    · next empty =>
      have none : pieces = [] := by
        refine Classical.byContradiction fun some => ?_
        obtain ⟨c, tail, starts, -⟩ := Opens.joined " " some fun piece member => (spelled piece member).2
        rw [String.isEmpty_iff.mp empty] at starts
        cases starts
      have bare : lexemesAll body = [] := by rw [← lexemes, none, List.flatMap_nil]
      rw [Stmt.lexemes, bare]
      exact (Spelled.symbol .openBrace).spaced (.symbol .closeBrace) " " rfl (by decide)
    · have shut := inner.spaced (.symbol .closeBrace) " " rfl (by decide)
      have whole := (Spelled.symbol .openBrace).spaced shut " " rfl (by decide)
      exact whole.of_eq (by simp only [Symbol.text, String.append_assoc]; rfl)
  · have brace : Opens "\x7b" := ⟨'\x7b', [], rfl, by decide⟩
    unfold braces
    split
    · exact brace.append " \x7d"
    · exact ((brace.append " ").append _).append _

/-- A branch; an else branch is printed only if a statement is inside it. -/
theorem branch (id : NodeId) (at? : Option Position) {c : Expr} {yes no : Stmt} {text : String}
    (condition : c.Printed text) (printedYes : ∃ text, yes.Printed text)
    (printedNo : no.children.isEmpty = false → ∃ text, no.Printed text) :
    ∃ text, (Stmt.branch id at? c yes no).Printed text := by
  obtain ⟨textYes, printedYes⟩ := printedYes
  have start := (Spelled.keyword .ifWord).spaced condition.spelled " " rfl (by decide)
  have word := start.spaced (.keyword .thenWord) " " rfl (by decide)
  have first := (word.spaced printedYes.spelled " " rfl (by decide)).of_eq
    (t := "if " ++ text ++ " then " ++ textYes) (by simp only [Keyword.word, String.append_assoc]; rfl)
  have opens : Opens ("if " ++ text ++ " then " ++ textYes) :=
    (((opens_of_isWord (s := "if") rfl).append " ").append _ |>.append _).append _
  by_cases empty : no.children.isEmpty = true
  · refine ⟨"if " ++ text ++ " then " ++ textYes, ?_, ?_, opens⟩
    · rw [Stmt.unparse, condition.unparse, printedYes.unparse]
      simp only [empty]
      rfl
    · rw [Stmt.lexemes, if_pos empty]
      simpa using first
  · obtain ⟨textNo, printedNo⟩ := printedNo (Bool.eq_false_iff.mpr empty)
    have second := first.spaced (.keyword .elseWord) " " rfl (by decide)
    have whole := (second.spaced printedNo.spelled " " rfl (by decide)).of_eq
      (t := "if " ++ text ++ " then " ++ textYes ++ " else " ++ textNo)
      (by simp only [Keyword.word, String.append_assoc]; rfl)
    refine ⟨"if " ++ text ++ " then " ++ textYes ++ " else " ++ textNo, ?_, ?_, (opens.append _).append _⟩
    · rw [Stmt.unparse, condition.unparse, printedYes.unparse, printedNo.unparse]
      simp only [empty]
      rfl
    · rw [Stmt.lexemes, if_neg empty]
      simpa using whole

theorem loop (id : NodeId) (at? : Option Position) {c : Expr} {body : Stmt} {text : String}
    (condition : c.Printed text) (printed : ∃ text, body.Printed text) :
    ∃ text, (Stmt.loop id at? c body).Printed text := by
  obtain ⟨textBody, printed⟩ := printed
  have start := (Spelled.keyword .whileWord).spaced condition.spelled " " rfl (by decide)
  have whole := start.spaced printed.spelled " " rfl (by decide)
  refine ⟨"while " ++ text ++ " " ++ textBody, ?_, ?_, ?_⟩
  · rw [Stmt.unparse, condition.unparse, printed.unparse]
    rfl
  · rw [Stmt.lexemes]
    exact whole
  · exact (((opens_of_isWord (s := "while") rfl).append " ").append _ |>.append _).append _

theorem each (id : NodeId) (at? : Option Position) (kind : LoopKind) {name : String} {body : Stmt}
    (valid : (Lexeme.name name).Valid) (printed : ∃ text, body.Printed text) :
    ∃ text, (Stmt.each id at? kind name body).Printed text := by
  obtain ⟨textBody, printed⟩ := printed
  have comma := (Spelled.keyword (.kind kind)).tight (.symbol .comma) rfl (by decide)
  have named := (comma.spaced (.lexeme valid) " " rfl (by decide)).tight (.symbol .closeParen) rfl (by decide)
  have opens : Opens ((Keyword.kind kind).word ++ Symbol.comma.text ++ " " ++ name ++ Symbol.closeParen.text) :=
    ((((opens_of_isWord (Keyword.kind kind).isWord_word).append _).append _).append _).append _
  have head := (Spelled.keyword .foreach).spaced (named.after .openParen opens) " " rfl (by decide)
  have word := head.spaced (.keyword .doWord) " " rfl (by decide)
  have whole := word.spaced printed.spelled " " rfl (by decide)
  refine ⟨"foreach (" ++ kind.word ++ ", " ++ name ++ ") do " ++ textBody, ?_, ?_, ?_⟩
  · rw [Stmt.unparse, printed.unparse]
    rfl
  · rw [Stmt.lexemes]
    exact whole.of_eq (by simp only [Keyword.word, Symbol.text, Lexeme.text, String.append_assoc]; rfl)
  · exact ((((opens_of_isWord (s := "foreach") rfl).append " (" |>.append _).append _ |>.append _).append _).append _

end Stmt.Printed

/-- Every statement that passes its checks and whose names and numbers are valid lexemes has a text that spells its
lexemes. -/
theorem Stmt.exists_printed {globals : Table Variable} {s : Stmt} (typed : s.WellTyped globals)
    (valid : ∀ l ∈ s.lexemes, l.Valid) : ∃ text, s.Printed text := by
  induction s using tree_induction with
  | sequence at? body ih =>
    have children := (wellTyped_iff.mp typed).2
    refine Printed.sequence at? fun t member => ih t member (children t member) fun l inside => valid l ?_
    have among : l ∈ lexemesAll body := by
      rw [lexemesAll_eq_flatMap]
      exact List.mem_flatMap.mpr ⟨t, member, inside⟩
    simp [lexemes, among]
  | branch id at? c yes no ihYes ihNo =>
    obtain ⟨⟨typedCondition, -⟩, children⟩ := wellTyped_iff.mp typed
    obtain ⟨text, condition⟩ := c.exists_printed typedCondition fun l member => valid l (by simp [lexemes, member])
    refine Printed.branch id at? condition ?_ fun inhabited => ?_
    · exact ihYes (children yes (by simp [Stmt.children])) fun l member => valid l (by simp [lexemes, member])
    · exact ihNo (children no (by simp [Stmt.children])) fun l member => valid l (by simp [lexemes, inhabited, member])
  | loop id at? c body ih =>
    obtain ⟨⟨typedCondition, -⟩, children⟩ := wellTyped_iff.mp typed
    obtain ⟨text, condition⟩ := c.exists_printed typedCondition fun l member => valid l (by simp [lexemes, member])
    refine Printed.loop id at? condition ?_
    exact ih (children body (by simp [Stmt.children])) fun l member => valid l (by simp [lexemes, member])
  | each id at? kind name body ih =>
    have children := (wellTyped_iff.mp typed).2
    refine Printed.each id at? kind (valid _ (by simp [lexemes, eachLexemes])) ?_
    exact ih (children body (by simp [Stmt.children])) fun l member => valid l (by simp [lexemes, member])
  | leaf s isLeaf =>
    have fits := (wellTyped_iff.mp typed).1
    cases s with
    | assignment at? name e =>
      have named : (Lexeme.name name).Valid := valid _ (by simp [lexemes])
      obtain ⟨text, printed⟩ := e.exists_printed fits fun l member => valid l (by simp [lexemes, member])
      have head := (Spelled.lexeme named).spaced (.symbol .assign) " " rfl (by decide)
      have whole := (head.spaced printed.spelled " " rfl (by decide)).tight (.symbol .semicolon) rfl (by decide)
      refine ⟨name ++ " := " ++ text ++ ";", ?_, ?_, (((opens_of_isWord named.1).append _).append _).append _⟩
      · rw [unparse, printed.unparse]
        rfl
      · rw [lexemes]
        exact whole.of_eq (by simp only [Lexeme.text, Symbol.text, String.append_assoc]; rfl)
    | print at? e =>
      obtain ⟨text, printed⟩ := e.exists_printed fits fun l member => valid l (by simp [lexemes, member])
      refine ⟨"print " ++ text ++ ";", ?_, Printed.command .print printed, Printed.opens_command .print text⟩
      rw [unparse, printed.unparse]
      rfl
    | action at? a => exact Printed.action at? fits valid
    | _ => cases isLeaf
  | placeholder fault => cases (wellTyped_iff.mp typed).1

/-- The lexemes of the declaration of a variable. -/
def declarationLexemes (entry : String × Variable) : List Lexeme :=
  [.keyword (.type entry.2.ty), .name entry.1, .symbol .semicolon]

/-- The text of a program spells the declarations of its variables and then its statements. -/
theorem Program.exists_spelled {p : Program} {at? : Option Position} {body : List Stmt}
    (root : p.root = .sequence at? body) (typed : p.root.WellTyped p.globals)
    (validNames : ∀ entry ∈ p.globals.entries, (Lexeme.name entry.1).Valid)
    (valid : ∀ l ∈ Stmt.lexemesAll body, l.Valid) :
    ∃ text, p.unparse = .ok text ∧
      Spells (p.globals.entries.flatMap declarationLexemes ++ Stmt.lexemesAll body) text.toList := by
  rw [root] at typed
  have printed : ∀ s ∈ body, ∃ text, s.Printed text := by
    intro s member
    refine s.exists_printed ((Stmt.wellTyped_iff.mp typed).2 s member) fun l inside => valid l ?_
    rw [Stmt.lexemesAll_eq_flatMap]
    exact List.mem_flatMap.mpr ⟨s, member, inside⟩
  obtain ⟨pieces, unparsed, lexemes, spelled⟩ := Stmt.exists_pieces body printed
  let declarations := p.globals.entries.map fun entry =>
    (declarationLexemes entry, entry.2.ty.keyword ++ " " ++ entry.1 ++ ";")
  have spelledAll : ∀ piece ∈ declarations ++ pieces, Spelled piece.1 piece.2 := by
    intro piece member
    obtain declared | stated := List.mem_append.mp member
    · obtain ⟨entry, known, rfl⟩ := List.mem_map.mp declared
      have head := (Spelled.keyword (.type entry.2.ty)).spaced (.lexeme (validNames entry known)) " " rfl (by decide)
      exact head.tight (.symbol .semicolon) rfl (by decide)
    · exact (spelled piece stated).1
  have joined := Spelled.joined "\n" rfl (by decide) (declarations ++ pieces) spelledAll
  have texts : (declarations ++ pieces).map Prod.snd =
      (p.globals.entries.map fun entry => entry.2.ty.keyword ++ " " ++ entry.1 ++ ";") ++ pieces.map Prod.snd := by
    simp [declarations]
  have parts : (declarations ++ pieces).flatMap Prod.fst =
      p.globals.entries.flatMap declarationLexemes ++ Stmt.lexemesAll body := by
    simp [declarations, List.flatMap_append, List.flatMap_map, lexemes]
  refine ⟨"\n".intercalate ((declarations ++ pieces).map Prod.snd), ?_, ?_⟩
  · rw [texts, Program.unparse, root]
    dsimp only
    rw [unparsed]
    rfl
  · have whole := joined [] [] .nil (by simp [Delimited])
    simpa [parts] using whole

end WormLang
