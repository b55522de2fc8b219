import WormLang.Proofs.Grammar.Rules
import WormLang.Proofs.RoundTrip.Spelling

/-!
The texts of terminals, and where in a text its tokens stand. What is cut from a text at one place is a text of a
terminal; where nothing is cut and nothing is dropped, no terminal starts, nor white space, nor a comment. What comes
before a place that cutting reaches is cut into the same tokens when it stands alone.
-/
namespace WormLang

namespace Grammar

/-- A digit and perhaps more. -/
def Digits (w : List Char) : Prop := w ≠ [] ∧ ∀ c ∈ w, c.isDigit = true

/-- A number without its exponent. -/
inductive Mantissa : List Char → Prop
  | whole {w : List Char} (digits : Digits w) : Mantissa w
  | both {w v : List Char} (digits : Digits w) (places : Digits v) : Mantissa (w ++ '.' :: v)
  | places {v : List Char} (places : Digits v) : Mantissa ('.' :: v)

/-- An exponent, which may be missing. -/
inductive Exponent : List Char → Prop
  | none : Exponent []
  | plain {c : Char} {w : List Char} (letter : c = 'e' ∨ c = 'E') (digits : Digits w) : Exponent (c :: w)
  | signed {c sign : Char} {w : List Char} (letter : c = 'e' ∨ c = 'E') (signs : sign = '+' ∨ sign = '-')
    (digits : Digits w) : Exponent (c :: sign :: w)

/-- The texts of terminals. -/
inductive Terminal.Text : Terminal → List Char → Prop
  | keyword (k : Keyword) : Text (.keyword k) k.word.toList
  | symbol (s : Symbol) : Text (.symbol s) s.text.toList
  | name {w : List Char} (word : Scan.isWord w = true) : Text .name w
  | number {w v : List Char} (mantissa : Mantissa w) (exponent : Exponent v) : Text .number (w ++ v)

/-- White space, a comment or a terminal starts a text. -/
inductive Opens : List Char → Prop
  | space {c : Char} {rest : List Char} (space : Scan.isSpace c = true) : Opens (c :: rest)
  | comment (rest : List Char) : Opens ('/' :: '/' :: rest)
  | terminal {t : Terminal} {w : List Char} (text : t.Text w) (rest : List Char) : Opens (w ++ rest)

end Grammar

theorem Keyword.word_of_ofWord? {k : Keyword} {text : String} (known : ofWord? text = some k) : k.word = text := by
  simpa using List.find?_some known

namespace Scan

open Grammar

theorem take_digitsLength (cs : List Char) : cs.take (digitsLength cs) = cs.takeWhile Char.isDigit :=
  (List.prefix_iff_eq_take.mp (List.takeWhile_prefix _)).symm

theorem digits_take {cs : List Char} (present : digitsLength cs ≠ 0) : Digits (cs.take (digitsLength cs)) := by
  rw [take_digitsLength]
  exact ⟨List.ne_nil_of_length_pos (Nat.pos_of_ne_zero present), fun c member => List.mem_takeWhile_imp member⟩

theorem digitsLength_ne_zero {w : List Char} (digits : Digits w) (rest : List Char) :
    digitsLength (w ++ rest) ≠ 0 := by
  obtain ⟨nonempty, all⟩ := digits
  cases w with
  | nil => exact absurd rfl nonempty
  | cons c w => simp [digitsLength, all c List.mem_cons_self]

/-- The places that are cut are a point and digits. -/
theorem exists_places {cs : List Char} (present : placesLength cs ≠ 0) :
    ∃ v, Digits v ∧ cs.take (placesLength cs) = '.' :: v := by
  cases cs with
  | nil => exact absurd rfl present
  | cons point rest =>
    rw [placesLength] at present ⊢
    split at present
    next isPoint =>
      obtain rfl := beq_iff_eq.mp isPoint
      split at present
      next => exact absurd rfl present
      next digits => exact ⟨_, digits_take digits, by simp [digits]⟩
    next => exact absurd rfl present

/-- The exponent that is cut is an exponent. -/
theorem exponent_take (cs : List Char) : Exponent (cs.take (exponentLength cs)) := by
  unfold exponentLength
  split
  next mark rest =>
    split
    next letter =>
      have letter : mark = 'e' ∨ mark = 'E' := by simpa using letter
      split
      next sign tail =>
        split
        next signs =>
          split
          next => exact .none
          next digits => exact .signed letter (by simpa using signs) (digits_take digits)
        next =>
          split
          next => exact .none
          next digits => exact .plain letter (digits_take digits)
      next => exact .none
    next => exact .none
  next => exact .none

theorem exponentLength_le (cs : List Char) : exponentLength cs ≤ cs.length := by
  cases cs with
  | nil => exact Nat.le_refl _
  | cons mark rest =>
    cases rest with
    | nil =>
      simp only [exponentLength]
      split <;> omega
    | cons sign tail =>
      have signed := digitsLength_le tail
      have plain := digitsLength_le (sign :: tail)
      simp only [exponentLength, List.length_cons] at plain ⊢
      split
      next =>
        split
        next => split <;> omega
        next => split <;> omega
      next => omega

theorem numberLength_le (cs : List Char) : numberLength cs ≤ cs.length := by
  have whole := digitsLength_le cs
  have places := placesLength_le (cs.drop (digitsLength cs))
  have exponent := exponentLength_le (cs.drop (digitsLength cs + placesLength (cs.drop (digitsLength cs))))
  rw [List.length_drop] at places exponent
  unfold numberLength
  dsimp only
  split <;> omega

/-- The number that is cut is a number. -/
theorem number_take {cs : List Char} (present : numberLength cs ≠ 0) :
    Terminal.Text .number (cs.take (numberLength cs)) := by
  have length : numberLength cs = digitsLength cs + placesLength (cs.drop (digitsLength cs)) +
      exponentLength (cs.drop (digitsLength cs + placesLength (cs.drop (digitsLength cs)))) := by
    unfold numberLength at present ⊢
    exact if_neg fun nothing => present (if_pos nothing)
  have nonempty : digitsLength cs + placesLength (cs.drop (digitsLength cs)) ≠ 0 := fun nothing =>
    present (if_pos nothing)
  rw [length, List.take_add, List.take_add]
  refine .number ?_ (exponent_take _)
  by_cases whole : digitsLength cs = 0
  · have places : placesLength (cs.drop (digitsLength cs)) ≠ 0 := by omega
    obtain ⟨v, digits, same⟩ := exists_places places
    rw [same, whole]
    exact .places digits
  · by_cases places : placesLength (cs.drop (digitsLength cs)) = 0
    · rw [places, List.take_zero, List.append_nil]
      exact .whole (digits_take whole)
    · obtain ⟨v, digits, same⟩ := exists_places places
      rw [same]
      exact .both (digits_take whole) digits

/-- A number is cut where one starts. -/
theorem numberLength_ne_zero {w : List Char} (mantissa : Mantissa w) (rest : List Char) :
    numberLength (w ++ rest) ≠ 0 := by
  have starts : digitsLength (w ++ rest) + placesLength ((w ++ rest).drop (digitsLength (w ++ rest))) ≠ 0 := by
    cases mantissa with
    | whole digits =>
      have present := digitsLength_ne_zero digits rest
      omega
    | @both w v digits places =>
      have present := digitsLength_ne_zero digits ('.' :: v ++ rest)
      rw [List.append_assoc]
      omega
    | @places v digits =>
      have noWhole : digitsLength ('.' :: (v ++ rest)) = 0 := rfl
      have present := digitsLength_ne_zero digits rest
      rw [List.cons_append, noWhole]
      simp [placesLength, present]
  unfold numberLength
  rw [if_neg starts]
  omega

/-- A symbol is cut where one starts. -/
theorem symbol?_ne_none (s : Symbol) :
    ∃ c tail, s.text.toList = c :: tail ∧ ∀ rest, symbol? c (tail ++ rest) ≠ none := by
  have single : ∀ c, singleSymbol? c ≠ none → ∀ rest, symbol? c rest ≠ none := by
    intro c known rest
    unfold symbol?
    split
    next => simp
    next => simpa using known
  have double : ∀ c d, doubleSymbol? c d ≠ none → ∀ rest, symbol? c ([d] ++ rest) ≠ none := by
    intro c d known rest
    obtain ⟨s, known⟩ := Option.ne_none_iff_exists'.mp known
    simp [symbol?, known]
  cases s with
  | arithmetic op => cases op <;> exact ⟨_, [], rfl, single _ (by decide)⟩
  | order op =>
    cases op with
    | lt | gt => exact ⟨_, [], rfl, single _ (by decide)⟩
    | le | ge => exact ⟨_, [_], rfl, double _ _ (by decide)⟩
  | equality op => cases op <;> exact ⟨_, [_], rfl, double _ _ (by decide)⟩
  | logical op => cases op <;> exact ⟨_, [_], rfl, double _ _ (by decide)⟩
  | assign => exact ⟨_, [_], rfl, double _ _ (by decide)⟩
  | bang | semicolon | comma | openParen | closeParen | openBrace | closeBrace =>
    exact ⟨_, [], rfl, single _ (by decide)⟩

/-- A lexeme is cut where the text of a terminal starts. -/
theorem lexeme?_ne_none {t : Terminal} {w : List Char} (text : t.Text w) (rest : List Char) :
    ∃ c tail, w ++ rest = c :: tail ∧ lexeme? c tail ≠ none := by
  have word : ∀ w, isWord w = true → ∃ c tail, w ++ rest = c :: tail ∧ lexeme? c tail ≠ none := by
    intro w isWord
    cases w with
    | nil => cases isWord
    | cons c tail =>
      simp only [Scan.isWord, Bool.and_eq_true] at isWord
      exact ⟨c, tail ++ rest, rfl, by simp [lexeme?, isWord.1]⟩
  cases text with
  | keyword k => exact word _ k.isWord_word
  | name isWord => exact word _ isWord
  | symbol s =>
    obtain ⟨c, tail, text, known⟩ := symbol?_ne_none s
    refine ⟨c, tail ++ rest, by rw [text]; rfl, ?_⟩
    unfold lexeme?
    split
    next => simp
    next =>
      split
      next => simpa using known rest
      next => simp
  | @number w v mantissa exponent =>
    have present := numberLength_ne_zero mantissa (v ++ rest)
    rw [← List.append_assoc] at present
    cases whole : w ++ v ++ rest with
    | nil => exact absurd (whole ▸ rfl : numberLength (w ++ v ++ rest) = 0) present
    | cons c tail =>
      refine ⟨c, tail, rfl, ?_⟩
      rw [whole] at present
      unfold lexeme?
      split
      next => simp
      next =>
        split
        next none => exact absurd none present
        next => simp

theorem symbol?_length {c : Char} {rest : List Char} {s : Symbol} {extra : Nat}
    (cut : symbol? c rest = some (s, extra)) : extra ≤ rest.length := by
  cases rest with
  | cons d tail =>
    unfold symbol? at cut
    split at cut
    next => cases cut; exact Nat.succ_le_succ (Nat.zero_le _)
    next =>
      obtain ⟨single, -, same⟩ := Option.map_eq_some_iff.mp cut
      cases same
      exact Nat.zero_le _
  | nil =>
    obtain ⟨single, -, same⟩ := Option.map_eq_some_iff.mp cut
    cases same
    exact Nat.le_refl 0

theorem symbol?_text {c : Char} {rest : List Char} {s : Symbol} {extra : Nat}
    (cut : symbol? c rest = some (s, extra)) : s.text.toList = c :: rest.take extra := by
  unfold symbol? at cut
  split at cut
  next double found =>
    cases cut
    obtain ⟨d, head, known⟩ := Option.bind_eq_some_iff.mp found
    obtain ⟨tail, rfl⟩ := List.head?_eq_some_iff.mp head
    clear found
    unfold doubleSymbol? at known
    split at known <;> cases known <;> rfl
  next =>
    obtain ⟨single, known, same⟩ := Option.map_eq_some_iff.mp cut
    cases same
    unfold singleSymbol? at known
    split at known <;> cases known <;> rfl

theorem lexeme?_length {c : Char} {rest : List Char} {l : Lexeme} {extra : Nat}
    (cut : lexeme? c rest = some (l, extra)) : extra ≤ rest.length := by
  unfold lexeme? at cut
  split at cut
  next =>
    cases cut
    exact (List.takeWhile_sublist _).length_le
  next =>
    split at cut
    next =>
      obtain ⟨⟨s, extra⟩, known, same⟩ := Option.map_eq_some_iff.mp cut
      cases same
      exact symbol?_length known
    next extra length =>
      cases cut
      have within := numberLength_le (c :: rest)
      rw [length, List.length_cons] at within
      exact Nat.le_of_succ_le_succ within

/-- What is cut is a text of a terminal. -/
theorem lexeme?_text {c : Char} {rest : List Char} {l : Lexeme} {extra : Nat}
    (cut : lexeme? c rest = some (l, extra)) :
    l.text.toList = c :: rest.take extra ∧ l.terminal.Text l.text.toList := by
  unfold lexeme? at cut
  split at cut
  next starts =>
    cases cut
    have tail : rest.take (rest.takeWhile isWordPart).length = rest.takeWhile isWordPart :=
      (List.prefix_iff_eq_take.mp (List.takeWhile_prefix _)).symm
    rw [tail]
    unfold Lexeme.ofWord
    split
    next k known =>
      have same : k.word.toList = c :: rest.takeWhile isWordPart := by
        rw [Keyword.word_of_ofWord? known, String.toList_ofList]
      exact ⟨same, .keyword k⟩
    next =>
      refine ⟨String.toList_ofList, .name ?_⟩
      rw [Lexeme.text, String.toList_ofList, isWord, starts, Bool.true_and]
      exact List.all_takeWhile
  next =>
    split at cut
    next =>
      obtain ⟨⟨s, extra⟩, known, same⟩ := Option.map_eq_some_iff.mp cut
      cases same
      exact ⟨symbol?_text known, .symbol s⟩
    next extra length =>
      cases cut
      have present : numberLength (c :: rest) ≠ 0 := by rw [length]; exact Nat.succ_ne_zero _
      have number := number_take present
      rw [length] at number
      exact ⟨String.toList_ofList, by rw [Lexeme.text, String.toList_ofList]; exact number⟩

/-- Every token has a text of its terminal. -/
theorem text_of_mem_run (m : Mark) (cs : List Char) :
    ∀ t ∈ (run m cs).tokens, t.lexeme.terminal.Text t.lexeme.text.toList := by
  fun_induction run m cs with
  | case1 => simp
  | case2 m c rest space ih => exact ih
  | case3 m c rest space starts comment ih => exact ih
  | case4 => simp
  | case5 m c rest space starts lexeme extra cut stop scan ih =>
    rw [List.forall_mem_cons]
    exact ⟨(lexeme?_text cut).2, ih⟩

/-- Where nothing is cut and nothing is dropped, nothing starts. -/
theorem not_opens {c : Char} {rest : List Char} (opens : OpensLexeme c rest) (none : lexeme? c rest = none) :
    ¬ Opens (c :: rest) := by
  intro something
  generalize whole : c :: rest = cs at something
  cases something with
  | space space =>
    cases whole
    simp [opens.1] at space
  | comment =>
    cases whole
    simp [OpensLexeme] at opens
  | terminal text after =>
    obtain ⟨d, tail, same, cut⟩ := lexeme?_ne_none text after
    cases whole.trans same
    exact cut none

theorem takeWhile_take_of_le {p : Char → Bool} {cs : List Char} {n : Nat} (within : (cs.takeWhile p).length ≤ n) :
    (cs.take n).takeWhile p = cs.takeWhile p := by
  rw [← List.take_takeWhile, List.take_of_length_le within]

theorem digitsLength_take {cs : List Char} {n : Nat} (within : digitsLength cs ≤ n) :
    digitsLength (cs.take n) = digitsLength cs := by
  rw [digitsLength, takeWhile_take_of_le within, digitsLength]

theorem placesLength_take {cs : List Char} {n : Nat} (within : placesLength cs ≤ n) :
    placesLength (cs.take n) = placesLength cs := by
  cases cs with
  | nil => rw [List.take_nil]
  | cons point rest =>
    cases n with
    | zero => exact (Nat.le_zero.mp within).symm
    | succ n =>
      simp only [placesLength, List.take_succ_cons] at within ⊢
      by_cases isPoint : (point == '.') = true
      · rw [if_pos isPoint] at within ⊢
        have places : digitsLength rest ≤ n := by split at within <;> omega
        rw [if_pos isPoint, digitsLength_take places]
      · rw [if_neg isPoint, if_neg isPoint]

theorem exponentLength_take {cs : List Char} {n : Nat} (within : exponentLength cs ≤ n) :
    exponentLength (cs.take n) = exponentLength cs := by
  cases cs with
  | nil => rw [List.take_nil]
  | cons mark rest =>
    cases n with
    | zero => exact (Nat.le_zero.mp within).symm
    | succ n =>
      simp only [exponentLength, List.take_succ_cons] at within ⊢
      by_cases letter : (mark == 'e' || mark == 'E') = true
      · rw [if_pos letter] at within ⊢
        rw [if_pos letter]
        cases rest with
        | nil => rw [List.take_nil]
        | cons sign tail =>
          cases n with
          | zero =>
            -- An exponent has at least two characters.
            dsimp only [List.take_zero] at within ⊢
            split at within <;> split at within <;> rename_i signs digits <;> simp_all
          | succ n =>
            dsimp only [List.take_succ_cons] at within ⊢
            by_cases signs : (sign == '+' || sign == '-') = true
            · rw [if_pos signs] at within ⊢
              have digits : digitsLength tail ≤ n := by split at within <;> omega
              rw [if_pos signs, digitsLength_take digits]
            · rw [if_neg signs] at within ⊢
              have digits : digitsLength (sign :: tail) ≤ n + 1 := by split at within <;> omega
              have same := digitsLength_take digits
              rw [List.take_succ_cons] at same
              simp only [if_neg signs, same]
      · rw [if_neg letter, if_neg letter]

/-- What is behind a number says nothing about the number. -/
theorem numberLength_take {cs : List Char} {n : Nat} (within : numberLength cs ≤ n) :
    numberLength (cs.take n) = numberLength cs := by
  unfold numberLength at within ⊢
  dsimp only at within ⊢
  have whole : digitsLength cs ≤ n := by split at within <;> omega
  have places : placesLength (cs.drop (digitsLength cs)) ≤ n - digitsLength cs := by split at within <;> omega
  rw [digitsLength_take whole, List.drop_take, placesLength_take places]
  split
  next => rfl
  next present =>
    rw [if_neg present] at within
    rw [List.drop_take, exponentLength_take (by omega)]

/-- What is behind a symbol says nothing about the symbol. -/
theorem symbol?_take {c : Char} {rest : List Char} {s : Symbol} {extra n : Nat}
    (cut : symbol? c rest = some (s, extra)) (within : extra ≤ n) : symbol? c (rest.take n) = some (s, extra) := by
  cases n with
  | succ n =>
    unfold symbol? at cut ⊢
    rwa [List.head?_take, if_neg (Nat.succ_ne_zero n)]
  | zero =>
    unfold symbol? at cut
    split at cut
    next =>
      cases cut
      cases within
    next => exact cut

/-- What is behind a lexeme says nothing about the lexeme. -/
theorem lexeme?_take {c : Char} {rest : List Char} {l : Lexeme} {extra n : Nat}
    (cut : lexeme? c rest = some (l, extra)) (within : extra ≤ n) : lexeme? c (rest.take n) = some (l, extra) := by
  unfold lexeme? at cut ⊢
  split at cut
  next starts =>
    cases cut
    rw [if_pos starts, takeWhile_take_of_le within]
  next other =>
    rw [if_neg other, ← List.take_succ_cons]
    split at cut
    next none =>
      obtain ⟨⟨s, extra⟩, known, same⟩ := Option.map_eq_some_iff.mp cut
      cases same
      rw [numberLength_take (by omega), none, symbol?_take known within]
      rfl
    next extra length =>
      cases cut
      rw [numberLength_take (by omega), length]
      dsimp only
      rw [List.take_take, Nat.min_eq_left within]

end Scan

namespace Grammar

/-- The text of a terminal stands on one line. -/
theorem Terminal.Text.ne_newline {t : Terminal} {w : List Char} (text : t.Text w) : '\n' ∉ w := by
  have word : ∀ w, Scan.isWord w = true → '\n' ∉ w := by
    intro w isWord member
    cases w with
    | nil => cases isWord
    | cons c rest =>
      simp only [Scan.isWord, Bool.and_eq_true, List.all_eq_true] at isWord
      obtain rfl | member := List.mem_cons.mp member
      · exact absurd isWord.1 (by decide)
      · exact absurd (isWord.2 _ member) (by decide)
  have plain : ∀ w, Digits w → '\n' ∉ w := fun w digits member => absurd (digits.2 _ member) (by decide)
  cases text with
  | keyword k => exact word _ k.isWord_word
  | name isWord => exact word _ isWord
  | symbol s =>
    cases s with
    | arithmetic op => cases op <;> decide
    | order op => cases op <;> decide
    | equality op => cases op <;> decide
    | logical op => cases op <;> decide
    | _ => decide
  | @number w v mantissa exponent =>
    have front : '\n' ∉ w := by
      cases mantissa with
      | whole digits => exact plain _ digits
      | both digits places => simp [plain _ digits, plain _ places]
      | places places => simp [plain _ places]
    have back : '\n' ∉ v := by
      cases exponent with
      | none => simp
      | plain letter digits => obtain rfl | rfl := letter <;> simp [plain _ digits]
      | signed letter signs digits =>
        obtain rfl | rfl := letter <;> obtain rfl | rfl := signs <;> simp [plain _ digits]
    simp [front, back]

end Grammar

namespace Scan

open Grammar

/-- Text without a line break leads along its line. -/
theorem foldl_after {w : List Char} (line : '\n' ∉ w) (m : Mark) :
    w.foldl Mark.after m = { m with column := m.column + w.length } := by
  induction w generalizing m with
  | nil => rfl
  | cons c rest ih =>
    rw [List.mem_cons, not_or] at line
    obtain ⟨other, line⟩ := line
    have step : m.after c = { m with column := m.column + 1 } := if_neg (by simpa using Ne.symm other)
    rw [List.foldl_cons, ih line, step, List.length_cons, Nat.add_assoc, Nat.add_comm 1]

/-- Cutting a text from a mark on comes to another mark, with the rest of the text still ahead. The text in between is
cut into the same tokens when it stands alone. -/
structure Reaches (m : Mark) (cs front : List Char) (tokens : List Token) (place : Mark) (ahead : List Char) :
    Prop where
  whole : cs = front ++ ahead
  mark : place = front.foldl Mark.after m
  alone : run m front = { tokens, stray? := none }

namespace Reaches

variable {m place : Mark} {front ahead rest : List Char} {tokens : List Token} {c : Char}

theorem here (m : Mark) (cs : List Char) : Reaches m cs [] [] m cs := ⟨rfl, rfl, by rw [run]⟩

theorem space (space : isSpace c = true) (reaches : Reaches (m.after c) rest front tokens place ahead) :
    Reaches m (c :: rest) (c :: front) tokens place ahead where
  whole := congrArg (c :: ·) reaches.whole
  mark := reaches.mark
  alone := by rw [run, if_pos space, reaches.alone]

/-- What a place leaves of a text that was cut short. -/
theorem eq_take {n : Nat} (reaches : Reaches m (rest.drop n) front tokens place ahead) :
    rest.take n ++ front = rest.take (n + front.length) := by
  rw [List.take_add, reaches.whole, List.take_left]

theorem comment {n : Nat} (noSpace : ¬ isSpace c = true) (starts : (c == '/' && rest.head? == some '/') = true)
    (length : n = (rest.takeWhile (· != '\n')).length)
    (reaches : Reaches { m with column := m.column + 1 + n } (rest.drop n) front tokens place ahead) :
    Reaches m (c :: rest) (c :: (rest.take n ++ front)) tokens place ahead := by
  have comment : rest.takeWhile (· != '\n') = rest.take n :=
    length ▸ List.prefix_iff_eq_take.mp (List.takeWhile_prefix _)
  have size : (rest.take n).length = n := by rw [← comment, length]
  have same : (rest.take n ++ front).takeWhile (· != '\n') = rest.take n := by
    rw [reaches.eq_take, takeWhile_take_of_le (by omega), comment]
  simp only [Bool.and_eq_true, beq_iff_eq] at starts
  obtain ⟨rfl, head⟩ := starts
  obtain ⟨tail, rfl⟩ := List.head?_eq_some_iff.mp head
  obtain ⟨k, rfl⟩ : ∃ k, n = k + 1 := by simp [length]
  constructor
  case whole => rw [List.cons_append, List.append_assoc, ← reaches.whole, List.take_append_drop]
  case mark =>
    have line : '\n' ∉ '/' :: List.take (k + 1) ('/' :: tail) := by
      rw [← comment]
      simpa using fun member => by simpa using List.mem_takeWhile_imp member
    rw [← List.cons_append, List.foldl_append, foldl_after line, List.length_cons, size, reaches.mark,
      Nat.add_right_comm, Nat.add_assoc]
  case alone =>
    rw [run, if_neg noSpace, if_pos (by simp)]
    dsimp only
    rw [same, size, List.drop_left' size, reaches.alone]

theorem token {l : Lexeme} {extra : Nat} (opens : OpensLexeme c rest) (cut : lexeme? c rest = some (l, extra))
    (reaches : Reaches { m with column := m.column + 1 + extra } (rest.drop extra) front tokens place ahead) :
    Reaches m (c :: rest) (l.text.toList ++ front)
      ({ lexeme := l, extent := { start := m, stop := { m with column := m.column + 1 + extra } } } :: tokens)
      place ahead := by
  obtain ⟨text, isText⟩ := lexeme?_text cut
  have size : (rest.take extra).length = extra := List.length_take_of_le (lexeme?_length cut)
  have noComment : ¬ (c == '/' && (rest.take extra ++ front).head? == some '/') = true := by
    rw [reaches.eq_take, List.head?_take]
    split
    next => simp
    next => exact Bool.eq_false_iff.mp opens.2
  constructor
  case whole => rw [text, List.cons_append, List.cons_append, List.append_assoc, ← reaches.whole, List.take_append_drop]
  case mark =>
    rw [List.foldl_append, foldl_after isText.ne_newline, text, List.length_cons, size, reaches.mark,
      Nat.add_right_comm, Nat.add_assoc]
  case alone =>
    rw [text, List.cons_append, run, if_neg (by simp [opens.1]), if_neg noComment, reaches.eq_take,
      lexeme?_take cut (by omega)]
    dsimp only
    rw [← reaches.eq_take, List.drop_left' size, reaches.alone]

end Reaches

/-- The character where cutting stops comes behind the tokens, and nothing starts at it. -/
theorem exists_reaches_stray {m place : Mark} {cs : List Char} {c : Char}
    (stray : (run m cs).stray? = some (c, place)) :
    ∃ front back, Reaches m cs front (run m cs).tokens place (c :: back) ∧ ¬ Opens (c :: back) := by
  fun_induction run m cs with
  | case1 => cases stray
  | case2 m d rest space ih =>
    obtain ⟨front, back, reaches, nothing⟩ := ih stray
    exact ⟨_, back, reaches.space space, nothing⟩
  | case3 m d rest noSpace starts comment ih =>
    obtain ⟨front, back, reaches, nothing⟩ := ih stray
    exact ⟨_, back, reaches.comment noSpace starts rfl, nothing⟩
  | case4 m d rest noSpace noComment none =>
    cases stray
    exact ⟨[], rest, .here place _, not_opens ⟨by simpa using noSpace, by simpa using noComment⟩ none⟩
  | case5 m d rest noSpace noComment l extra cut stop scan ih =>
    obtain ⟨front, back, reaches, nothing⟩ := ih stray
    exact ⟨_, back, reaches.token ⟨by simpa using noSpace, by simpa using noComment⟩ cut, nothing⟩

/-- A token stands behind the tokens before it, where its text starts. -/
theorem exists_reaches_token (m : Mark) (cs : List Char) (t : Token) (after : List Token) :
    ∀ before, (run m cs).tokens = before ++ t :: after →
      ∃ front back, Reaches m cs front before t.start (t.lexeme.text.toList ++ back) ∧
        t.lexeme.terminal.Text t.lexeme.text.toList := by
  fun_induction run m cs with
  | case1 => simp
  | case2 m d rest space ih =>
    intro before tokens
    obtain ⟨front, back, reaches, text⟩ := ih before tokens
    exact ⟨_, back, reaches.space space, text⟩
  | case3 m d rest noSpace starts comment ih =>
    intro before tokens
    obtain ⟨front, back, reaches, text⟩ := ih before tokens
    exact ⟨_, back, reaches.comment noSpace starts rfl, text⟩
  | case4 => simp
  | case5 m d rest noSpace noComment l extra cut stop scan ih =>
    intro before tokens
    cases before with
    | nil =>
      obtain ⟨rfl, -⟩ := List.cons.inj tokens
      obtain ⟨text, isText⟩ := lexeme?_text cut
      refine ⟨[], rest.drop extra, ?_, isText⟩
      rw [text, List.cons_append, List.take_append_drop]
      exact .here m _
    | cons first before =>
      obtain ⟨rfl, others⟩ := List.cons.inj tokens
      obtain ⟨front, back, reaches, text⟩ := ih before others
      exact ⟨_, back, reaches.token ⟨by simpa using noSpace, by simpa using noComment⟩ cut, text⟩

end Scan

end WormLang
