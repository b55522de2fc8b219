import WormLang.Builder.OfTree
import WormLang.Proofs.Grammar.Viable
import WormLang.Proofs.Grammar.Terminals

/-!
Faults of the grammar. A text that is no program is refused for one fault. It stands at the first token after which no
program goes on, at the first character where nothing starts, or at the end of a text that a program would go on from.
-/
namespace WormLang

namespace Reader

/-- How reading stops, and the state it stops in. -/
inductive Stops (r : Reader) (last : Mark) (stray? : Option (Char × Mark)) (tokens : List Token) : Stop → Prop
  | token {before after : List Token} {t : Token} {r' : Reader} (whole : tokens = before ++ t :: after)
    (fed : r.feed? before = some r') (refused : r'.step? t = none) : Stops r last stray? tokens (.token t)
  | character {c : Char} {mark : Mark} {r' : Reader} (stray : stray? = some (c, mark))
    (fed : r.feed? tokens = some r') : Stops r last stray? tokens (.character c mark)
  | ended {r' : Reader} (whole : stray? = none) (fed : r.feed? tokens = some r') (unfinished : r'.finish? = none) :
    Stops r last stray? tokens (.ended ((tokens.getLast?.map Token.start).getD last))

theorem stops_of_readAll {r : Reader} {last : Mark} {stray? : Option (Char × Mark)} {tokens : List Token} {stop : Stop}
    (read : r.readAll last stray? tokens = .error stop) : r.Stops last stray? tokens stop := by
  induction tokens generalizing r last with
  | nil =>
    unfold readAll at read
    split at read
    next => cases read; exact .character rfl rfl
    next =>
      split at read
      next => cases read
      next unfinished => cases read; exact .ended rfl rfl unfinished
  | cons t rest ih =>
    unfold readAll at read
    split at read
    next next taken =>
      have fed : ∀ w, r.feed? (t :: w) = next.feed? w := fun w => by rw [feed?, taken]; rfl
      cases ih read with
      | @token before after u r' whole fedBefore refused =>
        have wholeAll : t :: rest = (t :: before) ++ u :: after := congrArg (t :: ·) whole
        exact .token wholeAll ((fed before).trans fedBefore) refused
      | character stray fedRest => exact .character stray ((fed rest).trans fedRest)
      | ended whole fedRest unfinished =>
        have place : (rest.getLast?.map Token.start).getD t.start =
            ((t :: rest).getLast?.map Token.start).getD last := by
          rw [List.getLast?_cons, Option.map_some, Option.getD_some, Option.getD_map]
        rw [place]
        exact .ended whole ((fed rest).trans fedRest) unfinished
    next refused =>
      cases read
      have whole : t :: rest = [] ++ t :: rest := rfl
      exact .token whole rfl refused

end Reader

namespace Grammar

/-- The place where a text stops being a program, and what it shows there. -/
inductive Offends (source : String) : Reader.Stop → Prop
  /-- A token that no program goes on with. -/
  | token {front back : List Char} {before after : List Token} {t : Token}
    (tokens : (Scan.ofText source).tokens = before ++ t :: after)
    (place : Scan.Reaches { line := 1, column := 1 } source.toList front before t.start
      (t.lexeme.text.toList ++ back))
    (text : t.lexeme.terminal.Text t.lexeme.text.toList) (viable : Viable before)
    (offending : ¬ Viable (before ++ [t])) : Offends source (.token t)
  /-- A character where nothing starts. -/
  | character {front back : List Char} {c : Char} {mark : Mark}
    (place : Scan.Reaches { line := 1, column := 1 } source.toList front (Scan.ofText source).tokens mark (c :: back))
    (viable : Viable (Scan.ofText source).tokens) (nothing : ¬ Opens (c :: back)) : Offends source (.character c mark)
  /-- The end of a text that starts a program, behind its last token. -/
  | ended {mark : Mark} {more : List Token} (whole : (Scan.ofText source).stray? = none)
    (last : (Scan.ofText source).tokens.getLast?.map Token.start = some mark)
    (unfinished : ¬ IsProgram (Scan.ofText source).tokens) (proper : more ≠ [])
    (program : IsProgram ((Scan.ofText source).tokens ++ more)) : Offends source (.ended mark)

theorem isProgram_nil : IsProgram [] := isProgram_iff.mpr ⟨{}, { items := [] }, rfl, rfl⟩

theorem offends_of_parse {source : String} {stop : Reader.Stop} (stopped : ProgramTree.parse source = .error stop) :
    Offends source stop := by
  cases Reader.stops_of_readAll stopped with
  | @token before after t r whole fed refused =>
    obtain ⟨front, back, place, text⟩ := Scan.exists_reaches_token _ _ t after before whole
    refine .token whole place text (viable_iff.mpr ⟨r, fed⟩) fun viable => ?_
    obtain ⟨r', fedBoth⟩ := viable_iff.mp viable
    rw [Reader.feed?_append, fed, Option.bind_some, Reader.feed?, refused] at fedBoth
    cases fedBoth
  | character stray fed =>
    obtain ⟨front, back, place, nothing⟩ := Scan.exists_reaches_stray stray
    exact .character place (viable_iff.mpr ⟨_, fed⟩) nothing
  | @ended r whole fed unfinished =>
    have noProgram : ¬ IsProgram (Scan.ofText source).tokens := fun program => by
      obtain ⟨r', tree, fed', finished⟩ := isProgram_iff.mp program
      cases fed.symm.trans fed'
      cases unfinished.symm.trans finished
    obtain ⟨more, program⟩ := viable_iff.mpr ⟨r, fed⟩
    refine .ended whole ?_ noProgram (fun nothing => noProgram ?_) program
    · cases last : (Scan.ofText source).tokens.getLast? with
      | none =>
        rw [List.getLast?_eq_none_iff] at last
        exact absurd (last ▸ isProgram_nil) noProgram
      | some t => rfl
    · rwa [nothing, List.append_nil] at program

end Grammar

/-- A text that is no program is refused for one fault, at the first place that offends. -/
theorem Program.parse_refuses_offence {source : String} {stop : Reader.Stop}
    (refused : ProgramTree.parse source = .error stop) (file : Option String) (handler? : Option HandlerId)
    (budget : Except Fault Int) :
    Program.parse source file handler? budget = .error (.rejected [stop.fault file] #[]) ∧
      Grammar.Offends source stop := by
  refine ⟨?_, Grammar.offends_of_parse refused⟩
  rw [Program.parse, refused]
  rfl

/-- A second comparison in a row, a character of no terminal, and a parenthesis that stays open. -/
theorem comparison_offends :
    let second : Token := { lexeme := .symbol (.order .lt), extent := ⟨⟨1, 13⟩, ⟨1, 14⟩⟩ }
    (Program.parse "print 1 < 2 < 3" none none (.ok 10) =
        .error (.rejected [{ cause := .unexpectedToken "<", position := some (second.start.position none) }] #[]) ∧
      Grammar.Offends "print 1 < 2 < 3" (.token second)) ∧
    Grammar.Offends "print 1 # 2" (.character '#' ⟨1, 9⟩) ∧ Grammar.Offends "print (1" (.ended ⟨1, 8⟩) := by
  intro second
  have chained : ProgramTree.parse "print 1 < 2 < 3" = .error (.token second) := by cbv
  have stray : ProgramTree.parse "print 1 # 2" = .error (.character '#' ⟨1, 9⟩) := by cbv
  have ended : ProgramTree.parse "print (1" = .error (.ended ⟨1, 8⟩) := by cbv
  exact ⟨Program.parse_refuses_offence chained none none (.ok 10),
    (Program.parse_refuses_offence stray none none (.ok 10)).2,
    (Program.parse_refuses_offence ended none none (.ok 10)).2⟩

end WormLang
