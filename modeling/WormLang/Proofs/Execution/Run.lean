import Mathlib
import WormLang.Proofs.Execution.Invariant
import WormLang.Builder.OfTree

/-!
One run of a program as an answer, and what a host can observe of it: how it ended, the state of the host, the
variables, the budget that is left and the cursor. The host state stands for everything that the handler was asked
to do: a handler that keeps a record of its calls has them there.
-/
namespace WormLang

open Answer

inductive Ending where
  | done
  | suspended
  | raised (f : Fault)

structure Observation (σ : Type) where
  ending : Ending
  host : σ
  table : Table Variable
  left : Int
  cursor : Option Stmt

def Answer.observe {σ : Type} (a : Answer σ) : Observation σ :=
  match a with
  | .ok done m =>
    { ending := if done then .done else .suspended, host := m.host, table := m.table, left := m.run.budget,
      cursor := m.run.cursor }
  | .error f m =>
    { ending := .raised f, host := m.host, table := m.table, left := m.run.budget, cursor := m.run.cursor }

/-- The machine on which the root is executed again after a walk that did not reach the cursor. -/
def Machine.restarted {σ : Type} (m : Machine σ) : Machine σ :=
  { m with run := m.run.complete, log := m.log.push (.notFound m.run.cursorText) }

namespace Stage

variable {σ : Type}

def observe (result : Except Fault Unit × Stage σ) : Observation σ where
  ending :=
    match result.1 with
    | .ok () => if result.2.program.isFinished then .done else .suspended
    | .error f => .raised f
  host := result.2.host
  table := result.2.program.globals
  left := result.2.program.state.budget
  cursor := result.2.program.state.cursor

def started (s : Stage σ) : Machine σ :=
  let run := s.program.state.start s.program.maxStatements
  { s.machine with run, log := s.log.push (.started run.cursorText) }

def answer (game : Game σ) (s : Stage σ) : Answer σ :=
  andThen ((s.setting game).execute s.program.root s.started) fun m =>
    if m.run.seeking then (s.setting game).execute s.program.root m.restarted else .ok true m

private theorem run_runRoot (setting : Setting σ) (root : Stmt) (m : Machine σ) :
    EStateM.run (Exec.runRoot setting root) m =
      andThen (setting.execute root { m with log := m.log.push (.started m.run.cursorText) }) fun m =>
        if m.run.seeking then setting.execute root m.restarted else .ok true m := by
  unfold Exec.runRoot
  rw [Exec.run_state_bind]
  show EStateM.run (_ >>= fun b => if b = true then _ else pure false)
    { m with log := m.log.push (.started m.run.cursorText) } = _
  rw [Exec.run_andThen]
  congr 1
  funext m'
  rw [Exec.run_state_bind, Exec.run_ite]
  rfl

def completed (m : Machine σ) : Machine σ :=
  { m with run := m.run.complete, log := m.log.push (.finished m.run.budget) }

def suspended (m : Machine σ) : Machine σ :=
  { m with run := { m.run with finished := false }, log := m.log.push (.suspended m.run.cursorText) }

/-- A run that is not refused writes down the outcome of its answer. -/
theorem run_eq (game : Game σ) (s : Stage σ) (ready : s.program.refusal? game.world s.host = none) :
    s.run game =
      match s.answer game with
      | .ok true m => (.ok (), s.absorb (completed m))
      | .ok false m => (.ok (), s.absorb (suspended m))
      | .error f m => (.error f, { s.absorb m with program := (s.absorb m).program.terminate }) := by
  have root : EStateM.run (Exec.runRoot (s.setting game) s.program.root)
      { s.machine with run := s.program.state.start s.program.maxStatements } = s.answer game :=
    run_runRoot _ _ _
  have ending : Exec.runToEnd (s.setting game) s.program.root
      { s.machine with run := s.program.state.start s.program.maxStatements } =
      EStateM.run (Exec.runToEnd (s.setting game) s.program.root)
        { s.machine with run := s.program.state.start s.program.maxStatements } := rfl
  unfold run
  rw [ready]
  dsimp only
  rw [ending, Exec.runToEnd, EStateM.run_bind, root]
  obtain ⟨m, ran⟩ | ⟨m, ran⟩ | ⟨f, m, ran⟩ := (s.answer game).cases_on
  · rw [ran]
    rfl
  · rw [ran]
    rfl
  · rw [ran]

theorem started_mode (s : Stage σ) : s.started.run.finished = true → s.started.run.cursor = none := by
  intro finished
  exact Option.isNone_iff_eq_none.mp finished

/-- A run that completed is live, with no cursor left. -/
theorem answer_done {game : Game σ} {s : Stage σ} {m : Machine σ} (done : s.answer game = .ok true m) :
    m.run.Live := by
  have first := (s.setting game).execute_seeking_or_live s.started_mode s.program.root
  unfold answer at done
  obtain ⟨m', ran⟩ | ⟨m', ran⟩ | ⟨f, m', ran⟩ :=
    ((s.setting game).execute s.program.root s.started).cases_on
  · rw [ran] at done first
    rw [andThen_true] at done
    cases seeking : m'.run.seeking with
    | true =>
      rw [seeking, if_pos rfl] at done
      have second := (s.setting game).execute_live (m := m'.restarted) ⟨rfl, rfl⟩ s.program.root
      rw [done] at second
      exact second
    | false =>
      rw [seeking, if_neg (by simp)] at done
      cases done
      have finished : m.run.finished = true := by simpa [RunState.seeking] using seeking
      exact ⟨finished, first finished⟩
  · rw [ran] at done
    cases done
  · rw [ran] at done
    cases done

/-- What can be observed of a run is what can be observed of its answer. -/
theorem observe_run (game : Game σ) (s : Stage σ) (ready : s.program.refusal? game.world s.host = none) :
    observe (s.run game) = (s.answer game).observe := by
  rw [run_eq game s ready]
  obtain ⟨m, ran⟩ | ⟨m, ran⟩ | ⟨f, m, ran⟩ := (s.answer game).cases_on
  · have live := answer_done ran
    rw [ran]
    show _ = ({ ending := .done, host := m.host, table := m.table, left := m.run.budget,
                cursor := m.run.cursor } : Observation σ)
    rw [live.2]
    rfl
  · rw [ran]
    rfl
  · rw [ran]
    rfl

end Stage

def Stage.withBudget {σ : Type} (s : Stage σ) (n : Int) : Stage σ :=
  { s with program := { s.program with maxStatements := n } }

/-- A computation that gives a value succeeds with it. -/
theorem ok_of_toOption {ε α : Type} {x : Except ε α} {a : α} (given : x.toOption = some a) : x = .ok a := by
  cases x with
  | ok b => exact congrArg Except.ok (Option.some.inj given)
  | error e => cases given

theorem ok_getD_of_isSome {ε α : Type} [Inhabited α] {x : Except ε α} (given : x.toOption.isSome = true) :
    x = .ok (x.toOption.getD default) := by
  cases x with
  | ok a => rfl
  | error e => cases given

/-- A game with one worm, whose handler writes down what it is asked for. -/
def soloGame : Game (List String) where
  world :=
    { owner := fun _ _ => "worm"
      shown := fun _ _ => .ok "worm"
      written := fun _ _ => "worm"
      isPlaced := fun _ _ => true
      number := fun _ _ _ => .error .capability
      team := fun _ _ => .ok none
      kind := fun _ _ => some .worm
      members := fun _ _ => .ok [⟨0⟩]
      hasPlace := fun _ _ => false
      heading := fun _ _ => .error .capability
      search := fun _ _ _ => .error { cause := .noWorld } }
  handler :=
    { perform := fun _ deed record => (.ok true, record ++ [deed.word])
      print := fun text record => (.ok (), record ++ [text]) }

/-- The place of a stretch of the first line. -/
def onFirstLine (start stop : Int) : Option Position :=
  some { line := some 1, column := some start, endLine := some 1, endColumn := some stop }

namespace Sentry

/-- A program that passes a loop over worms on its way to the loop where it stops. -/
def source : String :=
  "entity v; entity w; foreach (worm, v) do \x7b \x7d v := null; " ++
    "foreach (worm, w) do \x7b if false then \x7b \x7d else \x7b while true \x7b print w; \x7d \x7d \x7d"

def watch : Stmt :=
  .loop ⟨1⟩ (onFirstLine 105 128) (.boolean (onFirstLine 111 115) true)
    (.sequence (onFirstLine 116 128) [.print (onFirstLine 118 126) (.access (onFirstLine 124 125) "w" .entity)])

def path : List Frame :=
  [.sequence (onFirstLine 1 132)
      [.each ⟨0⟩ (onFirstLine 21 45) .worm "v" (.sequence (onFirstLine 42 45) []),
        .assignment (onFirstLine 46 56) "v" (.null (onFirstLine 51 55))] [],
    .each ⟨3⟩ (onFirstLine 57 132) .worm "w",
    .sequence (onFirstLine 78 132) [] [],
    .no ⟨2⟩ (onFirstLine 80 130) (.boolean (onFirstLine 83 88) false) (.sequence (onFirstLine 94 97) []),
    .sequence (onFirstLine 103 130) [] []]

def program : Program where
  root := Frame.plugAll path watch
  globals := { entries := [("v", .ofTy .entity), ("w", .ofTy .entity)] }
  maxStatements := 9

def stage : Stage (List String) where
  program :=
    { program with
      context := { entity? := some ⟨0⟩ }
      state := { budget := 0, finished := false, cursor := some watch } }
  host := []

set_option maxRecDepth 20000 in
theorem parse_source : Program.parse source none none (.ok 9) = .ok program := by
  cbv

end Sentry

end WormLang
