import WormLang.Proofs.Execution.Mirror
import WormLang.Proofs.Execution.Run
import WormLang.Sandbox.Arena

/-!
The calls that a run makes to its handler, with what the handler answers. A handler of any game can be made to keep a
record of its calls beside its host state; the run is the same when the record is forgotten.
-/
namespace WormLang

open Answer

/-- A call of the handler and its answer. -/
inductive HandlerCall where
  | deed (me : EntityId) (deed : Deed) (answer : Except Fault Bool)
  | text (text : String) (answer : Except Fault Unit)

/-- Whether a call asked for a deed that was refused. -/
def HandlerCall.isRefusal : HandlerCall → Bool
  | deed _ _ (.ok false) => true
  | _ => false

/-- Whether the last one of some calls asked for a deed that was refused. -/
def HandlerCall.endsRefused (calls : List HandlerCall) : Bool := calls.getLast?.any isRefusal

/-- The same game with a record of the handler's calls beside the host state. -/
def Game.recording {σ : Type} (game : Game σ) : Game (σ × List HandlerCall) where
  world := game.world.within Prod.fst
  handler :=
    { perform := fun me deed h =>
        let (answer, host) := game.handler.perform me deed h.1
        (answer, host, h.2 ++ [.deed me deed answer])
      print := fun text h =>
        let (answer, host) := game.handler.print text h.1
        (answer, host, h.2 ++ [.text text answer]) }

namespace Game

variable {σ : Type} (game : Game σ)

theorem perform_recording (me : EntityId) (deed : Deed) (h : σ × List HandlerCall) :
    game.recording.handler.perform me deed h =
      ((game.handler.perform me deed h.1).1, (game.handler.perform me deed h.1).2,
        h.2 ++ [.deed me deed (game.handler.perform me deed h.1).1]) := rfl

theorem print_recording (text : String) (h : σ × List HandlerCall) :
    game.recording.handler.print text h =
      ((game.handler.print text h.1).1, (game.handler.print text h.1).2,
        h.2 ++ [.text text (game.handler.print text h.1).1]) := rfl

end Game

/-- Evaluation in a world that is part of a larger host state reads that part. -/
theorem Env.eval_within {σ τ : Type} (world : World σ) (part : τ → σ) (host : τ) (table : Table Variable)
    (context : Context) (e : Expr) :
    ({ world := world.within part, host, table, context } : Env τ).eval e =
      ({ world, host := part host, table, context } : Env σ).eval e := by
  induction e with
  | arithmetic at? op l r ihLeft ihRight | order at? op l r ihLeft ihRight | equality at? op l r ihLeft ihRight
  | logical at? op l r ihLeft ihRight => simp only [eval, ihLeft, ihRight]
  | math at? f e ih | negation at? e ih => simp only [eval, ih]
  | isKind at? k e ih | query at? q e ih | sameTeam at? e ih | search at? e ih =>
    simp only [eval, ih]
    rfl
  | number | boolean | null | self | access | placeholder => rfl

namespace Machine

variable {σ : Type}

def unrecorded (m : Machine (σ × List HandlerCall)) : Machine σ :=
  { table := m.table, run := m.run, host := m.host.1, log := m.log }

end Machine

namespace Setting

variable {σ : Type}

def recording (setting : Setting σ) : Setting (σ × List HandlerCall) :=
  { game := setting.game.recording, context := setting.context }

/-- Execution does not read the record. -/
theorem twin_unrecorded (setting : Setting σ) : setting.recording.Twin setting Machine.unrecorded where
  context := rfl
  table _ := rfl
  written _ := rfl
  shown _ := rfl
  eval e := by
    intro m
    have same : (setting.recording.env m).eval e = (setting.env m.unrecorded).eval e :=
      Env.eval_within setting.game.world Prod.fst m.host m.table setting.context e
    rw [Exec.run_eval, Exec.run_eval, same, show m.unrecorded.log = m.log from rfl]
    cases EStateM.run ((setting.env m.unrecorded).eval e) m.log <;> rfl
  perform me deed := by
    intro m
    show Exec.perform setting me deed m.unrecorded = Outcome.onState _ (Exec.perform setting.recording me deed m)
    unfold Exec.perform
    rw [show setting.recording.game.handler.perform me deed m.host = _ from
      setting.game.perform_recording me deed m.host]
    rw [show m.unrecorded.host = m.host.1 from rfl]
    obtain ⟨answer, host⟩ := setting.game.handler.perform me deed m.host.1
    cases answer <;> rfl
  printText text := by
    intro m
    show Exec.printText setting text m.unrecorded = Outcome.onState _ (Exec.printText setting.recording text m)
    unfold Exec.printText
    rw [show setting.recording.game.handler.print text m.host = _ from setting.game.print_recording text m.host]
    rw [show m.unrecorded.host = m.host.1 from rfl]
    obtain ⟨answer, host⟩ := setting.game.handler.print text m.host.1
    cases answer <;> rfl
  setVariable _ _ _ := rfl
  note _ _ := rfl
  run _ := rfl
  onRun _ _ := rfl
  bound _ _ _ := rfl
  members _ _ _ _ := rfl

end Setting

namespace Stage

variable {σ : Type}

def recorded (s : Stage σ) : Stage (σ × List HandlerCall) :=
  { program := s.program, host := (s.host, []), log := s.log }

def unrecorded (s : Stage (σ × List HandlerCall)) : Stage σ :=
  { program := s.program, host := s.host.1, log := s.log }

/-- The calls that a run makes to its handler, in order. -/
def calls (game : Game σ) (s : Stage σ) : List HandlerCall := (s.recorded.run game.recording).2.host.2

theorem answer_recorded (game : Game σ) (s : Stage σ) :
    s.answer game = Outcome.onState Machine.unrecorded (s.recorded.answer game.recording) := by
  have twin := (s.setting game).twin_unrecorded
  unfold answer
  rw [show s.started = s.recorded.started.unrecorded from rfl, twin.execute]
  refine andThen_onState fun m => ?_
  rw [twin.run]
  split
  · exact twin.execute s.program.root m.restarted
  · rfl

/-- A run with a record of the handler's calls is the run without it. -/
theorem run_recorded (game : Game σ) (s : Stage σ) :
    s.run game = ((s.recorded.run game.recording).1, (s.recorded.run game.recording).2.unrecorded) := by
  have same : s.recorded.program.refusal? game.recording.world s.recorded.host =
      s.program.refusal? game.world s.host := rfl
  cases ready : s.program.refusal? game.world s.host with
  | some cause =>
    unfold run
    rw [same, ready]
    rfl
  | none =>
    rw [run_eq game s ready, run_eq game.recording s.recorded (same.trans ready), answer_recorded]
    obtain ⟨m, ran⟩ | ⟨m, ran⟩ | ⟨f, m, ran⟩ := (s.recorded.answer game.recording).cases_on
    all_goals
      rw [ran]
      rfl

theorem run_of_refusal {game : Game σ} {s : Stage σ} {cause : Cause}
    (refused : s.program.refusal? game.world s.host = some cause) : s.run game = (.error { cause }, s) := by
  unfold run
  rw [refused]

/-- A run that is refused calls nobody. -/
theorem calls_of_refusal {game : Game σ} {s : Stage σ} {cause : Cause}
    (refused : s.program.refusal? game.world s.host = some cause) : s.calls game = [] := by
  have same : s.recorded.program.refusal? game.recording.world s.recorded.host = some cause := refused
  rw [calls, run_of_refusal same]
  rfl

/-- The calls of a run are in the record on the machine of its answer. -/
theorem calls_eq {game : Game σ} {s : Stage σ} (ready : s.program.refusal? game.world s.host = none) :
    s.calls game = (Exec.machineOf (s.recorded.answer game.recording)).host.2 := by
  have same : s.recorded.program.refusal? game.recording.world s.recorded.host = none := ready
  rw [calls, run_eq game.recording s.recorded same]
  obtain ⟨m, ran⟩ | ⟨m, ran⟩ | ⟨f, m, ran⟩ := (s.recorded.answer game.recording).cases_on
  all_goals
    rw [ran]
    rfl

/-- What can be observed of a run, off its recorded answer. -/
theorem observe_recorded {game : Game σ} {s : Stage σ} (ready : s.program.refusal? game.world s.host = none) :
    observe (s.run game) = Answer.observe (Outcome.onState Machine.unrecorded (s.recorded.answer game.recording)) := by
  rw [observe_run game s ready, answer_recorded]

end Stage

end WormLang
