import WormLang.Proofs.Execution.Mirror
import WormLang.Proofs.Execution.Resumption

/-!
The debug log is written and never read: with more lines in front of it, everything that a run does is the same, and
the lines stay where they are. What can be observed of a run does not depend on the log.
-/
namespace WormLang

open Answer

namespace Evaluation

variable {α : Type} {earlier : Log}

theorem mirrors_ofExcept (x : Except Fault α) : Mirrors (earlier ++ ·) (Evaluation.ofExcept x) (Evaluation.ofExcept x) := by
  cases x with
  | ok a => exact .pure a
  | error f => exact .throw f

theorem mirrors_note (n : Note) : Mirrors (earlier ++ ·) (Evaluation.note n) (Evaluation.note n) := by
  intro log
  show EStateM.Result.ok () ((earlier ++ log).push n) = .ok () (earlier ++ log.push n)
  rw [Array.append_push]

end Evaluation

namespace Env

open Evaluation

variable {σ α : Type} (env : Env σ) {earlier : Log}

theorem mirrors_ask (at? : Option Position) (capability : String) (read : EntityId → Except Lack α) (h : Handle) :
    Mirrors (earlier ++ ·) (env.ask at? capability read h) (env.ask at? capability read h) := by
  cases h with
  | null => exact .throw _
  | thing t => exact .throw _
  | being id =>
    unfold ask
    dsimp only
    split
    · exact .pure _
    · exact .throw _
    · exact .throw _

theorem mirrors_readVariable (at? : Option Position) (name : String) (t : Ty) :
    Mirrors (earlier ++ ·) (env.readVariable at? name t) (env.readVariable at? name t) := by
  refine (mirrors_ofExcept _).bind fun v => ?_
  split
  · exact .pure _
  · exact .throw _

theorem mirrors_lookAround (at? : Option Position) (offset : Float) :
    Mirrors (earlier ++ ·) (env.lookAround at? offset) (env.lookAround at? offset) := by
  refine (mirrors_ofExcept _).bind fun me => (env.mirrors_ask _ _ _ _).bind fun _ =>
    (env.mirrors_ask _ _ _ _).bind fun heading => (mirrors_ofExcept _).bind fun _ =>
    (mirrors_ofExcept _).bind fun base => (mirrors_ofExcept _).bind fun seen => ?_
  split
  · exact (mirrors_note _).bind fun _ => .pure _
  · exact (mirrors_note _).bind fun _ => .pure _

/-- Evaluation does not read the log. -/
theorem mirrors_eval (e : Expr) : Mirrors (earlier ++ ·) (env.eval e) (env.eval e) := by
  induction e with
  | number | boolean | null => exact .pure _
  | self => exact (mirrors_ofExcept _).bind fun _ => .pure _
  | access at? name t => exact env.mirrors_readVariable at? name t
  | arithmetic at? op l r ihLeft ihRight | order at? op l r ihLeft ihRight | equality at? op l r ihLeft ihRight =>
    exact ihLeft.bind fun _ => ihRight.bind fun _ => .pure _
  | logical at? op l r ihLeft ihRight =>
    refine ihLeft.bind fun v => ?_
    dsimp only
    split
    · exact .pure _
    · exact .pure _
    · exact ihRight.bind fun _ => .pure _
  | math at? f e ih | negation at? e ih | isKind at? k e ih => exact ih.bind fun _ => .pure _
  | query at? q e ih => exact ih.bind fun v => (env.mirrors_ask _ _ _ _).bind fun _ => .pure _
  | sameTeam at? e ih =>
    exact ih.bind fun v => (env.mirrors_ask _ _ _ _).bind fun _ => (mirrors_ofExcept _).bind fun _ =>
      (env.mirrors_ask _ _ _ _).bind fun _ => .pure _
  | search at? e ih => exact ih.bind fun v => (env.mirrors_lookAround at? _).bind fun _ => .pure _
  | placeholder fault => exact .throw _

end Env

namespace Machine

variable {σ : Type}

/-- Put lines in front of the log. -/
def since (earlier : Log) (m : Machine σ) : Machine σ := { m with log := earlier ++ m.log }

end Machine

namespace Exec

variable {σ : Type} (setting : Setting σ) {earlier : Log}

theorem mirrors_note (n : Note) : Mirrors (Machine.since earlier) (note n : Exec σ Unit) (note n) := by
  intro m
  show EStateM.Result.ok () { m with log := (earlier ++ m.log).push n } =
    .ok () { m with log := earlier ++ m.log.push n }
  rw [Array.append_push]

theorem mirrors_eval (e : Expr) : Mirrors (Machine.since earlier) (eval setting e) (eval setting e) := by
  intro m
  have mirrored : EStateM.run ((setting.env m).eval e) (earlier ++ m.log) = _ := (setting.env m).mirrors_eval e m.log
  rw [run_eval, run_eval, show setting.env (m.since earlier) = setting.env m from rfl,
    show (m.since earlier).log = earlier ++ m.log from rfl, mirrored]
  cases EStateM.run ((setting.env m).eval e) m.log <;> rfl

theorem mirrors_perform (me : EntityId) (deed : Deed) :
    Mirrors (Machine.since earlier) (perform setting me deed) (perform setting me deed) := by
  intro m
  show perform setting me deed (m.since earlier) = Outcome.onState _ (perform setting me deed m)
  unfold perform
  rw [show (m.since earlier).host = m.host from rfl]
  split <;> rfl

theorem mirrors_printText (text : String) :
    Mirrors (Machine.since earlier) (printText setting text) (printText setting text) := by
  intro m
  show printText setting text (m.since earlier) = Outcome.onState _ (printText setting text m)
  unfold printText
  rw [show (m.since earlier).host = m.host from rfl]
  split <;> rfl

end Exec

namespace Answer

variable {σ : Type} {earlier : Log}

/-- Put lines in front of the log of an answer. -/
def since (earlier : Log) (a : Answer σ) : Answer σ := Outcome.onState (Machine.since earlier) a

/-- What can be observed does not depend on the log. -/
theorem observe_since (a : Answer σ) : (a.since earlier).observe = a.observe := by
  obtain ⟨m, rfl⟩ | ⟨m, rfl⟩ | ⟨f, m, rfl⟩ := a.cases_on <;> rfl

end Answer

namespace Setting

variable {σ : Type} (setting : Setting σ) {earlier : Log}

/-- Execution does not read the log: a machine with more lines in front of its log is a twin. -/
theorem twin_since : setting.Twin setting (Machine.since earlier) where
  context := rfl
  table _ := rfl
  written _ := rfl
  shown _ := rfl
  eval := Exec.mirrors_eval setting
  perform := Exec.mirrors_perform setting
  printText := Exec.mirrors_printText setting
  setVariable _ _ _ := rfl
  note := Exec.mirrors_note
  run _ := rfl
  onRun _ _ := rfl
  bound _ _ _ := rfl
  members _ _ _ _ := rfl

/-- What can be observed of an execution is the same on any log. -/
theorem observe_execute (s : Stmt) (m : Machine σ) (log : Log) :
    (setting.execute s { m with log }).observe = (setting.execute s m).observe := by
  have any : ∀ log, (setting.execute s { m with log }).observe =
      (setting.execute s { m with log := #[] }).observe := by
    intro log
    have split : { m with log } = ({ m with log := #[] } : Machine σ).since log := by simp [Machine.since]
    rw [split, setting.twin_since.execute]
    exact observe_since _
  exact (any log).trans (any m.log).symm

/-- What is left to do does not read the log either. -/
theorem continuation_since {walk : List Stmt → Machine σ → Machine σ}
    (spares : ∀ body m, walk body (m.since earlier) = (walk body m).since earlier) (frames : List Frame) (c : Stmt)
    (m : Machine σ) :
    setting.continuation walk frames c (m.since earlier) = (setting.continuation walk frames c m).since earlier := by
  have twin : setting.Twin setting (Machine.since earlier) := setting.twin_since
  induction frames generalizing m with
  | nil => exact twin.execute c m
  | cons f frames ih =>
    cases f with
    | sequence at? before after =>
      rw [continuation_cons, continuation_cons, finish, finish, spares, ih]
      exact andThen_onState fun m => Twin.executeAll (fun s _ => twin.execute s) m
    | yes id at? condition no =>
      rw [continuation_cons, continuation_cons, finish, finish, ih]
      exact twin.leaving _ _
    | no id at? condition yes =>
      rw [continuation_cons, continuation_cons, finish, finish, spares, ih]
      exact twin.leaving _ _
    | loop id at? condition =>
      rw [continuation_cons, continuation_cons, finish, finish, ih, since, since, ← twin.leaving]
      exact congrArg _ (andThen_onState fun m' => twin.turns condition (twin.execute _) _ m')
    | each id at? kind name =>
      rw [continuation_cons, continuation_cons, finish, finish, twin.members, since, ← twin.leaving]
      split
      · rw [← twin.bound, ih]
        exact congrArg _ (andThen_onState (twin.visits name (twin.execute _) _))
      · rfl
      · rfl

/-- What can be observed of what is left to do is the same on any log. -/
theorem observe_continuation {walk : List Stmt → Machine σ → Machine σ}
    (spares : ∀ earlier body m, walk body (m.since earlier) = (walk body m).since earlier) (frames : List Frame)
    (c : Stmt) (m : Machine σ) (log : Log) :
    (setting.continuation walk frames c { m with log }).observe = (setting.continuation walk frames c m).observe := by
  have any : ∀ log, (setting.continuation walk frames c { m with log }).observe =
      (setting.continuation walk frames c { m with log := #[] }).observe := by
    intro log
    have split : { m with log } = ({ m with log := #[] } : Machine σ).since log := by simp [Machine.since]
    rw [split, setting.continuation_since (spares log), observe_since]
  exact (any log).trans (any m.log).symm

end Setting

end WormLang
