import WormLang.Proofs.Execution.Answer

/-!
What every single step of execution keeps, a whole run keeps: entering a conditional statement, paying, testing a
condition, the effect of a leaf, binding a loop variable and stopping are all that can happen, seeking or live.
From this rule follow the facts about the bookkeeping: a live run stays live, and its cursor stays empty until it
stops.
-/
namespace WormLang

open Answer

/-- An answer that meets one of three conditions, by its kind. -/
def Answer.Meets {σ : Type} (done stopped : Machine σ → Prop) (failed : Fault → Machine σ → Prop) : Answer σ → Prop
  | .ok true m => done m
  | .ok false m => stopped m
  | .error f m => failed f m

/-- An answer whose machine has one of three properties, whatever the fault is. -/
def Answer.Within {σ : Type} (done stopped failed : Machine σ → Prop) (a : Answer σ) : Prop :=
  a.Meets done stopped fun _ => failed

namespace Answer

variable {σ : Type} {done stopped : Machine σ → Prop} {failed : Fault → Machine σ → Prop}

theorem Meets.andThen {a : Answer σ} {next : Machine σ → Answer σ} (first : a.Meets done stopped failed)
    (second : ∀ m, done m → (next m).Meets done stopped failed) :
    (Answer.andThen a next).Meets done stopped failed := by
  obtain ⟨m, rfl⟩ | ⟨m, rfl⟩ | ⟨f, m, rfl⟩ := a.cases_on
  · exact second m first
  · exact first
  · exact first

theorem Within.mono {done' stopped' failed' : Machine σ → Prop} {failed : Machine σ → Prop} {a : Answer σ}
    (within : a.Within done stopped failed) (ofDone : ∀ m, done m → done' m) (ofStopped : ∀ m, stopped m → stopped' m)
    (ofFailed : ∀ m, failed m → failed' m) : a.Within done' stopped' failed' := by
  obtain ⟨m, rfl⟩ | ⟨m, rfl⟩ | ⟨f, m, rfl⟩ := a.cases_on
  · exact ofDone m within
  · exact ofStopped m within
  · exact ofFailed m within

theorem Meets.either {a : Answer σ} {yes no : Machine σ → Answer σ} (test : a.Meets done done failed)
    (ifYes : ∀ m, done m → (yes m).Meets done stopped failed)
    (ifNo : ∀ m, done m → (no m).Meets done stopped failed) :
    (Answer.either a yes no).Meets done stopped failed := by
  obtain ⟨m, rfl⟩ | ⟨m, rfl⟩ | ⟨f, m, rfl⟩ := a.cases_on
  · exact ifYes m test
  · exact ifNo m test
  · exact test

theorem Meets.leaving {a : Answer σ} {node : Stmt} (inside : a.Meets done stopped failed)
    (suspend : ∀ m, stopped m → stopped (m.onRun (·.suspendAt node))) :
    (Answer.leaving node a).Meets done stopped failed := by
  obtain ⟨m, rfl⟩ | ⟨m, rfl⟩ | ⟨f, m, rfl⟩ := a.cases_on
  · exact inside
  · exact suspend m inside
  · exact inside

end Answer

namespace Exec

variable {σ α β : Type}

def machineOf : EStateM.Result Fault (Machine σ) α → Machine σ
  | .ok _ m => m
  | .error _ m => m

/-- What holds of the machine of every kind of answer holds of the machine after it. -/
theorem of_within {p : Machine σ → Prop} {a : Answer σ} (within : a.Within p p p) : p (machineOf a) := by
  obtain ⟨m, rfl⟩ | ⟨m, rfl⟩ | ⟨f, m, rfl⟩ := a.cases_on <;> exact within

/-- A computation that leaves the bookkeeping of the run alone, also when it fails. -/
def SparesRun (x : Exec σ α) : Prop := ∀ m, (machineOf (EStateM.run x m)).run = m.run

namespace SparesRun

theorem pure (a : α) : SparesRun (Pure.pure a : Exec σ α) := fun _ => rfl

theorem fail (cause : Cause) (at? : Option Position) : SparesRun (Exec.fail cause at? : Exec σ α) := fun _ => rfl

theorem get : SparesRun (MonadState.get : Exec σ (Machine σ)) := fun _ => rfl

theorem ofExcept (x : Except Fault α) : SparesRun (Exec.ofExcept x : Exec σ α) := by
  intro m
  cases x <;> rfl

theorem note (n : Note) : SparesRun (Exec.note n : Exec σ Unit) := fun _ => rfl

theorem setVariable (name : String) (v : Variable) : SparesRun (Exec.setVariable name v : Exec σ Unit) :=
  fun _ => rfl

theorem bind {x : Exec σ α} {f : α → Exec σ β} (first : SparesRun x) (next : ∀ a, SparesRun (f a)) :
    SparesRun (x >>= f) := by
  intro m
  have here := first m
  rw [EStateM.run_bind]
  cases ran : EStateM.run x m with
  | error e m' =>
    rw [ran] at here
    exact here
  | ok a m' =>
    rw [ran] at here
    exact (next a m').trans here

variable (setting : Setting σ)

theorem eval (e : Expr) : SparesRun (Exec.eval setting e) := by
  intro m
  rw [run_eval]
  cases EStateM.run ((setting.env m).eval e) m.log <;> rfl

theorem perform (me : EntityId) (deed : Deed) : SparesRun (Exec.perform setting me deed) := by
  intro m
  show (machineOf (Exec.perform setting me deed m)).run = m.run
  unfold Exec.perform
  split <;> rfl

theorem printText (text : String) : SparesRun (Exec.printText setting text) := by
  intro m
  show (machineOf (Exec.printText setting text m)).run = m.run
  unfold Exec.printText
  split <;> rfl

theorem attempt (me : EntityId) (a : Action) : SparesRun (Exec.attempt setting me a) := by
  cases a with
  | turn angle => exact (eval setting angle).bind fun v => perform setting me (.turn v.toNumber)
  | fire power =>
    exact (eval setting power).bind fun v => (ofExcept (wholePart v.toNumber)).bind fun n =>
      perform setting me (.fire n)
  | move => exact perform setting me .move
  | jump => exact perform setting me .jump
  | toggleWeapon => exact perform setting me .toggleWeapon
  | skip => exact pure true

/-- The effect of a leaf leaves the bookkeeping alone. -/
theorem effect (s : Stmt) : SparesRun (setting.effect s) := by
  cases s with
  | assignment at? name e =>
    refine get.bind fun m => ?_
    split
    · exact fail _ _
    · refine (eval setting e).bind fun value => ?_
      split
      · exact (setVariable name _).bind fun _ => pure true
      · exact fail _ _
  | print at? e =>
    exact (eval setting e).bind fun value => (ofExcept _).bind fun _ => get.bind fun m =>
      (ofExcept _).bind fun text => (printText setting text).bind fun _ => pure true
  | action at? a =>
    refine (ofExcept _).bind fun me => (attempt setting me a).bind fun done => ?_
    split
    · exact pure true
    · exact (note _).bind fun _ => pure false
  | _ => exact pure true

theorem test (c : Expr) : SparesRun (do return (← Exec.eval setting c).toBool : Exec σ Bool) :=
  (eval setting c).bind fun v => pure v.toBool

end SparesRun

/-- A computation on a machine gives a result and a machine of one kind, or a fault and a machine of another. -/
def Meets (done : α → Machine σ → Prop) (failed : Fault → Machine σ → Prop) (x : Exec σ α) (m : Machine σ) : Prop :=
  match EStateM.run x m with
  | .ok a m' => done a m'
  | .error f m' => failed f m'

namespace Meets

variable {done : α → Machine σ → Prop} {failed : Fault → Machine σ → Prop} {m : Machine σ}

theorem bind {next : β → Machine σ → Prop} {x : Exec σ α} {f : α → Exec σ β} (first : Meets done failed x m)
    (second : ∀ a m', done a m' → Meets next failed (f a) m') : Meets next failed (x >>= f) m := by
  unfold Meets at first ⊢
  rw [EStateM.run_bind]
  cases ran : EStateM.run x m with
  | ok a m' =>
    rw [ran] at first
    exact second a m' first
  | error g m' =>
    rw [ran] at first
    exact first

theorem get_bind {next : β → Machine σ → Prop} {f : Machine σ → Exec σ β} (second : Meets next failed (f m) m) :
    Meets next failed (MonadState.get >>= f) m := second

theorem mono {done' : α → Machine σ → Prop} {failed' : Fault → Machine σ → Prop} {x : Exec σ α}
    (meets : Meets done failed x m) (ok : ∀ a m', done a m' → done' a m')
    (error : ∀ f m', failed f m' → failed' f m') : Meets done' failed' x m := by
  unfold Meets at meets ⊢
  split
  · next ran =>
    rw [ran] at meets
    exact ok _ _ meets
  · next ran =>
    rw [ran] at meets
    exact error _ _ meets

theorem ofExcept {x : Except Fault α} (ok : ∀ a, x = .ok a → done a m) (error : ∀ f, x = .error f → failed f m) :
    Meets done failed (Exec.ofExcept x) m := by
  cases x with
  | ok a => exact ok a rfl
  | error f => exact error f rfl

/-- Evaluation changes nothing but the log, also when it fails. -/
theorem eval {setting : Setting σ} {p : Machine σ → Prop} (kept : ∀ log, p { m with log }) (e : Expr) :
    Meets (fun _ => p) (fun _ => p) (Exec.eval setting e) m := by
  unfold Meets
  rw [Exec.run_eval]
  cases EStateM.run ((setting.env m).eval e) m.log with
  | ok v log => exact kept log
  | error f log => exact kept log

/-- What is left of a run that goes on, whether its last statement came to an end or refused. -/
theorem answer {going : Machine σ → Prop} {x : Exec σ Bool} (meets : Meets (fun _ => going) failed x m) :
    Answer.Meets going going failed (EStateM.run x m) := by
  unfold Meets at meets
  obtain ⟨m', ran⟩ | ⟨m', ran⟩ | ⟨f, m', ran⟩ := Answer.cases_on (EStateM.run x m)
  all_goals
    rw [ran] at meets ⊢
    exact meets

end Meets

end Exec

namespace Setting

variable {σ : Type} (setting : Setting σ)

/-- What the single steps of execution inside statements that are good keep: a property of the machines of a run that
goes on, one of the machines of a run that stops, and one of the faults and machines of a run that fails. A run may
stop anywhere. -/
structure Guards (good : Stmt → Prop) (going stopped : Machine σ → Prop) (failed : Fault → Machine σ → Prop) :
    Prop where
  stop : ∀ m, going m → stopped m
  pay : ∀ m, going m → m.run.exhausted = false → going (m.onRun RunState.charge)
  resume : ∀ m, going m → going (m.onRun RunState.resume)
  suspend : ∀ m node, stopped m → stopped (m.onRun (·.suspendAt node))
  bind : ∀ id at? kind name body, good (.each id at? kind name body) → ∀ m e, going m → going (m.bound name e)
  fetch : ∀ id at? kind name body, good (.each id at? kind name body) → ∀ m, going m → ∀ f,
    setting.members at? kind name m = .error f → failed f m
  test : ∀ s c, good s → s.condition? = some c → ∀ m, going m → (setting.test c m).Meets going going failed
  effect : ∀ s, good s → s.isLeaf = true → ∀ m, going m →
    Answer.Meets going stopped failed (EStateM.run (setting.effect s) m)
  gap : ∀ fault, good (.placeholder fault) → ∀ m, going m →
    failed { cause := .placeholderExecuted, position := fault.position } m

namespace Guards

variable {setting} {good : Stmt → Prop} {going stopped : Machine σ → Prop} {failed : Fault → Machine σ → Prop}

theorem entered (guards : setting.Guards good going stopped failed) {m : Machine σ} (h : going m)
    (paid : m.run.exhausted = false) (id : NodeId) : going (m.entered id) := by
  unfold Machine.entered
  split
  · split
    · exact guards.pay _ (guards.resume m h) paid
    · exact h
  · exact guards.pay m h paid

theorem turns (guards : setting.Guards good going stopped failed) {c : Expr} {body : Stmt}
    (test : ∀ m, going m → (setting.test c m).Meets going going failed)
    (step : ∀ m, going m → (setting.execute body m).Meets going stopped failed) (n : Nat) (m : Machine σ)
    (h : going m) : (setting.turns c body n m).Meets going stopped failed := by
  induction n generalizing m with
  | zero => exact guards.stop m h
  | succ n ih =>
    rw [turns_succ]
    cases paid : m.run.exhausted with
    | true => exact guards.stop m h
    | false =>
      exact (test _ (guards.pay m h paid)).either (fun m' h' => (step m' h').andThen ih) (fun _ h' => h')

theorem visits (guards : setting.Guards good going stopped failed) {name : String} {body : Stmt}
    (bind : ∀ m e, going m → going (m.bound name e))
    (step : ∀ m, going m → (setting.execute body m).Meets going stopped failed) (entities : List EntityId)
    (m : Machine σ) (h : going m) : (setting.visits name body entities m).Meets going stopped failed := by
  induction entities generalizing m with
  | nil => exact h
  | cons e rest ih =>
    rw [visits_cons]
    cases paid : m.run.exhausted with
    | true => exact guards.stop m h
    | false =>
      cases m.run.seeking with
      | true =>
        refine (step _ (bind m e h)).andThen fun m' h' => ?_
        split
        · exact h'
        · exact ih m' h'
      | false => exact (step _ (bind _ e (guards.pay m h paid))).andThen ih

theorem executeAll (body : List Stmt)
    (step : ∀ s ∈ body, ∀ m, going m → (setting.execute s m).Meets going stopped failed) (m : Machine σ)
    (h : going m) : (setting.executeAll body m).Meets going stopped failed := by
  induction body generalizing m with
  | nil =>
    rw [executeAll_nil]
    exact h
  | cons s rest ih =>
    rw [executeAll_cons]
    exact (step s List.mem_cons_self m h).andThen
      (ih fun t member => step t (List.mem_cons_of_mem _ member))

/-- The inside of a conditional statement keeps what the statements in it keep. -/
theorem interior (guards : setting.Guards good going stopped failed) {s : Stmt} (own : good s)
    (step : ∀ t ∈ s.children, ∀ m, going m → (setting.execute t m).Meets going stopped failed) (m : Machine σ)
    (h : going m) : (setting.interior s m).Meets going stopped failed := by
  cases s with
  | branch id at? c yes no =>
    have ifYes := step yes (by simp [Stmt.children])
    have ifNo := step no (by simp [Stmt.children])
    rw [Setting.interior]
    split
    · refine (ifYes m h).andThen fun m' h' => ?_
      split
      · exact ifNo m' h'
      · exact h'
    · exact (guards.test _ c own rfl m h).either ifYes ifNo
  | loop id at? c body =>
    have inside := step body (by simp [Stmt.children])
    have turns := guards.turns (guards.test _ c own rfl) inside
    rw [Setting.interior]
    split
    · refine (inside m h).andThen fun m' h' => ?_
      split
      · exact h'
      · exact turns _ m' h'
    · exact turns _ m h
  | each id at? kind name body =>
    have inside := step body (by simp [Stmt.children])
    rw [Setting.interior]
    split
    · exact guards.visits (guards.bind id at? kind name body own) inside _ m h
    · next f unfetched => exact guards.fetch id at? kind name body own m h f unfetched
  | sequence | assignment | print | action | placeholder => exact h

/-- A whole run keeps what its steps keep. -/
theorem execute (guards : setting.Guards good going stopped failed) (s : Stmt) :
    (∀ t ∈ s.walk, good t) → ∀ m, going m → (setting.execute s m).Meets going stopped failed := by
  induction s using Stmt.conditional_induction with
  | sequence at? body ih =>
    intro goods m h
    obtain ⟨-, inner⟩ := Stmt.forall_walk_iff.mp goods
    rw [execute_sequence]
    exact executeAll body (fun s member => ih s member (inner s member)) m h
  | conditional s id own ih =>
    intro goods m h
    obtain ⟨here, inner⟩ := Stmt.forall_walk_iff.mp goods
    have inside := guards.interior here fun t child => ih t child (inner t child)
    cases paid : m.run.exhausted with
    | true =>
      rw [setting.execute_of_exhausted own paid]
      exact guards.suspend m s (guards.stop m h)
    | false =>
      rw [setting.execute_of_paid own paid]
      exact (inside _ (guards.entered h paid id)).leaving fun m => guards.suspend m s
  | leaf s isLeaf =>
    intro goods m h
    rw [setting.execute_leaf isLeaf]
    cases paid : m.run.exhausted with
    | true => exact guards.stop m h
    | false =>
      cases m.run.seeking with
      | true => exact h
      | false => exact guards.effect s (goods s s.mem_walk_self) isLeaf _ (guards.pay m h paid)
  | placeholder fault =>
    intro goods m h
    rw [execute_placeholder]
    exact guards.gap fault (goods _ (Stmt.mem_walk_self _)) m h

end Guards

/-- What the single steps of execution keep, whatever the statements are and however a run fails. -/
structure Keeps (going stopped failed : Machine σ → Prop) : Prop where
  stop : ∀ m, going m → stopped m
  fail : ∀ m, going m → failed m
  pay : ∀ m, going m → m.run.exhausted = false → going (m.onRun RunState.charge)
  resume : ∀ m, going m → going (m.onRun RunState.resume)
  suspend : ∀ m node, stopped m → stopped (m.onRun (·.suspendAt node))
  bind : ∀ m name e, going m → going (m.bound name e)
  test : ∀ m c, going m → (setting.test c m).Within going going failed
  effect : ∀ m s, s.isLeaf = true → going m →
    Answer.Within going stopped failed (EStateM.run (setting.effect s) m)

namespace Keeps

variable {setting} {going stopped failed : Machine σ → Prop}

theorem guards (keeps : setting.Keeps going stopped failed) :
    setting.Guards (fun _ => True) going stopped fun _ => failed where
  stop := keeps.stop
  pay := keeps.pay
  resume := keeps.resume
  suspend := keeps.suspend
  bind _ _ _ name _ _ m e := keeps.bind m name e
  fetch _ _ _ _ _ _ m h _ _ := keeps.fail m h
  test _ c _ _ m := keeps.test m c
  effect s _ isLeaf m := keeps.effect m s isLeaf
  gap _ _ m := keeps.fail m

/-- A whole run keeps what its steps keep. -/
theorem execute (keeps : setting.Keeps going stopped failed) (s : Stmt) :
    ∀ m, going m → (setting.execute s m).Within going stopped failed :=
  keeps.guards.execute s fun _ _ => trivial

theorem interior (keeps : setting.Keeps going stopped failed) (s : Stmt) (m : Machine σ) (h : going m) :
    (setting.interior s m).Within going stopped failed :=
  keeps.guards.interior trivial (fun t _ => keeps.execute t) m h

end Keeps

/-- A property of the bookkeeping alone is kept by tests and by the effects of leaves. -/
theorem within_of_sparesRun {x : Exec σ Bool} (spares : Exec.SparesRun x) {p : RunState Stmt → Prop}
    {m : Machine σ} (h : p m.run) :
    Answer.Within (fun m => p m.run) (fun m => p m.run) (fun m => p m.run) (EStateM.run x m) := by
  have same := spares m
  obtain ⟨m', ran⟩ | ⟨m', ran⟩ | ⟨f, m', ran⟩ := Answer.cases_on (EStateM.run x m)
  all_goals
    rw [ran] at same ⊢
    show p m'.run
    rw [show m'.run = m.run from same]
    exact h

/-- Rules about the bookkeeping alone, which tests and effects cannot break. -/
theorem keeps_of_run {going stopped failed : RunState Stmt → Prop} (stop : ∀ s, going s → stopped s)
    (fail : ∀ s, going s → failed s) (pay : ∀ s, going s → s.exhausted = false → going s.charge)
    (resume : ∀ s, going s → going s.resume) (suspend : ∀ s node, stopped s → stopped (s.suspendAt node)) :
    setting.Keeps (fun m => going m.run) (fun m => stopped m.run) (fun m => failed m.run) where
  stop m := stop m.run
  fail m := fail m.run
  pay m := pay m.run
  resume m := resume m.run
  suspend m := suspend m.run
  bind _ _ _ h := h
  test m c h := by
    have kept := within_of_sparesRun (Exec.SparesRun.test setting c) h
    obtain ⟨m', ran⟩ | ⟨m', ran⟩ | ⟨f, m', ran⟩ := (setting.test c m).cases_on
    all_goals
      rw [ran]
      rw [test] at ran
      rw [ran] at kept
    · exact kept
    · exact kept
    · exact fail _ kept
  effect m s _ h := by
    have kept := within_of_sparesRun (Exec.SparesRun.effect setting s) h
    obtain ⟨m', ran⟩ | ⟨m', ran⟩ | ⟨f, m', ran⟩ := Answer.cases_on (EStateM.run (setting.effect s) m)
    all_goals
      rw [ran] at kept ⊢
    · exact kept
    · exact stop _ kept
    · exact fail _ kept

end Setting

/-- A run is live and has not stopped. -/
def RunState.Live (s : RunState Stmt) : Prop := s.finished = true ∧ s.cursor = none

namespace Setting

variable {σ : Type} (setting : Setting σ)

/-- A live run stays live, and its cursor stays empty until it stops. -/
theorem keeps_live : setting.Keeps (·.run.Live) (·.run.finished = true) (·.run.Live) := by
  have suspend : ∀ (s : RunState Stmt) node, s.finished = true → (s.suspendAt node).finished = true := by
    intro s node h
    unfold RunState.suspendAt
    split <;> exact h
  exact @keeps_of_run σ setting RunState.Live (·.finished = true) RunState.Live (fun _ h => h.1)
    (fun _ h => h) (fun _ h _ => h) (fun _ _ => ⟨rfl, rfl⟩) suspend

theorem execute_live {m : Machine σ} (live : m.run.Live) (s : Stmt) :
    (setting.execute s m).Within (·.run.Live) (·.run.finished = true) (·.run.Live) :=
  setting.keeps_live.execute s m live

/-- A run that has reached its cursor is live, and its cursor stays empty until it stops. -/
theorem execute_seeking_or_live {m : Machine σ} (mode : m.run.finished = true → m.run.cursor = none) (s : Stmt) :
    (setting.execute s m).Within (fun m => m.run.finished = true → m.run.cursor = none) (fun _ => True)
      (fun _ => True) := by
  have keeps := @keeps_of_run σ setting (fun s => s.finished = true → s.cursor = none) (fun _ => True)
    (fun _ => True) (fun _ _ => trivial) (fun _ _ => trivial) (fun _ h _ => h) (fun _ _ _ => rfl)
    (fun _ _ _ => trivial)
  exact keeps.execute s m mode

end Setting

namespace Answer

variable {σ : Type}

/-- After an answer that is live, nobody seeks. -/
theorem andThen_of_live {a : Answer σ} {stopped failed : Machine σ → Prop}
    (live : a.Within (·.run.Live) stopped failed) (seeking next : Machine σ → Answer σ) :
    (andThen a fun m => if m.run.seeking then seeking m else next m) = andThen a next := by
  obtain ⟨m, rfl⟩ | ⟨m, rfl⟩ | ⟨f, m, rfl⟩ := a.cases_on
  · have found : m.run.seeking = false := by
      have finished : m.run.finished = true := live.1
      simp [RunState.seeking, finished]
    simp [found]
  · rfl
  · rfl

theorem andThen_done (a : Answer σ) : andThen a (.ok true) = a := by
  obtain ⟨m, rfl⟩ | ⟨m, rfl⟩ | ⟨f, m, rfl⟩ := a.cases_on <;> rfl

end Answer

end WormLang
