import WormLang.Proofs.Execution.Answer

/-!
Executions that mirror each other. A view shows a machine as another one, perhaps one of another game. If the single
steps of a leaf do the same on what the view shows, its effect does; if the view also shows the bookkeeping of the run
and the collections of the loops as they are, execution as a whole does the same.
-/
namespace WormLang

open Answer

/-- Show the state that a computation ends in. -/
def Outcome.onState {ε S T α : Type} (view : S → T) : EStateM.Result ε S α → EStateM.Result ε T α
  | .ok a s => .ok a (view s)
  | .error e s => .error e (view s)

/-- A computation mirrors another: on what a view shows of a state it does what the other one does on the state. -/
def Mirrors {ε S T α : Type} (view : S → T) (x : EStateM ε S α) (y : EStateM ε T α) : Prop :=
  ∀ s, EStateM.run y (view s) = Outcome.onState view (EStateM.run x s)

namespace Mirrors

variable {ε S T α β : Type} {view : S → T}

theorem pure (a : α) : Mirrors view (Pure.pure a : EStateM ε S α) (Pure.pure a) := fun _ => rfl

theorem throw (e : ε) : Mirrors view (MonadExcept.throw e : EStateM ε S α) (MonadExcept.throw e) := fun _ => rfl

theorem bind {x : EStateM ε S α} {y : EStateM ε T α} {f : α → EStateM ε S β} {g : α → EStateM ε T β}
    (first : Mirrors view x y) (next : ∀ a, Mirrors view (f a) (g a)) : Mirrors view (x >>= f) (y >>= g) := by
  intro s
  rw [EStateM.run_bind, EStateM.run_bind, first s]
  cases EStateM.run x s with
  | ok a s' => exact next a s'
  | error e s' => rfl

/-- What the mirror reads of the state must be what the view shows of it. -/
theorem get_bind {f : S → EStateM ε S α} {g : T → EStateM ε T α} (next : ∀ s, Mirrors view (f s) (g (view s))) :
    Mirrors view (MonadState.get >>= f) (MonadState.get >>= g) := by
  intro s
  rw [EStateM.run_bind, EStateM.run_bind, EStateM.run_get, EStateM.run_get]
  exact next s s

end Mirrors

variable {σ τ : Type}

/-- A setting mirrors another in the single steps of leaves. -/
structure Setting.Mirror (a : Setting σ) (b : Setting τ) (view : Machine σ → Machine τ) : Prop where
  context : b.context = a.context
  table : ∀ m, (view m).table = m.table
  written : ∀ m, b.game.world.written (view m).host = a.game.world.written m.host
  shown : ∀ m, b.game.world.shown (view m).host = a.game.world.shown m.host
  eval : ∀ e, Mirrors view (Exec.eval a e) (Exec.eval b e)
  perform : ∀ me deed, Mirrors view (Exec.perform a me deed) (Exec.perform b me deed)
  printText : ∀ text, Mirrors view (Exec.printText a text) (Exec.printText b text)
  setVariable : ∀ name v, Mirrors view (Exec.setVariable name v) (Exec.setVariable name v)
  note : ∀ n, Mirrors view (Exec.note n) (Exec.note n)

namespace Setting.Mirror

variable {a : Setting σ} {b : Setting τ} {view : Machine σ → Machine τ}

theorem ofExcept {α : Type} (x : Except Fault α) :
    Mirrors view (Exec.ofExcept x : Exec σ α) (Exec.ofExcept x) := by
  cases x with
  | ok a => exact .pure a
  | error f => exact .throw f

theorem attempt (mirror : Mirror a b view) (me : EntityId) (action : Action) :
    Mirrors view (Exec.attempt a me action) (Exec.attempt b me action) := by
  cases action with
  | turn angle => exact (mirror.eval angle).bind fun v => mirror.perform me _
  | fire power =>
    exact (mirror.eval power).bind fun v => (ofExcept _).bind fun n => mirror.perform me _
  | move => exact mirror.perform me .move
  | jump => exact mirror.perform me .jump
  | toggleWeapon => exact mirror.perform me .toggleWeapon
  | skip => exact .pure true

/-- The effect of a leaf is the same in the mirror. -/
theorem effect (mirror : Mirror a b view) (s : Stmt) : Mirrors view (a.effect s) (b.effect s) := by
  cases s with
  | assignment at? name e =>
    refine .get_bind fun m => ?_
    rw [mirror.table]
    split
    · exact .throw _
    · refine (mirror.eval e).bind fun value => ?_
      split
      · exact (mirror.setVariable name _).bind fun _ => .pure true
      · exact .throw _
  | print at? e =>
    refine (mirror.eval e).bind fun value => ?_
    rw [mirror.context]
    refine (ofExcept _).bind fun _ => .get_bind fun m => ?_
    dsimp only
    rw [mirror.written, mirror.shown]
    exact (ofExcept _).bind fun text => (mirror.printText text).bind fun _ => .pure true
  | action at? action =>
    show Mirrors view (Exec.act a action) (Exec.act b action)
    unfold Exec.act
    rw [mirror.context]
    refine (ofExcept _).bind fun me => (mirror.attempt me action).bind fun done => ?_
    split
    · exact .pure true
    · exact (mirror.note _).bind fun _ => .pure false
  | _ => exact .pure true

theorem test (mirror : Mirror a b view) (c : Expr) (m : Machine σ) :
    b.test c (view m) = Outcome.onState view (a.test c m) :=
  (mirror.eval c).bind (fun _ => .pure _) m

end Setting.Mirror

namespace Answer

variable {view : Machine σ → Machine τ}

theorem andThen_onState {a : Answer σ} {next : Machine σ → Answer σ} {next' : Machine τ → Answer τ}
    (same : ∀ m, next' (view m) = Outcome.onState view (next m)) :
    andThen (Outcome.onState view a) next' = Outcome.onState view (andThen a next) := by
  obtain ⟨m, rfl⟩ | ⟨m, rfl⟩ | ⟨f, m, rfl⟩ := a.cases_on
  · exact same m
  · rfl
  · rfl

theorem either_onState {a : Answer σ} {yes no : Machine σ → Answer σ} {yes' no' : Machine τ → Answer τ}
    (sameYes : ∀ m, yes' (view m) = Outcome.onState view (yes m))
    (sameNo : ∀ m, no' (view m) = Outcome.onState view (no m)) :
    either (Outcome.onState view a) yes' no' = Outcome.onState view (either a yes no) := by
  obtain ⟨m, rfl⟩ | ⟨m, rfl⟩ | ⟨f, m, rfl⟩ := a.cases_on
  · exact sameYes m
  · exact sameNo m
  · rfl

end Answer

/-- A setting mirrors another in everything that execution does: the view shows the bookkeeping of the run and the
collections of the loops as they are. -/
structure Setting.Twin (a : Setting σ) (b : Setting τ) (view : Machine σ → Machine τ) : Prop
    extends Setting.Mirror a b view where
  run : ∀ m, (view m).run = m.run
  onRun : ∀ change m, view (m.onRun change) = (view m).onRun change
  bound : ∀ name e m, view (m.bound name e) = (view m).bound name e
  members : ∀ at? kind name m, b.members at? kind name (view m) = a.members at? kind name m

namespace Setting.Twin

variable {a : Setting σ} {b : Setting τ} {view : Machine σ → Machine τ}

theorem entered (twin : Twin a b view) (id : NodeId) (m : Machine σ) :
    (view m).entered id = view (m.entered id) := by
  unfold Machine.entered
  rw [twin.run]
  split
  · split
    · rw [twin.onRun]
    · rfl
  · rw [twin.onRun]

theorem leaving (twin : Twin a b view) (node : Stmt) (answer : Answer σ) :
    leaving node (Outcome.onState view answer) = Outcome.onState view (leaving node answer) := by
  obtain ⟨m, rfl⟩ | ⟨m, rfl⟩ | ⟨f, m, rfl⟩ := answer.cases_on
  · rfl
  · exact congrArg (EStateM.Result.ok false) (twin.onRun _ m).symm
  · rfl

theorem executeAll {body : List Stmt}
    (inside : ∀ s ∈ body, ∀ m, b.execute s (view m) = Outcome.onState view (a.execute s m)) (m : Machine σ) :
    b.executeAll body (view m) = Outcome.onState view (a.executeAll body m) := by
  induction body generalizing m with
  | nil =>
    rw [executeAll_nil, executeAll_nil]
    rfl
  | cons s rest ih =>
    rw [executeAll_cons, executeAll_cons, inside s List.mem_cons_self m]
    exact andThen_onState (ih fun t member => inside t (List.mem_cons_of_mem _ member))

theorem turns (twin : Twin a b view) (c : Expr) {body : Stmt}
    (inside : ∀ m, b.execute body (view m) = Outcome.onState view (a.execute body m)) (n : Nat) (m : Machine σ) :
    b.turns c body n (view m) = Outcome.onState view (a.turns c body n m) := by
  induction n generalizing m with
  | zero => rfl
  | succ n ih =>
    rw [turns_succ, turns_succ, twin.run, ← twin.onRun, twin.test]
    split
    · rfl
    · refine either_onState (fun m' => ?_) fun _ => rfl
      rw [inside m']
      exact andThen_onState ih

theorem visits (twin : Twin a b view) (name : String) {body : Stmt}
    (inside : ∀ m, b.execute body (view m) = Outcome.onState view (a.execute body m)) (entities : List EntityId)
    (m : Machine σ) : b.visits name body entities (view m) = Outcome.onState view (a.visits name body entities m) := by
  induction entities generalizing m with
  | nil => rfl
  | cons e rest ih =>
    rw [visits_cons, visits_cons, twin.run, ← twin.onRun, ← twin.bound, ← twin.bound, inside, inside]
    split
    · rfl
    · split
      · refine andThen_onState fun m' => ?_
        rw [twin.run]
        split
        · rfl
        · exact ih m'
      · exact andThen_onState ih

/-- The inside of a conditional statement does the same in the mirror if the statements in it do. -/
theorem interior (twin : Twin a b view) {s : Stmt}
    (inside : ∀ t ∈ s.children, ∀ m, b.execute t (view m) = Outcome.onState view (a.execute t m)) (m : Machine σ) :
    b.interior s (view m) = Outcome.onState view (a.interior s m) := by
  cases s with
  | branch id at? c yes no =>
    have ifYes := inside yes (by simp [Stmt.children])
    have ifNo := inside no (by simp [Stmt.children])
    rw [Setting.interior, Setting.interior, twin.run, ifYes, twin.test]
    split
    · refine andThen_onState fun m' => ?_
      rw [twin.run]
      split
      · exact ifNo m'
      · rfl
    · exact either_onState ifYes ifNo
  | loop id at? c body =>
    have inBody := inside body (by simp [Stmt.children])
    rw [Setting.interior, Setting.interior, twin.run, inBody, twin.turns c inBody]
    split
    · refine andThen_onState fun m' => ?_
      rw [twin.run, twin.turns c inBody]
      split <;> rfl
    · rfl
  | each id at? kind name body =>
    rw [Setting.interior, Setting.interior, twin.members]
    split
    · exact twin.visits name (inside body (by simp [Stmt.children])) _ m
    · rfl
  | sequence | assignment | print | action | placeholder => rfl

/-- Execution does the same in the mirror. The induction is on the tree. -/
theorem execute (twin : Twin a b view) (s : Stmt) :
    ∀ m, b.execute s (view m) = Outcome.onState view (a.execute s m) := by
  induction s using Stmt.conditional_induction with
  | sequence at? body ih =>
    intro m
    rw [execute_sequence, execute_sequence]
    exact executeAll ih m
  | conditional s id own ih =>
    intro m
    rw [a.execute_conditional own, b.execute_conditional own, twin.run, twin.entered, twin.interior ih, ← twin.onRun]
    split
    · rfl
    · exact twin.leaving s _
  | leaf s isLeaf =>
    intro m
    rw [a.execute_leaf isLeaf, b.execute_leaf isLeaf, twin.run, ← twin.onRun]
    split
    · rfl
    · split
      · rfl
      · exact twin.effect s _
  | placeholder fault =>
    intro m
    rw [execute_placeholder, execute_placeholder]
    rfl

end Setting.Twin

end WormLang
