import WormLang.Proofs.Execution.Boundary
import WormLang.Proofs.Execution.Repetition
import WormLang.Proofs.Soundness.Rewriting

/-!
The life of a program in the hands of its host. It is bound to an entity and a handler once and for good, by the first
bind that succeeds; a termination is final, whoever asked for it; a run that cannot begin changes nothing, and any
other run terminates the program exactly if it raises.

To raise is to fail with a fault: an exception that a host may catch and go on after. What stops the host itself, such
as an interrupt, is no fault, and nothing is said of it here.
-/
namespace WormLang

/-- A program that can be run at present: it is not terminated, and bound to an entity that is part of a world. -/
def Program.Ready {σ : Type} (world : World σ) (host : σ) (p : Program) : Prop :=
  p.terminated = false ∧ ∃ me, p.context.entity? = some me ∧ world.isPlaced host me = true

/-- A program that cannot be run is refused for its state. -/
theorem Program.refusal?_of_not_ready {σ : Type} {world : World σ} {host : σ} {p : Program}
    (idle : ¬ p.Ready world host) : ∃ cause, cause.kind = .illegalState ∧ p.refusal? world host = some cause := by
  cases refused : p.refusal? world host with
  | none => exact absurd (refusal?_eq_none.mp refused) idle
  | some cause =>
    refine ⟨cause, ?_, rfl⟩
    unfold refusal? at refused
    split at refused
    · cases refused
      rfl
    · split at refused
      · cases refused
        rfl
      · split at refused
        · cases refused
        · cases refused
          rfl

/-- The entity and the handler that a program is bound to. A program that is not bound may hold a handler all the
same. -/
def Program.bond (p : Program) : Option EntityId × Option HandlerId := (p.context.entity?, p.handler?)

namespace Stage

variable {σ : Type} {game : Game σ} {s : Stage σ}

/-- A run changes the variables, the bookkeeping and the flag of a program, and nothing else of it. -/
theorem spared_run (game : Game σ) (s : Stage σ) :
    ∃ globals state terminated, (s.run game).2.program = { s.program with globals, state, terminated } := by
  cases ready : s.program.refusal? game.world s.host with
  | some cause =>
    rw [run_of_refusal ready]
    exact ⟨_, _, _, rfl⟩
  | none =>
    rw [run_eq_concluded ready]
    obtain ⟨m, ran⟩ | ⟨m, ran⟩ | ⟨f, m, ran⟩ := (s.answer game).cases_on
    all_goals
      rw [ran]
      exact ⟨_, _, _, rfl⟩

theorem bond_run : (s.run game).2.program.bond = s.program.bond := by
  obtain ⟨globals, state, terminated, spared⟩ := s.spared_run game
  rw [spared]
  rfl

/-- A run that begins terminates the program exactly if it raises. -/
theorem terminated_run (ready : s.program.refusal? game.world s.host = none) :
    (s.run game).2.program.terminated = true ↔ ∃ f, (s.run game).1 = .error f := by
  obtain ⟨usable, -⟩ := Program.refusal?_eq_none.mp ready
  rw [run_eq_concluded ready]
  obtain ⟨m, ran⟩ | ⟨m, ran⟩ | ⟨f, m, ran⟩ := (s.answer game).cases_on
  all_goals
    rw [ran]
    simp [concluded, absorb, Program.terminate, usable]

end Stage

/-- If some steps together change what a view shows of a state, one of them is a step that changes it. -/
theorem exists_step_of_changed {S A B : Type} (view : S → B) (next : S → A → S) {changes : S → A → Prop}
    (each : ∀ s a, view (next s a) = view s ∨ changes s a) {s : S} (steps : List A)
    (changed : view (steps.foldl next s) ≠ view s) :
    ∃ before a later, steps = before ++ a :: later ∧ changes (before.foldl next s) a := by
  induction steps generalizing s with
  | nil => exact absurd rfl changed
  | cons a rest ih =>
    obtain same | made := each s a
    · rw [← same] at changed
      obtain ⟨before, b, later, rfl, made⟩ := ih changed
      exact ⟨a :: before, b, later, rfl, made⟩
    · exact ⟨[], a, rest, rfl, made⟩

/-- Nobody performs for a program that has no handler. -/
def Handler.missing {σ : Type} : Handler σ where
  perform _ _ host := (.error { cause := .noHandler }, host)
  print _ host := (.error { cause := .noHandler }, host)

/-- What a host does with a program. -/
inductive LifeStep (σ : Type) where
  | run
  | bind (entity : Option EntityId) (given? : Option HandlerId)
  | terminate
  | edit (change : Table Variable → Except Fault (Table Variable))
  | maxStatements (budget : Int)
  | world (change : σ → σ)

namespace Stage

variable {σ : Type} (world : World σ) (handlers : HandlerId → Handler σ)

/-- The game that a program runs in: the handler that it holds performs. -/
def gameOf (s : Stage σ) : Game σ := { world, handler := (s.program.handler?.map handlers).getD .missing }

/-- Do a step, among the handlers of a game. -/
def live (s : Stage σ) : LifeStep σ → Except Fault Unit × Stage σ
  | .run => s.run (s.gameOf world handlers)
  | .bind entity given? =>
    match s.program.bind entity given? with
    | .ok program => (.ok (), { s with program })
    | .error f => (.error f, s)
  | .terminate => (.ok (), { s with program := s.program.terminate })
  | .edit change =>
    match change s.program.globals with
    | .ok globals => (.ok (), { s with program := { s.program with globals } })
    | .error f => (.error f, s)
  | .maxStatements budget => (.ok (), { s with program := { s.program with maxStatements := budget } })
  | .world change => (.ok (), { s with host := change s.host })

def lived (s : Stage σ) (steps : List (LifeStep σ)) : Stage σ :=
  steps.foldl (fun s step => (s.live world handlers step).2) s

variable {world handlers} {s : Stage σ}

/-- A bind that raises changes nothing. One that succeeds makes the first bond, with the handler that is given or else
the one that the program holds. -/
theorem bind_cases (s : Stage σ) (entity : Option EntityId) (given? : Option HandlerId) :
    (∃ f, s.live world handlers (.bind entity given?) = (.error f, s)) ∨
      ∃ s' id handler, s.live world handlers (.bind entity given?) = (.ok (), s') ∧
        s.program.context.entity? = none ∧ entity = some id ∧ given?.or s.program.handler? = some handler ∧
        s'.program.bond = (some id, some handler) ∧ s'.program.terminated = s.program.terminated := by
  unfold live
  dsimp only
  cases bound : s.program.bind entity given? with
  | error f => exact .inl ⟨f, rfl⟩
  | ok program =>
    obtain ⟨unbound, id, handler, entity, chosen, rfl⟩ := Program.bind_ok_iff.mp bound
    exact .inr ⟨_, id, handler, rfl, unbound, entity, chosen, rfl, rfl⟩

/-- Only a bind that succeeds changes the bond. -/
theorem bond_live (s : Stage σ) (step : LifeStep σ) :
    (s.live world handlers step).2.program.bond = s.program.bond ∨
      ∃ entity given?, step = .bind entity given? ∧ (s.live world handlers step).1 = .ok () ∧
        s.program.context.entity? = none := by
  cases step with
  | bind entity given? =>
    obtain ⟨f, failed⟩ | ⟨s', id, handler, done, unbound, -⟩ := s.bind_cases entity given?
    · exact .inl (congrArg (fun out => out.2.program.bond) failed)
    · exact .inr ⟨entity, given?, rfl, congrArg Prod.fst done, unbound⟩
  | run => exact .inl bond_run
  | edit change =>
    refine .inl ?_
    unfold live
    dsimp only
    split <;> rfl
  | terminate | maxStatements | world => exact .inl rfl

/-- A bond is for good. -/
theorem bond_lived {id : EntityId} {handler? : Option HandlerId} (bound : s.program.bond = (some id, handler?))
    (steps : List (LifeStep σ)) : (s.lived world handlers steps).program.bond = (some id, handler?) := by
  refine List.foldlRecOn (motive := fun s : Stage σ => s.program.bond = (some id, handler?)) steps _ bound
    fun s bound step _ => ?_
  obtain same | ⟨-, -, -, -, unbound⟩ := s.bond_live step
  · exact same.trans bound
  · cases unbound.symm.trans (congrArg Prod.fst bound)

/-- A bond that was not there was made by a bind. -/
theorem exists_bind_of_bond (steps : List (LifeStep σ))
    (made : (s.lived world handlers steps).program.bond ≠ s.program.bond) :
    ∃ before entity given? later, steps = before ++ .bind entity given? :: later ∧
      ((s.lived world handlers before).live world handlers (.bind entity given?)).1 = .ok () := by
  obtain ⟨before, -, later, rfl, entity, given?, rfl, done, -⟩ :=
    exists_step_of_changed (fun s : Stage σ => s.program.bond) _ bond_live steps made
  exact ⟨before, entity, given?, later, rfl, done⟩

/-- A run of a program that cannot be run changes nothing. -/
theorem run_of_not_ready (idle : ¬ s.program.Ready world s.host) :
    ∃ cause, cause.kind = .illegalState ∧ s.live world handlers .run = (.error { cause }, s) := by
  obtain ⟨cause, kind, refused⟩ := Program.refusal?_of_not_ready idle
  exact ⟨cause, kind, run_of_refusal refused⟩

/-- A program that is terminated stays so. -/
theorem terminated_live (ended : s.program.terminated = true) (step : LifeStep σ) :
    (s.live world handlers step).2.program.terminated = true := by
  cases step with
  | run =>
    have idle : ¬ s.program.Ready world s.host := fun ready => by simp [ready.1] at ended
    obtain ⟨cause, -, same⟩ := @run_of_not_ready _ world handlers s idle
    rw [same]
    exact ended
  | bind entity given? =>
    obtain ⟨f, failed⟩ | ⟨s', id, handler, done, -, -, -, -, kept⟩ := s.bind_cases entity given?
    · rw [failed]
      exact ended
    · rw [done]
      exact kept.trans ended
  | edit change =>
    unfold live
    dsimp only
    split <;> exact ended
  | terminate => rfl
  | maxStatements | world => exact ended

theorem terminated_lived (ended : s.program.terminated = true) (steps : List (LifeStep σ)) :
    (s.lived world handlers steps).program.terminated = true :=
  List.foldlRecOn (motive := fun s : Stage σ => s.program.terminated = true) steps _ ended
    fun _ ended step _ => terminated_live ended step

end Stage

namespace Session

variable {s : Session}

/-- A run of a program that cannot be run changes nothing. -/
theorem run_of_not_ready (idle : ¬ s.program.Ready Sandbox.game.world s.host) :
    ∃ cause, cause.kind = .illegalState ∧ s.run = (.error { cause }, s) := by
  obtain ⟨cause, kind, refused⟩ := Program.refusal?_of_not_ready idle
  refine ⟨cause, kind, ?_⟩
  unfold run
  rw [refused]

/-- A run on any budget leaves the program bound as it is, and terminates it exactly if it raises. -/
theorem run_of_ready (ready : s.program.Ready Sandbox.game.world s.host) :
    s.run.2.program.bond = s.program.bond ∧ (s.run.2.program.terminated = true ↔ ∃ f, s.run.1 = .error f) := by
  have usable : s.program.terminated = false := ready.1
  have begins := Program.refusal?_eq_none.mpr ready
  have onUnits : ∀ stage : Stage Sandbox, stage.program.refusal? Sandbox.game.world stage.host = none →
      (stage.run Sandbox.game).2.program.bond = stage.program.bond ∧
        ((stage.run Sandbox.game).2.program.terminated = true ↔ ∃ f, (stage.run Sandbox.game).1 = .error f) :=
    fun stage begins => ⟨Stage.bond_run, Stage.terminated_run begins⟩
  unfold run
  rw [begins]
  cases s.loose? with
  | none => exact onUnits s.toStage begins
  | some d =>
    dsimp only
    cases d.units s.owner with
    | error f =>
      unfold runToFault
      dsimp only
      split
      · exact ⟨rfl, by simp [withProgram, usable]⟩
      · exact ⟨rfl, by simp [withProgram, Program.terminate]⟩
    | ok units =>
      exact onUnits { s.toStage with program := { s.program with maxStatements := units }, log := #[] } begins

/-- A step that neither runs nor binds keeps the bond of the program, and terminates it or leaves it as it is. -/
theorem spared_tryStep {step : Step} {reply : Reply} {s' : Session} (tried : s.tryStep step = .ok (reply, s'))
    (other : ∀ entity given, step ≠ .bind entity given) :
    s'.program.bond = s.program.bond ∧ (s.program.terminated = true → s'.program.terminated = true) := by
  cases step with
  | bind entity given => exact absurd rfl (other entity given)
  | run | terminate | validate | isWellFormed =>
    cases tried
    first | exact ⟨rfl, id⟩ | exact ⟨rfl, fun _ => rfl⟩
  | maxStatements d =>
    cases d <;>
    · cases tried
      exact ⟨rfl, id⟩
  | clear | world | unparse | describe | assign | undeclare | declare =>
    obtain ⟨_, -, made⟩ := bind_eq_ok.mp tried
    cases made
    exact ⟨rfl, id⟩

/-- A bind that raises changes nothing. One that succeeds is the first. -/
theorem bind_cases (s : Session) (entity : Option EntityId) (given : Bool) :
    (∃ f, s.step (.bind entity given) = (.error f, s)) ∨
      ∃ reply s' id handler, s.step (.bind entity given) = (.ok reply, s') ∧ s.program.context.entity? = none ∧
        entity = some id ∧ (Sandbox.handler? given).or s.program.handler? = some handler ∧
        s'.program.bond = (some id, some handler) ∧ s'.program.terminated = s.program.terminated := by
  obtain same | ⟨reply, s', tried, same⟩ | ⟨f, -, same⟩ := s.step_cases (.bind entity given)
  · cases same
  · obtain ⟨p, bound, made⟩ := bind_eq_ok.mp tried
    cases made
    obtain ⟨unbound, id, handler, entity, chosen, rfl⟩ := Program.bind_ok_iff.mp bound
    exact .inr ⟨_, _, id, handler, same, unbound, entity, chosen, rfl, rfl⟩
  · exact .inl ⟨f, same⟩

/-- What a step can do to the bond and to the flag. -/
theorem spared_step (s : Session) (step : Step) :
    ((s.step step).2.program.bond = s.program.bond ∨
      ∃ entity given reply, step = .bind entity given ∧ (s.step step).1 = .ok reply ∧
        s.program.context.entity? = none) ∧
    (s.program.terminated = true → (s.step step).2.program.terminated = true) := by
  by_cases binds : ∃ entity given, step = .bind entity given
  · obtain ⟨entity, given, rfl⟩ := binds
    obtain ⟨f, failed⟩ | ⟨reply, s', id, handler, done, unbound, -, -, -, kept⟩ := s.bind_cases entity given
    · rw [failed]
      exact ⟨.inl rfl, fun ended => ended⟩
    · rw [done]
      exact ⟨.inr ⟨entity, given, reply, rfl, rfl, unbound⟩, fun ended => kept.trans ended⟩
  · have other : ∀ entity given, step ≠ .bind entity given := fun entity given same => binds ⟨entity, given, same⟩
    obtain rfl | ⟨reply, s', tried, same⟩ | ⟨f, -, same⟩ := s.step_cases step
    · by_cases ready : s.program.Ready Sandbox.game.world s.host
      · exact ⟨.inl (run_of_ready ready).1, fun ended => by simp [ready.1] at ended⟩
      · obtain ⟨cause, -, same⟩ := run_of_not_ready ready
        have step : s.step .run = (.error { cause }, s) := by
          unfold Session.step
          rw [same]
          rfl
        rw [step]
        exact ⟨.inl rfl, fun ended => ended⟩
    · obtain ⟨bond, flag⟩ := spared_tryStep tried other
      rw [same]
      exact ⟨.inl bond, flag⟩
    · rw [same]
      exact ⟨.inl rfl, fun ended => ended⟩

theorem bond_after {id : EntityId} {handler? : Option HandlerId} (bound : s.program.bond = (some id, handler?))
    (steps : List Step) : (s.after steps).program.bond = (some id, handler?) := by
  refine List.foldlRecOn (motive := fun s : Session => s.program.bond = (some id, handler?)) steps _ bound
    fun s bound step _ => ?_
  obtain ⟨same | ⟨-, -, -, -, -, unbound⟩, -⟩ := s.spared_step step
  · exact same.trans bound
  · cases unbound.symm.trans (congrArg Prod.fst bound)

theorem terminated_after (ended : s.program.terminated = true) (steps : List Step) :
    (s.after steps).program.terminated = true :=
  List.foldlRecOn (motive := fun s : Session => s.program.terminated = true) steps _ ended
    fun s ended step _ => (s.spared_step step).2 ended

theorem exists_bind_of_bond (steps : List Step) (made : (s.after steps).program.bond ≠ s.program.bond) :
    ∃ before entity given later reply, steps = before ++ .bind entity given :: later ∧
      ((s.after before).step (.bind entity given)).1 = .ok reply := by
  obtain ⟨before, -, later, rfl, entity, given, reply, rfl, done, -⟩ :=
    exists_step_of_changed (fun s : Session => s.program.bond) _ (fun s step => (s.spared_step step).1) steps made
  exact ⟨before, entity, given, later, reply, rfl, done⟩

end Session

/-- The life of a program. A bind that raises changes nothing. One that succeeds finds a program that is not bound and
makes the bond, of the entity and of the handler that is given or else held, that it has for ever after; nothing else
makes a bond. A program that is terminated stays so. A run of a program that is terminated, not bound, or bound to an
entity in no world raises for its state and changes nothing; any other run leaves the program terminated exactly if it
raises. So it is in every world with any handlers, and in every session on the sandbox, whatever its steps do to the
variables, the world and the budget, which may be any data there. -/
theorem Program.life_cycle :
    (∀ {σ : Type} (world : World σ) (handlers : HandlerId → Handler σ) (s : Stage σ),
      (∀ entity given?,
        (∀ f, (s.live world handlers (.bind entity given?)).1 = .error f →
          (s.live world handlers (.bind entity given?)).2 = s) ∧
        ((s.live world handlers (.bind entity given?)).1 = .ok () → s.program.context.entity? = none ∧ ∃ id handler,
          entity = some id ∧ given?.or s.program.handler? = some handler ∧
          ∀ later, ((s.live world handlers (.bind entity given?)).2.lived world handlers later).program.bond =
            (some id, some handler))) ∧
      (∀ steps, (s.lived world handlers steps).program.bond ≠ s.program.bond →
        ∃ before entity given? later, steps = before ++ .bind entity given? :: later ∧
          ((s.lived world handlers before).live world handlers (.bind entity given?)).1 = .ok ()) ∧
      (s.program.terminated = true → ∀ steps, (s.lived world handlers steps).program.terminated = true) ∧
      (¬ s.program.Ready world s.host →
        ∃ cause, cause.kind = .illegalState ∧ s.live world handlers .run = (.error { cause }, s)) ∧
      (s.program.Ready world s.host →
        ((s.live world handlers .run).2.program.terminated = true ↔
          ∃ f, (s.live world handlers .run).1 = .error f))) ∧
    ∀ s : Session,
      (∀ entity given,
        (∀ f, (s.step (.bind entity given)).1 = .error f → (s.step (.bind entity given)).2 = s) ∧
        (∀ reply, (s.step (.bind entity given)).1 = .ok reply → s.program.context.entity? = none ∧ ∃ id handler,
          entity = some id ∧ (Sandbox.handler? given).or s.program.handler? = some handler ∧
          ∀ later, ((s.step (.bind entity given)).2.after later).program.bond = (some id, some handler))) ∧
      (∀ steps, (s.after steps).program.bond ≠ s.program.bond →
        ∃ before entity given later reply, steps = before ++ .bind entity given :: later ∧
          ((s.after before).step (.bind entity given)).1 = .ok reply) ∧
      (s.program.terminated = true → ∀ steps, (s.after steps).program.terminated = true) ∧
      (¬ s.program.Ready Sandbox.game.world s.host →
        ∃ cause, cause.kind = .illegalState ∧ s.run = (.error { cause }, s)) ∧
      (s.program.Ready Sandbox.game.world s.host →
        (s.run.2.program.terminated = true ↔ ∃ f, s.run.1 = .error f)) := by
  refine ⟨fun world handlers s => ⟨fun entity given? => ?_, Stage.exists_bind_of_bond, Stage.terminated_lived,
    Stage.run_of_not_ready, fun ready => Stage.terminated_run (Program.refusal?_eq_none.mpr ready)⟩,
    fun s => ⟨fun entity given => ?_, Session.exists_bind_of_bond, Session.terminated_after,
    Session.run_of_not_ready, fun ready => (Session.run_of_ready ready).2⟩⟩
  · obtain ⟨f, failed⟩ | ⟨s', id, handler, done, unbound, entity, chosen, bound, -⟩ := s.bind_cases entity given?
    · rw [failed]
      exact ⟨fun _ _ => rfl, nofun⟩
    · rw [done]
      refine ⟨fun f broken => ?_, fun _ => ⟨unbound, id, handler, entity, chosen, Stage.bond_lived bound⟩⟩
      cases broken
  · obtain ⟨f, failed⟩ | ⟨reply, s', id, handler, done, unbound, entity, chosen, bound, -⟩ := s.bind_cases entity given
    · rw [failed]
      exact ⟨fun _ _ => rfl, nofun⟩
    · rw [done]
      refine ⟨fun f broken => ?_, fun _ _ => ⟨unbound, id, handler, entity, chosen, Session.bond_after bound⟩⟩
      cases broken

namespace Leap

def unbound : Stage (List String) := { program, host := [] }

/-- A game with two handlers, of which the first one is moody and the second one misses. -/
def handlers : HandlerId → Handler (List String)
  | ⟨0⟩ => moodyGame.handler
  | _ => .missing

end Leap

/-- The leap cannot be run before it is bound, nor bound without a handler. Bound to the moody handler, it keeps that
one and its worm, is not terminated by the refusal of its jump, and can never be run again once it is terminated. -/
theorem leap_life_cycle :
    let live := Stage.live moodyGame.world Leap.handlers
    let lived := Stage.lived moodyGame.world Leap.handlers
    let bind : LifeStep (List String) := .bind (some ⟨0⟩) (some ⟨0⟩)
    let bound := (live Leap.unbound bind).2
    live Leap.unbound (.bind (some ⟨0⟩) none) = (.error { cause := .bindingIncomplete }, Leap.unbound) ∧
      (∃ cause, cause.kind = .illegalState ∧ live Leap.unbound .run = (.error { cause }, Leap.unbound)) ∧
      (∀ later, (lived bound later).program.bond = (some ⟨0⟩, some ⟨0⟩)) ∧
      (live bound (.bind (some ⟨1⟩) (some ⟨1⟩))).2 = bound ∧
      (live bound .run).2.program.terminated = false ∧
      ¬ (∃ f, (live bound .run).1 = .error f) ∧
      ∀ later, (lived (live bound .terminate).2 later).program.terminated = true := by
  intro live lived bind bound
  obtain ⟨onStage, -⟩ := Program.life_cycle
  obtain ⟨binds, -, -, refused, -⟩ := onStage moodyGame.world Leap.handlers Leap.unbound
  obtain ⟨again, -, -, -, runs⟩ := onStage moodyGame.world Leap.handlers bound
  obtain ⟨-, -, final, -, -⟩ := onStage moodyGame.world Leap.handlers (live bound .terminate).2
  have kept := (binds (some ⟨0⟩) none).1 { cause := .bindingIncomplete } rfl
  obtain ⟨-, id, handler, entity, chosen, forGood⟩ := (binds (some ⟨0⟩) (some ⟨0⟩)).2 rfl
  obtain rfl : id = ⟨0⟩ := (Option.some.inj entity).symm
  obtain rfl : handler = ⟨0⟩ := (Option.some.inj chosen).symm
  have lives : (live bound .run).2.program.terminated = false := by decide +kernel
  refine ⟨Prod.ext rfl kept, refused ?_, forGood, (again _ _).1 { cause := .alreadyBound } rfl, lives, ?_, final rfl⟩
  · rintro ⟨-, me, absent, -⟩
    cases absent
  · rw [← runs ⟨rfl, ⟨0⟩, rfl, rfl⟩, lives]
    simp

end WormLang
