import WormLang.Proofs.Execution.Reach
import WormLang.Proofs.Soundness.Statement
import WormLang.Session

/-!
Soundness of types for programs. A program that comes out of its text does not break down, whatever its host does
between runs that is lawful: storing data in variables, changing the world, setting the budget. Variables keep values of
their declared types over any number of runs, suspended and resumed, so that no run fails for a missing or retyped
variable or a placeholder. Nor does it fail for a value of a wrong type, except where it reads what its host put on a
being.
-/
namespace WormLang

open Answer

namespace Table

/-- The table after a host has tried to store data in a variable. A name that is not declared and data that the
variable refuses change nothing. -/
def stored (t : Table Variable) (names : Names) (name : String) (d : Datum) : Table Variable :=
  match t.get? name with
  | none => t
  | some v =>
    match v.store names d with
    | .ok w => t.set name w
    | .error _ => t

end Table

theorem Value.ty_of_ofDatum {names : Names} {t : Ty} {d : Datum} {v : Value} (made : ofDatum names t d = .ok v) :
    v.ty = t := by
  unfold ofDatum at made
  split at made
  · cases made
    rfl
  · cases made
    rfl
  · obtain ⟨x, -, made⟩ := bind_eq_ok.mp made
    cases made
    rfl
  · split at made
    · cases made
    · cases made
      rfl
  · cases made

/-- Storing data keeps the type of a variable and gives it a value of that type. -/
theorem Variable.ty_of_store {names : Names} {v w : Variable} {d : Datum} (stores : v.store names d = .ok w) :
    w.ty = v.ty ∧ w.value.ty = v.ty := by
  unfold store at stores
  split at stores
  · obtain ⟨value, -, assigned⟩ := bind_eq_ok.mp stores
    unfold assign at assigned
    split at assigned
    · next accepted =>
      cases assigned
      exact ⟨rfl, beq_iff_eq.mp accepted⟩
    · cases assigned
  · next plain =>
    cases made : Value.ofDatum names v.ty d with
    | error f =>
      rw [made] at stores
      cases stores
    | ok value =>
      rw [made] at stores
      cases stores
      exact ⟨rfl, Value.ty_of_ofDatum made⟩

/-- What a host stores keeps the table in order. -/
theorem Table.Fits.stored {globals table : Table Variable} (fits : globals.Fits table) (names : Names) (name : String)
    (d : Datum) : globals.Fits (table.stored names name d) := by
  unfold Table.stored
  split
  · exact fits
  · next v found =>
    split
    · next w stores =>
      obtain ⟨ty, holds⟩ := Variable.ty_of_store stores
      refine fits.set ?_ (holds.trans ty.symm)
      rw [fits.types name, found, ty]
      rfl
    · exact fits

/-- Assigning to a variable in a session stores data in the table. -/
theorem Session.globals_of_assign {s s' : Session} {name : String} {d : Datum} {reply : Reply}
    (assigned : s.tryStep (.assign name d) = .ok (reply, s')) :
    s'.program.globals = s.program.globals.stored s.host.arena.names name d := by
  obtain ⟨table, edited, same⟩ := bind_eq_ok.mp assigned
  obtain ⟨v, fetched, edited⟩ := bind_eq_ok.mp edited
  obtain ⟨w, stores, made⟩ := bind_eq_ok.mp edited
  cases made
  cases same
  unfold Table.fetch at fetched
  split at fetched
  · next found =>
    cases fetched
    unfold Table.stored
    rw [found]
    dsimp only
    rw [stores]
    rfl
  · cases fetched

namespace Program

variable {source : String} {file : Option String} {handler? : Option HandlerId} {budget : Except Fault Int}
  {p : Program}

/-- A program that comes out of its text has the variables that were declared there, each once. -/
theorem exists_declarations (parsed : parse source file handler? budget = .ok p) :
    ∃ declared, (declared.map Prod.fst).Nodup ∧ p.globals = .ofDeclarations declared := by
  obtain ⟨tree, read, clean, -, globals, -, -⟩ := exists_tree_of_parse parsed
  have makes := makes_root file tree { handler? }
  have declared := ItemTree.declareAll_cases file (ProgramTree.sane_of_parse read)
    (show ({ handler? } : Builder).failed = false from rfl) (show _ = Table.ofDeclarations [] from rfl)
    List.nodup_nil
  obtain ⟨distinct, -, made⟩ | ⟨-, failed⟩ := declared
  · exact ⟨_, distinct, by rw [globals, makes.grows.globals, made]⟩
  · cases (makes.grows.failed failed).symm.trans clean

/-- The variables of a program that comes out of its text have the first values of their types. -/
theorem fits_of_parse (parsed : parse source file handler? budget = .ok p) : p.globals.Fits p.globals := by
  obtain ⟨declared, -, globals⟩ := exists_declarations parsed
  refine ⟨.refl _, fun name v found => ?_⟩
  rw [globals] at found
  obtain ⟨before, after, entries, -⟩ := List.lookup_eq_some_iff.mp found
  have among : (name, v) ∈ before ++ (name, v) :: after := List.mem_append_right _ List.mem_cons_self
  rw [← entries] at among
  obtain ⟨⟨key, t⟩, -, same⟩ := List.mem_map.mp among
  cases same
  exact Value.ty_default t

theorem checked_of_parse (parsed : parse source file handler? budget = .ok p) : p.root.Checked p.globals := by
  obtain ⟨tree, -, -, -, -, valid, -⟩ := exists_tree_of_parse parsed
  exact Stmt.validate_eq_nil.mp valid

/-- A run is never refused for a type or a name. -/
theorem goesWrong_of_refusal {σ : Type} {world : World σ} {host : σ} {cause : Cause}
    (refused : p.refusal? world host = some cause) : cause.goesWrong = false := by
  unfold refusal? at refused
  split at refused
  · cases refused
    rfl
  · split at refused
    · cases refused
      rfl
    · split at refused <;> cases refused
      rfl

end Program

/-- What a host may do with a program: it changes variables by storing data in them only, and its world stays as
programs expect it. -/
def HostStep.Lawful {σ : Type} (occurs : σ → Prop) : HostStep σ → Prop
  | table change => ∀ t, ∃ names name d, change t = t.stored names name d
  | world change => ∀ h, occurs h → occurs (change h)
  | run | maxStatements _ | bind .. | terminate => True

namespace Stage

variable {σ : Type}

/-- A stage of a program that was bound, with variables and a host in order. -/
structure InOrder (p : Program) (me : EntityId) (occurs : σ → Prop) (s : Stage σ) : Prop where
  root : s.program.root = p.root
  bound : s.program.context.entity? = some me
  fits : p.globals.Fits s.program.globals
  occurs : occurs s.host

/-- A run cannot go wrong on types or names, except over what the host put on a being. If it fails, it was refused
before it began, or a statement of the program failed in a way that it may, or tripped over such data. -/
structure GoesRight (game : Game σ) (arena : σ → Arena) (p : Program) (s : Stage σ) : Prop where
  /-- Every declared variable is there, with a value of its type. -/
  table : p.globals.Fits s.program.globals
  faults : ∀ f, (s.run game).1 = .error f → f.cause.breaksDown = false ∧
    (f.cause.goesWrong = false ∧
        (s.program.refusal? game.world s.host = some f.cause ∨
          ∃ m, s.answer game = .error f m ∧ ∃ t ∈ p.root.walk, (s.setting game).Raises arena m t f.cause) ∨
      ∃ m, s.answer game = .error f m ∧ ∃ t ∈ p.root.walk, (s.setting game).Trips arena m t f)
  /-- The value of an expression has the type that its statement needs: conditions are boolean. -/
  values : ∀ {t : Stmt} {m m' : Machine σ} {e : Expr}, s.Comes game t m → (s.setting game).Needs t m e m' →
    (((s.setting game).env m').eval e).Meets (fun v => ∀ ty ∈ t.demand p.globals, v.ty = ty)
      fun f => ∃ part ∈ e.walk, ((s.setting game).env m').Fails arena part f
  /-- The operands of every operator inside have the type that it needs. -/
  operands : ∀ {t : Stmt} {m m' : Machine σ} {e : Expr}, s.Comes game t m → (s.setting game).Needs t m e m' →
    ∀ part ∈ e.walk, ∀ operand ∈ part.operands,
      (((s.setting game).env m').eval operand).Meets (fun v => part.demand = some v.ty)
        fun f => ∃ inner ∈ operand.walk, ((s.setting game).env m').Fails arena inner f
  /-- A live assignment that comes to its end stores a value of the declared type. -/
  assignments : ∀ {at? : Option Position} {name : String} {e : Expr} {m m' : Machine σ},
    s.Comes game (.assignment at? name e) m → m.run.seeking = false →
    (s.setting game).execute (.assignment at? name e) m = .ok true m' →
    ∃ w, m'.table = m.table.set name w ∧ (p.globals.get? name).map Variable.ty = some w.ty ∧ w.value.ty = w.ty

namespace InOrder

variable {game : Game σ} {arena : σ → Arena} {me : EntityId} {occurs : σ → Prop} {p : Program} {s : Stage σ}

theorem safe_started (inOrder : s.InOrder p me occurs) (orderly : game.Orderly arena me occurs)
    (ready : s.program.refusal? game.world s.host = none) : s.started.Safe p.globals arena me occurs := by
  refine ⟨inOrder.fits, inOrder.occurs, ?_⟩
  show (arena s.host).isPlaced me = true
  unfold Program.refusal? at ready
  rw [inOrder.bound, orderly.world] at ready
  by_contra outside
  cases ended : s.program.terminated <;> simp [World.within, Arena.world, ended, outside] at ready

section

variable (orderly : game.Orderly arena me occurs) (typed : p.root.WellTyped p.globals)
  (checked : p.root.Checked p.globals)

include orderly typed checked

/-- What single steps of the runs of this stage keep. -/
theorem guards (inOrder : s.InOrder p me occurs) :
    (s.setting game).Guards (· ∈ p.root.walk) (·.Safe p.globals arena me occurs) (·.Safe p.globals arena me occurs)
      fun f m => m.Safe p.globals arena me occurs ∧ ∃ t ∈ p.root.walk, (s.setting game).Fails arena me occurs m t f :=
  Setting.guards_safe orderly inOrder.bound typed checked

/-- A run that is not refused keeps the variables and the host in order, and fails only as a statement may. -/
theorem answer (inOrder : s.InOrder p me occurs) (ready : s.program.refusal? game.world s.host = none) :
    (s.answer game).Meets (·.Safe p.globals arena me occurs) (·.Safe p.globals arena me occurs) fun f m =>
      m.Safe p.globals arena me occurs ∧ ∃ t ∈ p.root.walk, (s.setting game).Fails arena me occurs m t f :=
  meets_answer (inOrder.guards orderly typed checked) (by simp [inOrder.root]) (inOrder.safe_started orderly ready)
    fun m safe => ⟨safe.fits, safe.occurs, safe.placed⟩

theorem run (inOrder : s.InOrder p me occurs) : (s.run game).2.InOrder p me occurs := by
  cases ready : s.program.refusal? game.world s.host with
  | some cause =>
    unfold Stage.run
    rw [ready]
    exact inOrder
  | none =>
    have absorbed : ∀ m, m.Safe p.globals arena me occurs → (s.absorb m).InOrder p me occurs := fun m safe =>
      ⟨inOrder.root, inOrder.bound, safe.fits, safe.occurs⟩
    have kept := inOrder.answer orderly typed checked ready
    rw [run_eq game s ready]
    obtain ⟨m, done⟩ | ⟨m, stopped⟩ | ⟨f, m, failed⟩ := (s.answer game).cases_on
    · rw [done] at kept ⊢
      exact absorbed (completed m) ⟨kept.fits, kept.occurs, kept.placed⟩
    · rw [stopped] at kept ⊢
      exact absorbed (suspended m) ⟨kept.fits, kept.occurs, kept.placed⟩
    · rw [failed] at kept ⊢
      obtain ⟨safe, -⟩ := kept
      exact ⟨inOrder.root, inOrder.bound, safe.fits, safe.occurs⟩

/-- A lawful step of the host keeps a stage in order. A program is bound for good, so that binding it again changes
nothing. -/
theorem apply (inOrder : s.InOrder p me occurs) {step : HostStep σ}
    (lawful : step.Lawful occurs) : (step.apply game s).InOrder p me occurs := by
  cases step with
  | run => exact inOrder.run orderly typed checked
  | world change => exact ⟨inOrder.root, inOrder.bound, inOrder.fits, lawful _ inOrder.occurs⟩
  | table change =>
    obtain ⟨names, name, d, same⟩ := lawful s.program.globals
    refine ⟨inOrder.root, inOrder.bound, ?_, inOrder.occurs⟩
    show p.globals.Fits (change s.program.globals)
    rw [same]
    exact inOrder.fits.stored names name d
  | maxStatements budget => exact ⟨inOrder.root, inOrder.bound, inOrder.fits, inOrder.occurs⟩
  | bind entity given? =>
    have refused : s.program.bind entity given? = .error { cause := .alreadyBound } := by
      simp [Program.bind, Context.bind, inOrder.bound, bind, Except.bind]
    rw [HostStep.apply, refused]
    exact inOrder
  | terminate => exact ⟨inOrder.root, inOrder.bound, inOrder.fits, inOrder.occurs⟩

/-- Any lawful steps of the host keep a stage in order. -/
theorem after (inOrder : s.InOrder p me occurs) {steps : List (HostStep σ)}
    (lawful : ∀ step ∈ steps, step.Lawful occurs) :
    (steps.foldl (HostStep.apply game) s).InOrder p me occurs := by
  induction steps generalizing s with
  | nil => exact inOrder
  | cons step rest ih =>
    exact ih (inOrder.apply orderly typed checked (lawful step List.mem_cons_self))
      fun other member => lawful other (List.mem_cons_of_mem _ member)

/-- The machine on which a run comes to a statement is in order. -/
theorem safe_of_comes (inOrder : s.InOrder p me occurs) {t : Stmt} {m : Machine σ}
    (comes : s.Comes game t m) : m.Safe p.globals arena me occurs :=
  comes.guards (inOrder.guards orderly typed checked) (by simp [inOrder.root]) (inOrder.safe_started orderly)
    fun m safe => ⟨safe.fits, safe.occurs, safe.placed⟩

/-- What an expression reads where a run evaluates it is in order. -/
theorem sound_env (inOrder : s.InOrder p me occurs) {t : Stmt} {m m' : Machine σ} {e : Expr}
    (comes : s.Comes game t m) (needs : (s.setting game).Needs t m e m') :
    ((s.setting game).env m').Sound p.globals arena me := by
  have inside : t ∈ p.root.walk := inOrder.root ▸ comes.mem_walk
  have safe : m'.Safe p.globals arena me occurs :=
    needs.guards (inOrder.guards orderly typed checked) (fun u among => Stmt.mem_walk_trans inside among)
      (inOrder.safe_of_comes orderly typed checked comes)
  exact Setting.sound_env orderly inOrder.bound safe

/-- A run that fails was refused, or one of its statements failed as it may, and left the machine in order. -/
theorem fault (inOrder : s.InOrder p me occurs) {f : Fault}
    (failed : (s.run game).1 = .error f) :
    s.program.refusal? game.world s.host = some f.cause ∨
      ∃ m, s.answer game = .error f m ∧ m.Safe p.globals arena me occurs ∧
        ∃ t ∈ p.root.walk, (s.setting game).Fails arena me occurs m t f := by
  cases ready : s.program.refusal? game.world s.host with
  | some cause =>
    unfold Stage.run at failed
    rw [ready] at failed
    cases failed
    exact .inl rfl
  | none =>
    have kept := inOrder.answer orderly typed checked ready
    rw [run_eq game s ready] at failed
    obtain ⟨m, done⟩ | ⟨m, stopped⟩ | ⟨g, m, broken⟩ := (s.answer game).cases_on
    · rw [done] at failed
      cases failed
    · rw [stopped] at failed
      cases failed
    · rw [broken] at failed kept
      cases failed
      exact .inr ⟨m, broken, kept⟩

/-- A live assignment stores a value of the declared type. -/
theorem assignment (inOrder : s.InOrder p me occurs) {at? : Option Position} {name : String} {e : Expr}
    {m m' : Machine σ} (comes : s.Comes game (.assignment at? name e) m) (live : m.run.seeking = false)
    (done : (s.setting game).execute (.assignment at? name e) m = .ok true m') :
    ∃ w, m'.table = m.table.set name w ∧ (p.globals.get? name).map Variable.ty = some w.ty ∧
      w.value.ty = w.ty := by
  have inside : Stmt.assignment at? name e ∈ p.root.walk := inOrder.root ▸ comes.mem_walk
  have safe := inOrder.safe_of_comes orderly typed checked comes
  have stores : Exec.Meets _ _ (Exec.assign (s.setting game) at? name e) (m.onRun RunState.charge) :=
    Setting.meets_assign orderly inOrder.bound (typed _ inside) (checked _ inside)
      ⟨safe.fits, safe.occurs, safe.placed⟩
  rw [(s.setting game).execute_leaf rfl, live] at done
  cases paid : m.run.exhausted with
  | true =>
    rw [paid] at done
    cases done
  | false =>
    rw [paid, if_neg (by simp), if_neg (by simp)] at done
    unfold Exec.Meets at stores
    rw [show EStateM.run (Exec.assign (s.setting game) at? name e) (m.onRun RunState.charge) = .ok true m' from done]
      at stores
    exact stores.2

end

section

variable (tame : game.Tame arena me occurs) (typed : p.root.WellTyped p.globals) (checked : p.root.Checked p.globals)

include tame typed checked

theorem foldl (inOrder : s.InOrder p me occurs) {steps : List (HostStep σ)}
    (lawful : ∀ step ∈ steps, step.Lawful occurs) :
    (steps.foldl (HostStep.apply game) s).InOrder p me occurs :=
  inOrder.after tame.orderly typed checked lawful

theorem goesRight (inOrder : s.InOrder p me occurs) : s.GoesRight game arena p where
  table := inOrder.fits
  faults f failed := by
    obtain refused | ⟨m, ended, -, t, inside, fails⟩ := inOrder.fault tame.orderly typed checked failed
    · have right := Program.goesWrong_of_refusal refused
      exact ⟨Cause.breaksDown_of_goesWrong right, .inl ⟨right, .inl refused⟩⟩
    · obtain raises | trips := fails.of_tame tame
      · exact ⟨Cause.breaksDown_of_goesWrong raises.goesWrong,
          .inl ⟨raises.goesWrong, .inr ⟨m, ended, t, inside, raises⟩⟩⟩
      · exact ⟨trips.breaksDown, .inr ⟨m, ended, t, inside, trips⟩⟩
  values {t m m' e} comes needs := by
    have inside : t ∈ p.root.walk := inOrder.root ▸ comes.mem_walk
    have wellTyped := (typed t inside).expression needs.directly
    refine ((inOrder.sound_env tame.orderly typed checked comes needs).meets_eval wellTyped).mono
      (fun v known ty demanded => ?_) fun f raises => raises
    have same := Stmt.ty?_of_demand (typed t inside) (checked t inside) needs.directly demanded
    exact Option.some.inj (known.symm.trans same)
  operands {t m m' e} comes needs part among operand directly := by
    have inside : t ∈ p.root.walk := inOrder.root ▸ comes.mem_walk
    have wellTyped := ((typed t inside).expression needs.directly).part part among
    refine ((inOrder.sound_env tame.orderly typed checked comes needs).meets_eval (wellTyped.operand directly)).mono
      (fun v known => ?_) fun f raises => raises
    rw [← wellTyped.ty?_operand directly]
    exact known
  assignments comes live done := inOrder.assignment tame.orderly typed checked comes live done

end

end InOrder

/-- A program that its host has bound is in order, with any host state that occurs. -/
theorem inOrder_of_bind {source : String} {file : Option String} {handler? given? : Option HandlerId}
    {budget : Except Fault Int} {p bound : Program} (parsed : Program.parse source file handler? budget = .ok p)
    {me : EntityId} (binds : p.bind (some me) given? = .ok bound) {occurs : σ → Prop} {host : σ}
    (here : occurs host) (log : Log) : InOrder p me occurs { program := bound, host, log } := by
  obtain ⟨-, id, handler, same, -, rfl⟩ := Program.bind_ok_iff.mp binds
  exact ⟨rfl, same.symm, Program.fits_of_parse parsed, here⟩

/-- A program that comes out of its text cannot go wrong on types or names, in any run after any lawful steps of its
host, with any handler that neither fails nor takes the bound entity out of its sandbox; on a type it fails only where
it trips over what the host put on a being. -/
theorem goesRight_of_parse {source : String} {file : Option String} {handler? given? : Option HandlerId}
    {budget : Except Fault Int} {p bound : Program} (parsed : Program.parse source file handler? budget = .ok p)
    {game : Game σ} {arena : σ → Arena} {me : EntityId} {occurs : σ → Prop} (tame : game.Tame arena me occurs)
    (binds : p.bind (some me) given? = .ok bound) {host : σ} (here : occurs host) (log : Log)
    {steps : List (HostStep σ)} (lawful : ∀ step ∈ steps, step.Lawful occurs) :
    (steps.foldl (HostStep.apply game) { program := bound, host, log }).GoesRight game arena p := by
  have typed := Program.wellTyped_of_parse parsed
  have checked := Program.checked_of_parse parsed
  have start := inOrder_of_bind parsed binds here log
  exact (start.foldl tame typed checked lawful).goesRight tame typed checked

end Stage

namespace Sandbox

/-- The handler answers as it was told, and the world is no bare interface. -/
structure Scripted (s : Sandbox) : Prop where
  keeper : ∃ answers records, s.keeper = .scripted answers records
  sandbox : s.arena.isBare = false

/-- A scripted handler neither fails nor touches the world. -/
theorem tame_scripted (me : EntityId) : game.Tame arena me Scripted where
  world := rfl
  sandbox _ scripted := scripted.sandbox
  perform s deed scripted placed := by
    obtain ⟨⟨answers, records, keeper⟩, sandbox⟩ := scripted
    have answered : game.handler.perform me deed s = attempt { deed, entity := me } s := rfl
    rw [answered, attempt, handle, keeper]
    exact ⟨_, _, rfl, ⟨⟨_, _, rfl⟩, sandbox⟩, placed⟩
  print s text scripted placed := by
    obtain ⟨⟨answers, records, keeper⟩, sandbox⟩ := scripted
    have printed : game.handler.print text s = print (.text text) s := rfl
    rw [printed, print, keeper]
    exact ⟨_, rfl, ⟨⟨_, _, rfl⟩, sandbox⟩, placed⟩

end Sandbox

namespace Forager

/-- A program that adds up where the worms are. -/
def source : String := "entity v; double n; foreach (worm, v) do \x7b n := n + getx v; \x7d turn n; print v;"

def program : Program := (Program.parse source none none (.ok 2)).toOption.getD default

theorem parse_source : Program.parse source none none (.ok 2) = .ok program :=
  ok_getD_of_isSome (by decide +kernel)

def bound : Program := { program with context := { entity? := some ⟨0⟩ }, handler? := some ⟨0⟩ }

def sandbox : Sandbox where
  arena := { beings := #[.worm default, .worm default], members := [⟨0⟩, ⟨1⟩] }
  keeper := .scripted [] {}

/-- The program runs out of budget in its loop; then its host stores null in the loop variable, sends the other worm
away and gives it a larger budget. -/
def steps : List (HostStep Sandbox) :=
  [.run, .table (·.stored sandbox.arena.names "v" .null),
    .world fun s => { s with arena := { s.arena with members := s.arena.members.erase ⟨1⟩ } }, .maxStatements 9]

def after : Stage Sandbox := steps.foldl (HostStep.apply Sandbox.game) { program := bound, host := sandbox }

theorem bind_program : program.bind (some ⟨0⟩) (some ⟨0⟩) = .ok bound :=
  Program.bind_ok_iff.mpr ⟨by decide +kernel, _, _, rfl, rfl, rfl⟩

theorem scripted_sandbox : sandbox.Scripted := ⟨⟨_, _, rfl⟩, rfl⟩

theorem lawful_steps : ∀ step ∈ steps, step.Lawful Sandbox.Scripted := by
  intro step member
  simp only [steps, List.mem_cons, List.not_mem_nil, or_false] at member
  obtain rfl | rfl | rfl | rfl := member
  · trivial
  · exact fun t => ⟨_, _, _, rfl⟩
  · exact fun s scripted => ⟨scripted.keeper, scripted.sandbox⟩
  · trivial

end Forager

/-- The next run of the forager goes on in its loop, gets to its end, and cannot go wrong. -/
theorem forager_goesRight :
    Program.parse Forager.source none none (.ok 2) = .ok Forager.program ∧
      Forager.program.bind (some ⟨0⟩) (some ⟨0⟩) = .ok Forager.bound ∧
      Forager.after.program.state.cursor.bind Stmt.id? = some ⟨0⟩ ∧
      (Forager.after.run Sandbox.game).1 = .ok () ∧
      Forager.after.GoesRight Sandbox.game Sandbox.arena Forager.program :=
  ⟨Forager.parse_source, Forager.bind_program, by decide +kernel, ok_of_toOption (by decide +kernel),
    Stage.goesRight_of_parse Forager.parse_source (Sandbox.tame_scripted ⟨0⟩) Forager.bind_program
      Forager.scripted_sandbox #[] Forager.lawful_steps⟩

namespace Surveyor

/-- A program that prints the direction of whatever its variable refers to. -/
def source : String := "entity e; print getdir e;"

def program : Program := (Program.parse source none none (.ok 9)).toOption.getD default

theorem parse_source : Program.parse source none none (.ok 9) = .ok program :=
  ok_getD_of_isSome (by decide +kernel)

def bound : Program := { program with context := { entity? := some ⟨0⟩ }, handler? := some ⟨0⟩ }

theorem bind_program : program.bind (some ⟨0⟩) (some ⟨0⟩) = .ok bound :=
  Program.bind_ok_iff.mpr ⟨by decide +kernel, _, _, rfl, rfl, rfl⟩

/-- A worm with a scripted handler, and a rock whose host wrote two numbers on it as its direction. -/
def sandbox : Sandbox where
  arena := {
    beings := #[.worm default, .rock "r"]
    members := [⟨0⟩, ⟨1⟩]
    extras := [((⟨1⟩, "direction"), .tuple [.float 1.0, .float 2.0])] }
  keeper := .scripted [] {}

/-- The host stores the rock in the variable. -/
def steps : List (HostStep Sandbox) := [.table (·.stored sandbox.arena.names "e" (.being ⟨1⟩))]

theorem lawful_steps : ∀ step ∈ steps, step.Lawful Sandbox.Scripted := by
  intro step member
  cases List.mem_singleton.mp member
  exact fun t => ⟨_, _, _, rfl⟩

def after : Stage Sandbox := steps.foldl (HostStep.apply Sandbox.game) { program := bound, host := sandbox }

theorem goesWrong_after : ∃ f, (after.run Sandbox.game).1 = .error f ∧ f.cause.goesWrong = true := by
  have wrong : (match (after.run Sandbox.game).1 with | .ok _ => false | .error f => f.cause.goesWrong) = true := by
    decide +kernel
  split at wrong
  · cases wrong
  · next f failed => exact ⟨f, failed, wrong⟩

end Surveyor

/-- A run can go wrong on a type over what a host put on a being: the surveyor asks a rock for its direction, and gets
two numbers, which are no value. -/
theorem surveyor_goesWrong :
    ¬ ∀ (source : String) (file : Option String) (handler? : Option HandlerId) (budget : Except Fault Int)
      (p : Program), Program.parse source file handler? budget = .ok p →
      ∀ (game : Game Sandbox) (me : EntityId) (occurs : Sandbox → Prop), game.Tame Sandbox.arena me occurs →
      ∀ (given? : Option HandlerId) (bound : Program), p.bind (some me) given? = .ok bound →
      ∀ host : Sandbox, occurs host → ∀ steps : List (HostStep Sandbox), (∀ step ∈ steps, step.Lawful occurs) →
      ∀ f, ((steps.foldl (HostStep.apply game) { program := bound, host }).run game).1 = .error f →
      f.cause.goesWrong = false := by
  intro goesRight
  obtain ⟨f, failed, wrong⟩ := Surveyor.goesWrong_after
  have right := goesRight _ _ _ _ _ Surveyor.parse_source Sandbox.game ⟨0⟩ Sandbox.Scripted (Sandbox.tame_scripted ⟨0⟩)
    (some ⟨0⟩) Surveyor.bound Surveyor.bind_program Surveyor.sandbox ⟨⟨_, _, rfl⟩, rfl⟩ Surveyor.steps
    Surveyor.lawful_steps f failed
  rw [wrong] at right
  cases right

end WormLang
