import WormLang.Proofs.Execution.Payment
import WormLang.Proofs.Soundness.Misreading
import WormLang.Proofs.Soundness.Program

/-!
Programs whose host rewrites their variables. Between runs a host can take variables away, declare others and store any
data in them. Through all of that, and at every moment of a run, each variable of the table holds a value of the type
that it was declared with last, and storing data that does not fit leaves everything as it was.
-/
namespace WormLang

open Answer

namespace Table

/-- The names of a table with the types that they were declared with. -/
def types (t : Table Variable) : List (String × Ty) := t.entries.map fun entry => (entry.1, entry.2.ty)

/-- A table with the variables that were declared, each once, and with a value of its declared type in each. -/
structure Holds (declared : List (String × Ty)) (t : Table Variable) : Prop where
  types : t.types = declared
  distinct : (declared.map Prod.fst).Nodup
  values : ∀ entry ∈ t.entries, entry.2.value.ty = entry.2.ty

theorem lookup_types (t : Table Variable) (name : String) : t.types.lookup name = (t.get? name).map Variable.ty := by
  unfold types get?
  induction t.entries with
  | nil => rfl
  | cons entry rest ih =>
    obtain ⟨key, v⟩ := entry
    by_cases same : name = key
    · subst same
      simp
    · have other : (name == key) = false := by simpa using same
      simpa [List.lookup_cons, other] using ih

theorem holds_ofDeclarations {declared : List (String × Ty)} (distinct : (declared.map Prod.fst).Nodup) :
    (ofDeclarations declared).Holds declared := by
  refine ⟨?_, distinct, fun entry member => ?_⟩
  · simp [types, ofDeclarations, Variable.ofTy, Function.comp_def]
  · obtain ⟨declaration, -, rfl⟩ := List.mem_map.mp member
    exact Value.ty_default _

namespace Holds

variable {declared : List (String × Ty)} {t : Table Variable} {name : String}

theorem lookup (holds : t.Holds declared) (name : String) : declared.lookup name = (t.get? name).map Variable.ty :=
  holds.types ▸ t.lookup_types name

/-- Giving a variable another value of its declared type. -/
theorem set (holds : t.Holds declared) {w : Variable} (known : declared.lookup name = some w.ty)
    (value : w.value.ty = w.ty) : (t.set name w).Holds declared := by
  have same : ∀ entry ∈ t.entries, entry.1 = name → entry.2.ty = w.ty := by
    intro entry member here
    have listed : (name, entry.2.ty) ∈ declared := by
      rw [← holds.types]
      exact List.mem_map.mpr ⟨entry, member, by rw [here]⟩
    exact Option.some.inj (((lookup_eq_some_iff_mem holds.distinct).mpr listed).symm.trans known)
  refine ⟨?_, holds.distinct, fun entry member => ?_⟩
  · rw [← holds.types]
    unfold Table.types Table.set
    rw [List.map_map]
    refine List.map_congr_left fun entry member => ?_
    by_cases here : entry.1 = name
    · simp [here, same entry member here]
    · simp [here]
  · obtain ⟨old, among, rfl⟩ := List.mem_map.mp member
    split
    · exact value
    · exact holds.values old among

theorem names (holds : t.Holds declared) : t.names = declared.map Prod.fst := by
  rw [← holds.types]
  simp [Table.names, Table.types]

/-- Declaring a variable under a new name. -/
theorem push (holds : t.Holds declared) (fresh : name ∉ t.names) (ty : Ty) :
    (t.push name (.ofTy ty)).Holds (declared ++ [(name, ty)]) := by
  refine ⟨?_, ?_, fun entry member => ?_⟩
  · rw [← holds.types]
    simp [Table.types, Table.push, Variable.ofTy]
  · rw [holds.names] at fresh
    rw [List.map_append, List.map_singleton, List.nodup_append]
    refine ⟨holds.distinct, by simp, fun key member other last same => fresh ?_⟩
    have same : key = name := same.trans (List.mem_singleton.mp last)
    exact same ▸ member
  · obtain old | new := List.mem_append.mp member
    · exact holds.values entry old
    · rw [List.mem_singleton.mp new]
      exact Value.ty_default ty

/-- Taking a variable away. -/
theorem filter (holds : t.Holds declared) (name : String) :
    ({ entries := t.entries.filter (·.1 != name) } : Table Variable).Holds (declared.filter (·.1 != name)) := by
  refine ⟨?_, ?_, fun entry member => holds.values entry (List.mem_filter.mp member).1⟩
  · rw [← holds.types]
    simp [Table.types, List.filter_map, Function.comp_def]
  · exact (List.filter_sublist.map Prod.fst).nodup holds.distinct

end Holds

end Table

namespace Exec.Meets

variable {σ α : Type} {setting : Setting σ} {m : Machine σ} {t : Table Variable}

theorem table_ofExcept (same : m.table = t) (x : Except Fault α) :
    Exec.Meets (fun _ m' => m'.table = t) (fun _ m' => m'.table = t) (Exec.ofExcept x) m :=
  .ofExcept (fun _ _ => same) fun _ _ => same

theorem table_eval (same : m.table = t) (e : Expr) :
    Exec.Meets (fun _ m' => m'.table = t) (fun _ m' => m'.table = t) (Exec.eval setting e) m :=
  .eval (fun _ => same) e

theorem table_perform (same : m.table = t) (me : EntityId) (deed : Deed) :
    Exec.Meets (fun _ m' => m'.table = t) (fun _ m' => m'.table = t) (Exec.perform setting me deed) m := by
  unfold Exec.Meets
  rw [show EStateM.run (Exec.perform setting me deed) m = Exec.perform setting me deed m from rfl, Exec.perform]
  obtain ⟨answer, host⟩ := setting.game.handler.perform me deed m.host
  cases answer <;> exact same

theorem table_printText (same : m.table = t) (text : String) :
    Exec.Meets (fun _ m' => m'.table = t) (fun _ m' => m'.table = t) (Exec.printText setting text) m := by
  unfold Exec.Meets
  rw [show EStateM.run (Exec.printText setting text) m = Exec.printText setting text m from rfl, Exec.printText]
  obtain ⟨answer, host⟩ := setting.game.handler.print text m.host
  cases answer <;> exact same

theorem table_attempt (same : m.table = t) (me : EntityId) (a : Action) :
    Exec.Meets (fun _ m' => m'.table = t) (fun _ m' => m'.table = t) (Exec.attempt setting me a) m := by
  cases a with
  | turn angle => exact (table_eval same angle).bind fun v m' same => table_perform same me _
  | fire power =>
    exact (table_eval same power).bind fun v m' same =>
      (table_ofExcept same _).bind fun n m' same => table_perform same me _
  | move | jump | toggleWeapon => exact table_perform same me _
  | skip => exact same

/-- A step that keeps the table keeps it typed when it fails. -/
theorem holds_of_table {declared : List (String × Ty)} (holds : t.Holds declared) {x : Exec σ α}
    (keeps : Exec.Meets (fun _ m' => m'.table = t) (fun _ m' => m'.table = t) x m) :
    Exec.Meets (fun _ m' => m'.table = t) (fun _ m' => m'.table.Holds declared) x m :=
  keeps.mono (fun _ _ same => same) fun _ _ same => same ▸ holds

end Exec.Meets

namespace Setting

variable {σ : Type} {setting : Setting σ} {declared : List (String × Ty)} {m : Machine σ}

/-- The effect of a leaf leaves a value of its declared type in every variable. -/
theorem meets_holds (holds : m.table.Holds declared) (s : Stmt) :
    Exec.Meets (fun _ m' => m'.table.Holds declared) (fun _ m' => m'.table.Holds declared) (setting.effect s) m := by
  have still : ∀ {m' : Machine σ}, m'.table = m.table → m'.table.Holds declared := fun same => same ▸ holds
  cases s with
  | assignment at? name e =>
    refine Exec.Meets.get_bind ?_
    cases found : m.table.get? name with
    | none => exact holds
    | some v =>
      refine (Exec.Meets.holds_of_table holds (.table_eval rfl e)).bind fun value m' same => ?_
      split
      · next accepted =>
        have ty : value.ty = v.ty := beq_iff_eq.mp accepted
        show (m'.table.set name { v with value }).Holds declared
        rw [same]
        exact holds.set ((holds.lookup name).trans (by rw [found]; rfl)) ty
      · exact still same
  | print at? e =>
    refine (Exec.Meets.holds_of_table holds (.table_eval rfl e)).bind fun value m' same => ?_
    refine (Exec.Meets.holds_of_table holds (.table_ofExcept same _)).bind fun _ m' same => ?_
    refine Exec.Meets.get_bind ?_
    refine (Exec.Meets.holds_of_table holds (.table_ofExcept same _)).bind fun text m' same => ?_
    exact (Exec.Meets.holds_of_table holds (.table_printText same text)).bind fun _ m' same => still same
  | action at? a =>
    refine (Exec.Meets.holds_of_table holds (.table_ofExcept rfl _)).bind fun me m' same => ?_
    refine (Exec.Meets.holds_of_table holds (.table_attempt same me a)).bind fun done m' same => ?_
    cases done <;> exact still same
  | _ => exact holds

end Setting

/-- The loop variable that a duty binds in later turns. -/
def Duty.binds? : Duty → Option String
  | visits name _ _ _ => some name
  | _ => none

/-- The loop variable that is to be bound. -/
def Control.binds? : Control → Option String
  | visit name _ _ => some name
  | _ => none

/-- Duties that bind only variables that were declared for entities. -/
def Duty.AllBind (declared : List (String × Ty)) (pending : List Duty) : Prop :=
  ∀ duty ∈ pending, ∀ name ∈ duty.binds?, declared.lookup name = some .entity

namespace Duty.AllBind

variable {declared : List (String × Ty)} {duty : Duty} {pending : List Duty}

theorem cons (own : ∀ name ∈ duty.binds?, declared.lookup name = some .entity) (others : AllBind declared pending) :
    AllBind declared (duty :: pending) := by
  intro other member
  obtain rfl | member := List.mem_cons.mp member
  · exact own
  · exact others other member

theorem tail (all : AllBind declared pending) : AllBind declared pending.tail :=
  fun duty member => all duty (List.mem_of_mem_tail member)

end Duty.AllBind

/-- A moment at which the variables are typed, and those that are to be bound to entities were declared for them. -/
structure Moment.Holds {σ : Type} (declared : List (String × Ty)) (now : Moment σ) : Prop where
  table : now.machine.table.Holds declared
  control : ∀ name ∈ now.control.binds?, declared.lookup name = some .entity
  pending : Duty.AllBind declared now.pending

namespace Moment.Holds

variable {σ : Type} {declared : List (String × Ty)} {pending : List Duty} {m : Machine σ}

/-- A moment at which no variable is to be bound. -/
theorem unbound {control : Control} (table : m.table.Holds declared) (silent : control.binds? = none)
    (duties : Duty.AllBind declared pending) : Moment.Holds declared ⟨control, pending, m⟩ :=
  ⟨table, by simp [silent], duties⟩

theorem answered {a : Answer σ} (table : (Exec.machineOf a).table.Holds declared)
    (duties : Duty.AllBind declared pending) : Moment.Holds declared (.answered pending a) := by
  cases a with
  | ok | error => exact unbound table rfl duties

theorem tested {a : Answer σ} {yes no : Machine σ → Moment σ} (table : (Exec.machineOf a).table.Holds declared)
    (duties : Duty.AllBind declared pending) (onYes : ∀ m : Machine σ, m.table.Holds declared → (yes m).Holds declared)
    (onNo : ∀ m : Machine σ, m.table.Holds declared → (no m).Holds declared) :
    Moment.Holds declared (.tested pending a yes no) := by
  obtain ⟨m, rfl⟩ | ⟨m, rfl⟩ | ⟨f, m, rfl⟩ := a.cases_on
  · exact onYes m table
  · exact onNo m table
  · exact unbound table rfl duties

end Moment.Holds

namespace Setting

variable {σ : Type} {setting : Setting σ} {declared : List (String × Ty)} {now later : Moment σ}

/-- A test keeps the variables. -/
theorem table_test (c : Expr) (m : Machine σ) : (Exec.machineOf (setting.test c m)).table = m.table := by
  obtain ⟨log, kept⟩ := setting.exists_log_test c m
  rw [kept]

open Moment.Holds in
/-- Every step keeps the variables typed. -/
theorem Goes.holds (goes : setting.Goes now later) (holds : now.Holds declared) : later.Holds declared := by
  obtain ⟨table, control, duties⟩ := holds
  cases goes with
  | opened | both | inside | turns => exact unbound table rfl (duties.cons nofun)
  | gap | halted | unpaid | skipped | started | choosing | unfetched | hollow | last => exact unbound table rfl duties
  | through | spent | left | dropped | failed | other | turn => exact unbound table rfl duties.tail
  | again | further | found => exact unbound table rfl (duties.tail.cons nofun)
  | @entered s id pending m own paid => exact unbound (m.table_entered id ▸ table) rfl (duties.cons nofun)
  | @effect s pending m => exact answered (Exec.of_within (@meets_holds σ setting declared m table s).answer) duties
  | @fetched id at? kind name body pending m entities members =>
    -- Entities are fetched only for a variable that is there and was declared for entities.
    obtain ⟨⟨v, found, ty⟩, -⟩ := setting.members_ok members
    refine unbound table rfl (duties.cons fun other binds => ?_)
    cases binds
    rw [table.lookup name, found, Option.map_some, ty]
  | @chosen c yes no pending m =>
    exact tested ((setting.table_test c m).symm ▸ table) duties (fun m table => unbound table rfl duties)
      fun m table => unbound table rfl duties
  | @turned c body pending m =>
    exact tested ((setting.table_test c m).symm ▸ table) duties
      (fun m table => unbound table rfl (duties.cons nofun)) fun m table => unbound table rfl duties
  | @bound name e body pending m => exact unbound (table.set (control name rfl) rfl) rfl duties
  | @visit name body e rest sought pending m paid =>
    have known := duties _ List.mem_cons_self
    refine ⟨?_, known, duties.tail.cons known⟩
    dsimp only
    split <;> exact table

end Setting

namespace Stage

variable {σ : Type} {declared : List (String × Ty)} {s : Stage σ}

/-- At every moment of a run the variables are typed. -/
theorem holds_moment (game : Game σ) (holds : s.program.globals.Holds declared) (k : Nat) :
    (s.moment game k).Holds declared := by
  refine s.moment_induction game ?_ (fun now holds => ((s.setting game).goes_next now).holds holds) k
  exact .unbound holds rfl (Duty.AllBind.cons nofun nofun)

theorem globals_concluded (a : Answer σ) : (s.concluded a).2.program.globals = (Exec.machineOf a).table := by
  obtain ⟨m, rfl⟩ | ⟨m, rfl⟩ | ⟨f, m, rfl⟩ := a.cases_on <;> rfl

/-- A run leaves the variables typed, however it ends. -/
theorem holds_run (game : Game σ) (holds : s.program.globals.Holds declared) :
    (s.run game).2.program.globals.Holds declared := by
  cases ready : s.program.refusal? game.world s.host with
  | some cause =>
    rw [run_of_refusal ready]
    exact holds
  | none =>
    obtain ⟨last, -, reached⟩ := s.exists_last game
    have kept := (holds_moment game holds last).table
    rw [run_eq_concluded ready, globals_concluded, ← Moment.machine_answered [], ← reached]
    exact kept

end Stage

def Step.retype (declared : List (String × Ty)) : Step → List (String × Ty)
  | declare name t => if name ≠ "" ∧ name ∉ declared.map Prod.fst then declared ++ [(name, t)] else declared
  | undeclare name => declared.filter (·.1 != name)
  | _ => declared

/-- The table after an edit, which may fail and then changes nothing. -/
def Table.edited (t : Table Variable) (f : Table Variable → Except Fault (Table Variable)) : Table Variable :=
  match f t with
  | .ok u => u
  | .error _ => t

namespace Table.Holds

variable {declared : List (String × Ty)} {t : Table Variable}

theorem edited_declare (holds : t.Holds declared) (name : String) (ty : Ty) :
    (t.edited (·.declare name (.ofTy ty) none)).Holds ((Step.declare name ty).retype declared) := by
  show Table.Holds (if name ≠ "" ∧ name ∉ declared.map Prod.fst then declared ++ [(name, ty)] else declared)
    (match t.declare name (.ofTy ty) none with | .ok u => u | .error _ => t)
  rw [← holds.names]
  by_cases fresh : name ≠ "" ∧ name ∉ t.names
  · rw [declare_eq_ok.mpr ⟨fresh.1, fresh.2, rfl⟩, if_pos fresh]
    exact holds.push fresh.2 ty
  · rw [if_neg fresh]
    cases outcome : t.declare name (.ofTy ty) none with
    | ok u =>
      obtain ⟨named, new, -⟩ := declare_eq_ok.mp outcome
      exact absurd ⟨named, new⟩ fresh
    | error f => exact holds

theorem edited_remove (holds : t.Holds declared) (name : String) :
    (t.edited (·.remove name)).Holds ((Step.undeclare name).retype declared) := by
  show Table.Holds (declared.filter (·.1 != name)) (match t.remove name with | .ok u => u | .error _ => t)
  unfold Table.remove
  by_cases known : t.contains name = true
  · rw [if_pos known]
    exact holds.filter name
  · rw [if_neg known]
    have same : declared.filter (·.1 != name) = declared := by
      refine List.filter_eq_self.mpr fun entry member => bne_iff_ne.mpr fun here => known ?_
      rw [contains_iff, holds.names, ← here]
      exact List.mem_map_of_mem member
    rw [same]
    exact holds

/-- Storing data in a variable leaves the variables typed. -/
theorem stored (holds : t.Holds declared) (names : Names) (name : String) (d : Datum) :
    (t.stored names name d).Holds declared := by
  unfold Table.stored
  split
  · exact holds
  · next v found =>
    split
    · next w stores =>
      obtain ⟨ty, value⟩ := Variable.ty_of_store stores
      refine holds.set ?_ (value.trans ty.symm)
      rw [holds.lookup name, found, Option.map_some, ty]
    · exact holds

end Table.Holds

namespace Session

variable {s s' : Session} {declared : List (String × Ty)}

def after (s : Session) (steps : List Step) : Session := steps.foldl (fun s step => (s.step step).2) s

/-- A step that is no run succeeds, or it fails and changes nothing. -/
theorem step_cases (s : Session) (step : Step) :
    step = .run ∨ (∃ reply s', s.tryStep step = .ok (reply, s') ∧ s.step step = (.ok reply, s')) ∨
      ∃ f, s.tryStep step = .error f ∧ s.step step = (.error f, s) := by
  cases tried : s.tryStep step with
  | ok out =>
    cases step with
    | run => exact .inl rfl
    | _ =>
      refine .inr (.inl ⟨out.1, out.2, rfl, ?_⟩)
      simp only [Session.step, tried]
  | error f =>
    cases step with
    | run => exact .inl rfl
    | _ =>
      refine .inr (.inr ⟨f, rfl, ?_⟩)
      simp only [Session.step, tried]

theorem holds_run (holds : s.program.globals.Holds declared) : s.run.2.program.globals.Holds declared := by
  unfold Session.run
  split
  · exact holds
  · exact Stage.holds_run Sandbox.game holds
  · split
    · unfold runToFault
      dsimp only
      split <;> exact holds
    · exact Stage.holds_run Sandbox.game (s := { s.toStage with program := _, log := #[] }) holds

/-- Editing the variables changes nothing else, and nothing at all if it fails. -/
theorem globals_of_edit (step : Step) (notRun : step ≠ .run) (f : Table Variable → Except Fault (Table Variable))
    (edits : s.tryStep step = s.edit f) : (s.step step).2.program.globals = s.program.globals.edited f := by
  unfold Table.edited
  obtain same | ⟨reply, s', tried, same⟩ | ⟨fault, tried, same⟩ := s.step_cases step
  · exact absurd same notRun
  · rw [edits, edit] at tried
    obtain ⟨t, edited, made⟩ := bind_eq_ok.mp tried
    cases made
    rw [same, edited]
    rfl
  · rw [edits, edit] at tried
    rw [same]
    cases outcome : f s.program.globals with
    | ok t =>
      rw [outcome] at tried
      cases tried
    | error _ => rfl

/-- Every step of a host leaves the variables typed, with the types that were declared last. -/
theorem holds_step (holds : s.program.globals.Holds declared) (step : Step) :
    (s.step step).2.program.globals.Holds (step.retype declared) := by
  have other : ∀ {step : Step}, step.retype declared = declared → step ≠ .run →
      (∀ reply s', s.tryStep step = .ok (reply, s') → s'.program.globals.Holds declared) →
      (s.step step).2.program.globals.Holds (step.retype declared) := by
    intro step types notRun kept
    rw [types]
    obtain same | ⟨reply, s', tried, same⟩ | ⟨f, -, same⟩ := s.step_cases step
    · exact absurd same notRun
    · exact same ▸ kept reply s' tried
    · exact same ▸ holds
  cases step with
  | run => exact holds_run holds
  | declare name t =>
    rw [globals_of_edit (.declare name t) nofun (·.declare name (.ofTy t) none) rfl]
    exact holds.edited_declare name t
  | undeclare name =>
    rw [globals_of_edit (.undeclare name) nofun (·.remove name) rfl]
    exact holds.edited_remove name
  | assign name d =>
    exact other rfl nofun fun reply s' stored => globals_of_assign stored ▸ holds.stored _ name d
  | bind entity givenHandler =>
    refine other rfl nofun fun reply s' tried => ?_
    obtain ⟨p, bound, made⟩ := bind_eq_ok.mp tried
    cases made
    obtain ⟨context, -, made⟩ := bind_eq_ok.mp bound
    cases made
    exact holds
  | clear | world | unparse | describe =>
    refine other rfl nofun fun reply s' tried => ?_
    obtain ⟨_, -, made⟩ := bind_eq_ok.mp tried
    cases made
    exact holds
  | maxStatements d =>
    refine other rfl nofun fun reply s' tried => ?_
    cases d <;>
    · cases tried
      exact holds
  | terminate | validate | isWellFormed =>
    refine other rfl nofun fun reply s' tried => ?_
    cases tried
    exact holds

theorem holds_after (holds : s.program.globals.Holds declared) (steps : List Step) :
    (s.after steps).program.globals.Holds (steps.foldl Step.retype declared) := by
  induction steps generalizing s declared with
  | nil => exact holds
  | cons step rest ih => exact ih (holds_step holds step)

/-- The variables of a program that has just come out of its text are typed. -/
theorem holds_of_parse {source : String} {file : Option String} {hasHandler : Bool} {budget : Datum} {host : Sandbox}
    (parsed : Session.parse source file hasHandler budget host = .ok s) :
    s.program.globals.Holds s.program.globals.types := by
  obtain ⟨p, read, made⟩ := bind_eq_ok.mp parsed
  cases made
  obtain ⟨declared, distinct, globals⟩ := Program.exists_declarations read
  show p.globals.Holds p.globals.types
  have holds := Table.holds_ofDeclarations distinct
  rw [globals, holds.types]
  exact holds

end Session

/-- Static types survive whatever a host does to the variables. An expression whose nodes passed the checks of their
constructors, and that has no placeholder inside, has a value of its static type or fails, whatever variables there are,
and its operators get values of the types that they need; it fails with a value of a wrong type only where a query reads
what the host put in the place of a field, and that is no number. From the text of a program on, after all steps of its
host and at every moment of the next run, each variable is there once, with a value of the type that it was declared
with last. Data that a variable refuses changes nothing. -/
theorem types_survive_rewriting :
    (∀ {σ : Type} (env : Env σ) (arena : σ → Arena), env.world = Arena.world.within arena → ∀ e : Expr, e.Made →
      (env.eval e).Meets (fun v => e.ty? = some v.ty)
        (fun f => f.kind = .valueType → ∃ part ∈ e.walk, env.Misreads arena part f) ∧
      ∀ part ∈ e.walk, ∀ o ∈ part.operands, (env.eval o).Meets (fun v => part.demand = some v.ty) fun _ => True) ∧
    ∀ (source : String) (file : Option String) (hasHandler : Bool) (budget : Datum) (host : Sandbox) (s : Session),
      Session.parse source file hasHandler budget host = .ok s → ∀ steps : List Step,
        (s.after steps).program.globals.Holds (steps.foldl Step.retype s.program.globals.types) ∧
        (∀ k, ((s.after steps).toStage.moment Sandbox.game k).machine.table.Holds
          (steps.foldl Step.retype s.program.globals.types)) ∧
        ∀ name d f, ((s.after steps).step (.assign name d)).1 = .error f →
          ((s.after steps).step (.assign name d)).2 = s.after steps := by
  refine ⟨fun env arena world e made => ?_, fun source file hasHandler budget host s parsed steps => ?_⟩
  · exact ⟨Env.meets_coherent world made.coherent, Env.meets_operand_of_coherent world made.coherent⟩
  · have holds := Session.holds_after (Session.holds_of_parse parsed) steps
    refine ⟨holds, fun k => (Stage.holds_moment Sandbox.game holds k).table, fun name d f failed => ?_⟩
    obtain same | ⟨reply, s', -, same⟩ | ⟨fault, -, same⟩ := (s.after steps).step_cases (.assign name d)
    · cases same
    · rw [same] at failed
      cases failed
    · rw [same]

namespace Prospector

/-- A program that looks at the direction of whatever its variable refers to. -/
def source : String := "entity e; print getdir e;"

def arena : Arena := { beings := #[.worm default, .rock "r"], members := [⟨0⟩, ⟨1⟩] }

def marked : Arena := arena.setExtra ⟨1⟩ "direction" (.tuple [.float 1.0, .float 2.0])

def facing : Expr := .query none .direction (.access none "e" .entity)

/-- The worm is bound, and the variable refers to the rock. -/
def env (arena : Arena) : Env Arena where
  world := Arena.world
  host := arena
  table := { entries := [("e", { ty := .entity, value := .entity (.being ⟨1⟩) })] }
  context := { entity? := some ⟨0⟩ }

theorem made_facing : facing.Made := by
  have named : Expr.mkAccess none "e" .entity = .ok (.access none "e" .entity) := by simp [Expr.mkAccess]
  exact .query (.access named) rfl

theorem facing_fails : ∃ f log, EStateM.run ((env marked).eval facing) #[] = .error f log ∧ f.kind = .valueType :=
  ⟨_, _, rfl, rfl⟩

end Prospector

/-- A direction that the host wrote on the rock, a pair of numbers, is no number: asking for it fails with a value of a
wrong type. -/
theorem marked_rock_misread : Prospector.facing.Made ∧
    Prospector.arena.write ⟨1⟩ "direction" (.tuple [.float 1.0, .float 2.0]) = .ok Prospector.marked ∧
    ∃ f log, EStateM.run ((Prospector.env Prospector.marked).eval Prospector.facing) #[] = .error f log ∧
      f.kind = .valueType :=
  ⟨Prospector.made_facing, rfl, Prospector.facing_fails⟩

/-- The host declares the variable anew, for a number. It holds one from then on, and takes no truth value; what the
program reads off the rock is a misreading. -/
theorem prospector_types_survive :
    (∃ f log, EStateM.run ((Prospector.env Prospector.marked).eval Prospector.facing) #[] = .error f log ∧
      ∃ part ∈ Prospector.facing.walk, (Prospector.env Prospector.marked).Misreads id part f) ∧
    ∃ s, Session.parse Prospector.source none true .null { arena := Prospector.arena } = .ok s ∧
      let now := s.after [.undeclare "e", .declare "e" .number, .assign "e" (.float 2.0), .run]
      now.program.globals.Holds [("e", .number)] ∧
      ∃ f, (now.step (.assign "e" (.truth true))).1 = .error f ∧ (now.step (.assign "e" (.truth true))).2 = now := by
  obtain ⟨values, tables⟩ := types_survive_rewriting
  refine ⟨?_, ?_⟩
  · obtain ⟨f, log, fails, kind⟩ := Prospector.facing_fails
    have meets := (values (Prospector.env Prospector.marked) id rfl Prospector.facing Prospector.made_facing).1
    exact ⟨f, log, fails, (meets #[]).2 f log fails kind⟩
  · have known : ((Session.parse Prospector.source none true .null { arena := Prospector.arena }).toOption.map
        fun s => (s.program.globals.types, ((s.after [.undeclare "e", .declare "e" .number, .assign "e" (.float 2.0),
          .run]).step (.assign "e" (.truth true))).1.toOption.isNone)) = some ([("e", .entity)], true) := by
      decide +kernel
    obtain ⟨s, parsed, facts⟩ := Option.map_eq_some_iff.mp known
    obtain ⟨types, refused⟩ := Prod.mk.inj facts
    have parsed := ok_of_toOption parsed
    obtain ⟨holds, -, unchanged⟩ := tables Prospector.source none true .null { arena := Prospector.arena } s parsed
      [.undeclare "e", .declare "e" .number, .assign "e" (.float 2.0), .run]
    rw [types] at holds
    refine ⟨s, parsed, holds, ?_⟩
    cases outcome : ((s.after [.undeclare "e", .declare "e" .number, .assign "e" (.float 2.0), .run]).step
      (.assign "e" (.truth true))).1 with
    | ok reply =>
      rw [outcome] at refused
      cases refused
    | error f => exact ⟨f, rfl, unchanged "e" (.truth true) f outcome⟩

end WormLang
