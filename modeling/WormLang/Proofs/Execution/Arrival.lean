import WormLang.Proofs.Execution.Reach
import WormLang.Proofs.Execution.Resumption

/-!
The walk to the cursor, up to the moment when the cursor is reached and the run turns live. The walk assigns nothing:
the variables on arrival are those at the start of the run, but for the variables of foreach loops. A loop around the
cursor binds its variable to its first entity, which the rest of its body is about to use. So does a loop that the
walk merely passes on its way, and that one overwrites what the program had in its variable.
-/
namespace WormLang

open Answer

namespace Stmt

section

variable (first? : LoopKind → Option EntityId) {β : Type} (view : Table Variable → β)

theorem view_passedAll {body : List Stmt}
    (step : ∀ s ∈ body, ∀ table, view (s.passed first? table) = view table) (table : Table Variable) :
    view (passedAll first? body table) = view table := by
  induction body generalizing table with
  | nil => rfl
  | cons s rest ih =>
    rw [passedAll, ih fun t member => step t (List.mem_cons_of_mem _ member)]
    exact step s List.mem_cons_self table

/-- What the loops inside a statement do not change by binding their variables, a seeking run does not change by
walking past. -/
theorem view_passed (s : Stmt) :
    (∀ t ∈ s.walk, ∀ name, t.loopVariable? = some name → ∀ table v, view (Table.set table name v) = view table) →
    ∀ table, view (s.passed first? table) = view table := by
  induction s using tree_induction with
  | sequence at? body ih =>
    intro spared table
    obtain ⟨-, inner⟩ := forall_walk_iff.mp spared
    rw [passed]
    exact view_passedAll first? view (fun s member => ih s member (inner s member)) table
  | branch id at? c yes no ihYes ihNo =>
    intro spared table
    obtain ⟨-, inner⟩ := forall_walk_iff.mp spared
    rw [passed, ihNo (inner no (by simp [children])), ihYes (inner yes (by simp [children]))]
  | loop id at? c body ih =>
    intro spared table
    obtain ⟨-, inner⟩ := forall_walk_iff.mp spared
    rw [passed, ih (inner body (by simp [children]))]
  | each id at? kind bound body ih =>
    intro spared table
    obtain ⟨own, inner⟩ := forall_walk_iff.mp spared
    rw [passed]
    split
    · rw [ih (inner body (by simp [children])), own bound rfl]
    · rfl
  | leaf s isLeaf =>
    intro spared table
    cases s with
    | assignment | print | action => rw [passed] <;> simp
    | _ => cases isLeaf
  | placeholder fault =>
    intro spared table
    rw [passed] <;> simp

end

/-- A variable that no loop inside a statement binds keeps its content when a seeking run walks past. -/
theorem get?_passed (first? : LoopKind → Option EntityId) {name : String} {s : Stmt}
    (spared : ∀ t ∈ s.walk, t.loopVariable? ≠ some name) (table : Table Variable) :
    (s.passed first? table).get? name = table.get? name := by
  refine view_passed first? (·.get? name) s (fun t inside bound own table v => ?_) table
  have other : name ≠ bound := by
    rintro rfl
    exact spared t inside own
  rw [Table.get?_set, if_neg other]

end Stmt

namespace Frame

/-- The variable that a frame binds if it is a loop over entities. -/
def loopVariable? : Frame → Option String
  | each _ _ _ name => some name
  | _ => none

/-- The variables when a seeking run has come from the front of a frame to its hole. -/
def approached (first? : LoopKind → Option EntityId) (table : Table Variable) : Frame → Table Variable
  | each _ _ kind name =>
    match first? kind with
    | some e => table.set name { ty := .entity, value := .entity (.being e) }
    | none => table
  | f => Stmt.passedAll first? f.before table

/-- The variables when a seeking run has come from the root to the end of a path. -/
def approach (first? : LoopKind → Option EntityId) : List Frame → Table Variable → Table Variable
  | [], table => table
  | f :: frames, table => approach first? frames (f.approached first? table)

theorem get?_approach (first? : LoopKind → Option EntityId) {name : String} {frames : List Frame}
    (around : ∀ f ∈ frames, f.loopVariable? ≠ some name)
    (before : ∀ f ∈ frames, ∀ s ∈ f.before, ∀ t ∈ s.walk, t.loopVariable? ≠ some name) (table : Table Variable) :
    (approach first? frames table).get? name = table.get? name := by
  induction frames generalizing table with
  | nil => rfl
  | cons f frames ih =>
    have here : (f.approached first? table).get? name = table.get? name := by
      have walked := Stmt.view_passedAll first? (·.get? name)
        (fun s member => Stmt.get?_passed first? (before f List.mem_cons_self s member)) table
      cases f with
      | each id at? kind bound =>
        have other : name ≠ bound := fun same => around _ List.mem_cons_self (congrArg some same.symm)
        rw [approached]
        split
        · rw [Table.get?_set, if_neg other]
        · rfl
      | sequence | yes | no | loop => exact walked
    rw [approach, ih (fun g member => around g (List.mem_cons_of_mem _ member))
      fun g member => before g (List.mem_cons_of_mem _ member)]
    exact here

end Frame

namespace Setting

variable {σ : Type} (setting : Setting σ)

/-- A run that is live stays live. -/
theorem keeps_finished :
    setting.Keeps (·.run.finished = true) (·.run.finished = true) (·.run.finished = true) := by
  refine @keeps_of_run σ setting (·.finished = true) (·.finished = true) (·.finished = true) (fun _ h => h)
    (fun _ h => h) (fun _ h _ => h) (fun _ _ => rfl) fun s node h => ?_
  rw [RunState.finished_suspendAt]
  exact h

/-- Nobody seeks behind what was done live. -/
theorem not_seeking_of_within {a : Answer σ} {m : Machine σ} (done : a = .ok true m) (seeking : m.run.seeking = true) :
    ¬ a.Within (·.run.finished = true) (·.run.finished = true) (·.run.finished = true) := by
  intro live
  rw [done] at live
  rw [RunState.seeking, show m.run.finished = true from live] at seeking
  cases seeking

theorem finished_of_not_seeking {m : Machine σ} (live : ¬ m.run.seeking = true) : m.run.finished = true := by
  simpa [RunState.seeking] using live

/-- Who is still seeking inside a conditional statement has entered it for free. -/
theorem entered_of_seeking {id : NodeId} {m : Machine σ} (seeking : (m.entered id).run.seeking = true) :
    m.entered id = m := by
  unfold Machine.entered at seeking ⊢
  cases here : m.run.seeking with
  | false =>
    have charged : (m.onRun RunState.charge).run.seeking = m.run.seeking := rfl
    rw [here, if_neg (by simp), charged, here] at seeking
    cases seeking
  | true =>
    rw [here, if_pos rfl] at seeking
    rw [if_pos rfl]
    cases away : m.run.isAt id with
    | false => rfl
    | true =>
      rw [away, if_pos rfl] at seeking
      cases seeking

/-- Who is seeking behind statements has walked past them. -/
theorem pastAll_of_seeking {body : List Stmt} (step : ∀ s ∈ body, ∀ m m' : Machine σ,
      setting.execute s m = .ok true m' → m'.run.seeking = true → m' = setting.past [s] m)
    {m m' : Machine σ} (done : setting.executeAll body m = .ok true m') (seeking : m'.run.seeking = true) :
    m' = setting.past body m := by
  induction body generalizing m with
  | nil =>
    rw [executeAll_nil] at done
    cases done
    rfl
  | cons s rest ih =>
    rw [executeAll_cons] at done
    obtain ⟨m1, first, later⟩ := andThen_eq_true.mp done
    have walked := ih (fun t member => step t (List.mem_cons_of_mem _ member)) later
    have seekingFirst : m1.run.seeking = true := by
      rw [walked] at seeking
      exact seeking
    rw [walked, step s List.mem_cons_self m m1 first seekingFirst]
    rfl

/-- The inside of a conditional statement that is entered live stays live. -/
theorem finished_of_interior {s : Stmt} {m m' : Machine σ} (done : setting.interior s m = .ok true m')
    (live : ¬ m.run.seeking = true) : m'.run.finished = true := by
  have ends := setting.keeps_finished.interior s m (finished_of_not_seeking live)
  rw [done] at ends
  exact ends

/-- Who seeks behind the inside of a conditional statement, and did so before it, has walked past what is in there. -/
theorem past_of_seeking_interior {s : Stmt} (step : ∀ t ∈ s.children, ∀ m m' : Machine σ,
      setting.execute t m = .ok true m' → m'.run.seeking = true → m' = setting.past [t] m)
    {id : NodeId} (own : s.id? = some id) {m m' : Machine σ} (here : m.run.seeking = true)
    (done : setting.interior s m = .ok true m') (seeking : m'.run.seeking = true) : m' = setting.past [s] m := by
  have keeps := setting.keeps_finished
  cases s with
  | branch _ at? c yes no =>
    rw [interior, if_pos here] at done
    obtain ⟨m1, passed, later⟩ := andThen_eq_true.mp done
    split at later
    · next still =>
      rw [step no (by simp [Stmt.children]) m1 m' later seeking,
        step yes (by simp [Stmt.children]) m m1 passed still]
      rfl
    · next found =>
      cases later
      exact absurd seeking found
  | loop _ at? c body =>
    have turns := keeps.guards.turns (fun m => keeps.test m c) (keeps.execute body)
    rw [interior, if_pos here] at done
    obtain ⟨m1, passed, later⟩ := andThen_eq_true.mp done
    split at later
    · cases later
      rw [step body (by simp [Stmt.children]) m m' passed seeking]
      rfl
    · next found =>
      exact absurd (turns _ m1 (finished_of_not_seeking found)) (not_seeking_of_within later seeking)
  | each _ at? kind name body =>
    have visits := keeps.guards.visits (fun m => keeps.bind m name) (keeps.execute body)
    rw [interior] at done
    split at done
    · next entities fetched =>
      have first := setting.first?_of_members fetched
      cases entities with
      | nil =>
        cases done
        exact (setting.past_each_of_none first).symm
      | cons e rest =>
        rw [visits_cons, if_pos here] at done
        split at done
        · cases done
        · obtain ⟨m1, passed, later⟩ := andThen_eq_true.mp done
          split at later
          · cases later
            rw [setting.past_each first]
            exact step body (by simp [Stmt.children]) _ m' passed seeking
          · next found =>
            exact absurd (visits rest m1 (finished_of_not_seeking found)) (not_seeking_of_within later seeking)
    · cases done
  | sequence | assignment | print | action | placeholder => cases own

/-- A run that is still seeking behind a statement has walked past it: nothing but loop variables has changed. The
induction is on the tree; who enters the cursor or starts live never seeks again. -/
theorem past_of_seeking (s : Stmt) : ∀ m m' : Machine σ, setting.execute s m = .ok true m' →
    m'.run.seeking = true → m' = setting.past [s] m := by
  have keeps := setting.keeps_finished
  induction s using Stmt.conditional_induction with
  | sequence at? body ih =>
    intro m m' done seeking
    rw [execute_sequence] at done
    exact setting.pastAll_of_seeking ih done seeking
  | conditional s id own ih =>
    intro m m' done seeking
    obtain ⟨-, inside⟩ := setting.paid_and_done_inside done own
    by_cases here : (m.entered id).run.seeking = true
    · have free := entered_of_seeking here
      rw [free] at here inside
      exact setting.past_of_seeking_interior ih own here inside seeking
    · have live := setting.finished_of_interior inside here
      rw [RunState.seeking, live] at seeking
      cases seeking
  | leaf s isLeaf =>
    intro m m' done seeking
    rw [setting.execute_leaf isLeaf] at done
    split at done
    · cases done
    · split at done
      · cases done
        exact (setting.past_leaf isLeaf m).symm
      · next live =>
        have charged : (m.onRun RunState.charge).run.finished = true := finished_of_not_seeking live
        exact absurd (keeps.effect _ s isLeaf charged) (not_seeking_of_within done seeking)
  | placeholder fault =>
    intro m m' done seeking
    rw [execute_placeholder] at done
    cases done

/-- Who seeks in the hole of a frame has come there through what is before it. -/
theorem Calls.approached {hole : Stmt} {f : Frame} {m at' : Machine σ} (calls : setting.Calls hole m f at')
    (seeking : at'.run.seeking = true) :
    at' = { m with table := f.approached (setting.game.world.first? m.host) m.table } := by
  have keeps := setting.keeps_finished
  have live : ∀ m : Machine σ, m.run.seeking = false → m.run.finished = true :=
    fun m found => finished_of_not_seeking (by simp [found])
  have never : ¬ at'.run.finished = true := by
    intro finished
    rw [RunState.seeking, finished] at seeking
    cases seeking
  cases calls with
  | sequence done => exact setting.pastAll_of_seeking (fun s _ => setting.past_of_seeking s) done seeking
  | yesSeeking paid inside => exact entered_of_seeking inside
  | noSeeking paid inside done still =>
    rw [entered_of_seeking inside] at done
    exact setting.past_of_seeking _ _ _ done seeking
  | yesLive paid entered holds =>
    refine absurd ?_ never
    rw [setting.run_of_test holds]
    exact live _ entered
  | noLive paid entered fails =>
    refine absurd ?_ never
    rw [setting.run_of_test fails]
    exact live _ entered
  | loopSeeking paid inside => exact entered_of_seeking inside
  | loopResumed paid inside done found turn =>
    exact absurd (turn.guards keeps.guards (fun m => keeps.test m _) (keeps.execute hole) (live _ found)) never
  | loopLive paid entered turn =>
    exact absurd (turn.guards keeps.guards (fun m => keeps.test m _) (keeps.execute hole) (live _ entered)) never
  | @each id at? kind name entities _ paid fetched visit =>
    by_cases inside : (m.entered id).run.seeking = true
    · rw [entered_of_seeking inside] at fetched visit inside
      have first := setting.first?_of_members fetched
      cases visit with
      | @here e rest _ paid =>
        simp [Machine.visiting, Machine.bound, inside, Frame.approached, first]
      | later paid done found others =>
        rw [inside, Bool.true_and] at found
        exact absurd (others.guards keeps.guards (fun m => keeps.bind m name) (keeps.execute hole) (live _ found)) never
    · exact absurd (visit.guards keeps.guards (fun m => keeps.bind m name) (keeps.execute hole)
        (finished_of_not_seeking inside)) never

/-- Who seeks at the end of a path has come there along it. -/
theorem Reaches.approach {t : Stmt} {frames : List Frame} {m at' : Machine σ}
    (reaches : setting.Reaches t frames m at') (seeking : at'.run.seeking = true) :
    at' = { m with table := Frame.approach (setting.game.world.first? m.host) frames m.table } := by
  induction reaches with
  | here => rfl
  | @inside f frames m m' at' calls rest ih =>
    have walked := ih seeking
    have seekingThere : m'.run.seeking = true := by
      rw [walked] at seeking
      exact seeking
    rw [walked, calls.approached setting seekingThere]
    rfl

/-- A seeking run that gets through a frame goes on seeking in its hole. -/
theorem calls_of_seeks (hole : Stmt) {id : NodeId} {f : Frame} (apart : f.Apart id)
    (solid : ∀ s ∈ f.before, s.Solid) {m : Machine σ} (seeks : m.Seeks id) (admits : setting.Admits m f) :
    ∃ t, m.table.SameTypes t ∧ setting.Calls hole m f { m with table := t } := by
  obtain ⟨notHere, notBefore⟩ := apart
  obtain ⟨passable, opens⟩ := admits
  obtain ⟨walked, types⟩ :=
    setting.executeAll_past seeks (fun s before => ⟨notBefore s before, solid s before⟩) passable
  have free : ∀ other, f.id? = some other → m.entered other = m := fun other own =>
    seeks.entered_other fun same => notHere (own.trans (congrArg some same))
  cases f with
  | sequence at? before after => exact ⟨_, types, .sequence walked⟩
  | yes other at? c no =>
    have calls : setting.Calls hole m (.yes other at? c no) (m.entered other) :=
      .yesSeeking seeks.paid (by rw [free other rfl]; exact seeks.seeking)
    rw [free other rfl] at calls
    exact ⟨m.table, .refl _, calls⟩
  | no other at? c yes =>
    refine ⟨_, types, .noSeeking seeks.paid ?_ ?_ seeks.seeking⟩
    · rw [free other rfl]
      exact seeks.seeking
    · rw [free other rfl, ← executeAll_singleton]
      exact walked
  | loop other at? c =>
    have calls : setting.Calls hole m (.loop other at? c) (m.entered other) :=
      .loopSeeking seeks.paid (by rw [free other rfl]; exact seeks.seeking)
    rw [free other rfl] at calls
    exact ⟨m.table, .refl _, calls⟩
  | each other at? kind name =>
    obtain ⟨e, rest, fetched⟩ := opens
    obtain ⟨⟨v, declared, ty⟩, -⟩ := setting.members_ok fetched
    have binding : m.table.SameTypes (m.bound name e).table := Table.sameTypes_set declared ty.symm
    have visit : setting.VisitAt name hole (e :: rest) m (m.visiting name e) := .here seeks.paid
    rw [Machine.visiting, seeks.seeking, if_pos rfl] at visit
    have calls : setting.Calls hole m (.each other at? kind name) (m.bound name e) :=
      .each seeks.paid (by rw [free other rfl]; exact fetched) (by rw [free other rfl]; exact visit)
    exact ⟨_, binding, calls⟩

/-- A seeking run that gets through all frames of a path reaches its end, still seeking. -/
theorem reaches_of_seeks {c : Stmt} {id : NodeId} (frames : List Frame) (apart : ∀ f ∈ frames, f.Apart id)
    (solid : ∀ f ∈ frames, ∀ s ∈ f.before, s.Solid) (m : Machine σ) (seeks : m.Seeks id)
    (admits : ∀ f ∈ frames, setting.Admits m f) : ∃ m', setting.Reaches c frames m m' ∧ m'.Seeks id := by
  induction frames generalizing m with
  | nil => exact ⟨m, .here, seeks⟩
  | cons f frames ih =>
    obtain ⟨t, types, calls⟩ := setting.calls_of_seeks (Frame.plugAll frames c) (apart f List.mem_cons_self)
      (solid f List.mem_cons_self) seeks (admits f List.mem_cons_self)
    obtain ⟨m', reaches, stillSeeks⟩ := ih (fun g member => apart g (List.mem_cons_of_mem _ member))
      (fun g member => solid g (List.mem_cons_of_mem _ member)) _ (seeks.withTable t)
      fun g member => setting.admits_withTable types (admits g (List.mem_cons_of_mem _ member))
    exact ⟨m', .inside calls reaches, stillSeeks⟩

end Setting

namespace Stage

variable {σ : Type}

/-- A run comes to the cursor that the last run left, at the end of a path from the root, while it still seeks and
has budget: the moment when it turns live. -/
structure Arrives (game : Game σ) (s : Stage σ) (frames : List Frame) (c : Stmt) (m : Machine σ) : Prop where
  path : Frame.plugAll frames c = s.program.root
  conditional : c.isConditional = true
  cursor : s.program.state.cursor = some c
  reaches : (s.setting game).Reaches c frames s.started m
  seeking : m.run.seeking = true
  paid : m.run.exhausted = false

namespace Arrives

variable {game : Game σ} {s : Stage σ} {frames : List Frame} {c : Stmt} {m : Machine σ}

/-- Nothing but loop variables has changed on the way. -/
theorem eq_approach (arrives : s.Arrives game frames c m) :
    m = { s.started with table := Frame.approach (game.world.first? s.host) frames s.program.globals } :=
  arrives.reaches.approach _ arrives.seeking

theorem seeks (arrives : s.Arrives game frames c m) {id : NodeId} (own : c.id? = some id) : m.Seeks id := by
  refine ⟨arrives.seeking, arrives.paid, c, ?_, own⟩
  rw [arrives.eq_approach]
  exact arrives.cursor

end Arrives

/-- A run that the walk to its cursor does not stop arrives there. -/
theorem exists_arrives {source : String} {file : Option String} {handler? : Option HandlerId}
    {budget : Except Fault Int} {p : Program} (parsed : Program.parse source file handler? budget = .ok p)
    {game : Game σ} {s : Stage σ}
    (root : s.program.root = p.root) {frames : List Frame} {c : Stmt} (stopped : s.StoppedAt game frames c) :
    ∃ m, s.Arrives game frames c m := by
  obtain ⟨id, own⟩ := Option.isSome_iff_exists.mp stopped.conditional
  have path : Frame.plugAll frames c = p.root := stopped.path.trans root
  have unique : (Frame.plugAll frames c).ids.Nodup := path ▸ Program.ids_nodup_of_parse parsed
  have solid : (Frame.plugAll frames c).Solid := path ▸ (Program.wellTyped_of_parse parsed).solid
  obtain ⟨m, reaches, seeks⟩ := (s.setting game).reaches_of_seeks (c := c) frames
    (Frame.apart_of_plugAll unique (Stmt.mem_ids_self own)) (Frame.solid_of_plugAll solid) s.started
    (seeks_started stopped own) stopped.admits
  exact ⟨m, stopped.path, stopped.conditional, stopped.cursor, reaches, seeks.seeking, seeks.paid⟩

/-- When a run arrives at its cursor, nothing but loop variables has changed since the last run was suspended: those
of the loops around the cursor and those of the loops that the walk has passed. From there on the run is live, on
these variables. -/
theorem arrival_spares_variables {game : Game σ} {s : Stage σ} {frames : List Frame} {c : Stmt} {m : Machine σ}
    (arrives : s.Arrives game frames c m) :
    m = { s.started with table := Frame.approach (game.world.first? s.host) frames s.program.globals } ∧
    (∀ id, c.id? = some id → (m.entered id).run.Live ∧ (m.entered id).table = m.table) ∧
    ∀ name, (∀ f ∈ frames, f.loopVariable? ≠ some name) →
      (∀ f ∈ frames, ∀ t ∈ f.before, ∀ u ∈ t.walk, u.loopVariable? ≠ some name) →
      m.table.get? name = s.program.globals.get? name := by
  refine ⟨arrives.eq_approach, fun id own => ?_, fun name around before => ?_⟩
  · have seeks := arrives.seeks own
    unfold Machine.entered
    rw [seeks.seeking, seeks.isAt_self, if_pos rfl, if_pos rfl]
    exact ⟨⟨rfl, rfl⟩, rfl⟩
  · rw [arrives.eq_approach]
    exact Frame.get?_approach _ around before _

end Stage

namespace Lookout

/-- A program that empties the variable of a loop over worms and then stops in a while loop behind it. -/
def source : String :=
  "bool b := true; entity v; foreach (worm, v) do \x7b \x7d v := null; while true \x7b print v; \x7d"

def watch : Stmt :=
  .loop ⟨1⟩ (onFirstLine 63 86) (.boolean (onFirstLine 69 73) true)
    (.sequence (onFirstLine 74 86) [.print (onFirstLine 76 84) (.access (onFirstLine 82 83) "v" .entity)])

def path : List Frame :=
  [.sequence (onFirstLine 1 86)
    [.assignment (onFirstLine 1 16) "b" (.boolean (onFirstLine 11 15) true),
      .each ⟨0⟩ (onFirstLine 27 51) .worm "v" (.sequence (onFirstLine 48 51) []),
      .assignment (onFirstLine 52 62) "v" (.null (onFirstLine 57 61))] []]

def program : Program where
  root := Frame.plugAll path watch
  globals := { entries := [("b", .ofTy .boolean), ("v", .ofTy .entity)] }
  maxStatements := 8

def bound : Stage (List String) where
  program := { program with context := { entity? := some ⟨0⟩ } }
  host := []

def suspended : Stage (List String) := (bound.run soloGame).2

set_option maxRecDepth 20000 in
theorem parse_source : Program.parse source none none (.ok 8) = .ok program := by
  cbv

theorem run_bound : bound.run soloGame = (.ok (), suspended) :=
  Prod.ext (ok_of_toOption (by decide +kernel)) rfl

/-- The program stops at its while loop: no other statement has that identity. -/
theorem cursor_suspended : suspended.program.state.cursor = some watch := by
  have fresh : bound.CursorInside program.root := ⟨rfl, fun c (absent : none = some c) => nomatch absent⟩
  have inside : suspended.CursorInside program.root := fresh.run soloGame
  have here : suspended.program.state.cursor.bind Stmt.id? = some ⟨1⟩ := by decide +kernel
  obtain ⟨c, cursor, own⟩ := Option.bind_eq_some_iff.mp here
  obtain ⟨member, -⟩ := inside.2 c cursor
  simp only [program, path, watch, Frame.plugAll, Frame.plug, List.cons_append, List.nil_append, Stmt.walk,
    Stmt.walkAll, List.append_nil, List.mem_cons, List.not_mem_nil, or_false] at member
  rw [cursor]
  obtain rfl | rfl | rfl | rfl | rfl | rfl | rfl | rfl := member
  all_goals first | rfl | cases own

theorem suspended_stoppedAt : suspended.StoppedAt soloGame path watch := by
  refine ⟨Option.isNone_iff_eq_none.mp (by decide +kernel), by decide, rfl, rfl, cursor_suspended, ?_⟩
  intro f member
  rw [List.mem_singleton.mp member]
  exact ⟨⟨trivial, ⟨[⟨0⟩], ok_of_toOption (by decide +kernel), fun _ => trivial⟩, trivial, trivial⟩, trivial⟩

def held (name : String) (table : Table Variable) : Option Handle := (table.get? name).map (·.value.toHandle)

end Lookout

/-- On arrival the variable that no loop binds is as it was, and the emptied one holds the first worm. -/
theorem lookout_arrival_spares_variables :
    Program.parse Lookout.source none none (.ok 8) = .ok Lookout.program ∧
      Lookout.bound.run soloGame = (.ok (), Lookout.suspended) ∧
      ∃ m, Lookout.suspended.Arrives soloGame Lookout.path Lookout.watch m ∧
        m.table.get? "b" = Lookout.suspended.program.globals.get? "b" ∧
        Lookout.held "v" m.table = some (.being ⟨0⟩) := by
  obtain ⟨m, arrives⟩ := Stage.exists_arrives Lookout.parse_source rfl Lookout.suspended_stoppedAt
  obtain ⟨walked, -, spared⟩ := Stage.arrival_spares_variables arrives
  refine ⟨Lookout.parse_source, Lookout.run_bound, m, arrives, spared "b" ?_ ?_, ?_⟩
  · simp [Lookout.path, Frame.loopVariable?]
  · simp [Lookout.path, Frame.before, Stmt.walk, Stmt.walkAll, Stmt.loopVariable?]
  · rw [walked]
    decide +kernel

/-- The loops around the cursor are not the only ones whose variables change: a variable that no loop around it binds
held nothing when the run was suspended, and holds an entity when the next run arrives. -/
theorem arrival_disturbs_variables :
    ¬ ∀ (source : String) (file : Option String) (handler? : Option HandlerId) (budget : Except Fault Int)
      (p : Program), Program.parse source file handler? budget = .ok p →
      ∀ (game : Game (List String)) (before s : Stage (List String)), before.program.root = p.root →
      before.run game = (.ok (), s) → s.program.isFinished = false →
      ∀ (frames : List Frame) (c : Stmt) (m : Machine (List String)), s.Arrives game frames c m →
      ∀ name, (∀ f ∈ frames, f.loopVariable? ≠ some name) → m.table.get? name = s.program.globals.get? name := by
  intro spares
  obtain ⟨m, arrives⟩ := Stage.exists_arrives Lookout.parse_source rfl Lookout.suspended_stoppedAt
  have same := spares _ _ _ _ _ Lookout.parse_source soloGame Lookout.bound Lookout.suspended rfl Lookout.run_bound
    (by decide +kernel) _ _ m arrives "v" (by simp [Lookout.path, Frame.loopVariable?])
  have onArrival : Lookout.held "v" m.table = some (.being ⟨0⟩) := by
    rw [arrives.eq_approach]
    decide +kernel
  have onSuspension : Lookout.held "v" Lookout.suspended.program.globals = some .null := by decide +kernel
  rw [Lookout.held, same, ← Lookout.held, onSuspension] at onArrival
  cases onArrival

end WormLang
