import WormLang.Proofs.Execution.Run
import WormLang.Proofs.Build.Outcome

/-!
Where a run stops. When a run has to stop, one statement is the first to return that; the stop then passes through
the statements around it, and the innermost conditional statement on the way becomes the cursor. A run that stops
before it reached its old cursor keeps it.

The first statement to stop is found by following the calls that execution makes from a statement to those directly
inside it.
-/
namespace WormLang

open Answer

/-- The machine on which the body of a foreach loop runs: a live turn is paid for. -/
def Machine.visiting {σ : Type} (name : String) (e : EntityId) (m : Machine σ) : Machine σ :=
  (if m.run.seeking then m else m.onRun RunState.charge).bound name e

namespace Setting

variable {σ : Type} (setting : Setting σ)

/-- One turn of a foreach loop, whether the run is seeking or live. -/
theorem visits_turn (name : String) (body : Stmt) (e : EntityId) (rest : List EntityId) {m : Machine σ}
    (paid : m.run.exhausted = false) :
    setting.visits name body (e :: rest) m = andThen (setting.execute body (m.visiting name e)) fun m' =>
      if m.run.seeking && m'.run.seeking then .ok true m' else setting.visits name body rest m' := by
  rw [visits_cons, paid, if_neg (by simp)]
  unfold Machine.visiting
  cases m.run.seeking <;> simp

/-- Executing a statement on a machine returns that the run must stop. -/
def Falls (s : Stmt) (m : Machine σ) : Prop := ∃ m', setting.execute s m = .ok false m'

/-- The turns of a while loop that start on one machine execute the body on another. -/
inductive TurnAt (c : Expr) (body : Stmt) : Machine σ → Machine σ → Prop
  | here {m m' : Machine σ} (paid : m.run.exhausted = false)
    (holds : setting.test c (m.onRun RunState.charge) = .ok true m') : TurnAt c body m m'
  | later {m m' m'' at' : Machine σ} (paid : m.run.exhausted = false)
    (holds : setting.test c (m.onRun RunState.charge) = .ok true m')
    (done : setting.execute body m' = .ok true m'') (rest : TurnAt c body m'' at') : TurnAt c body m at'

/-- The turns of a foreach loop that start on one machine execute the body on another. A seeking turn is followed
by others only if it found the cursor. -/
inductive VisitAt (name : String) (body : Stmt) : List EntityId → Machine σ → Machine σ → Prop
  | here {e : EntityId} {rest : List EntityId} {m : Machine σ} (paid : m.run.exhausted = false) :
    VisitAt name body (e :: rest) m (m.visiting name e)
  | later {e : EntityId} {rest : List EntityId} {m m' at' : Machine σ} (paid : m.run.exhausted = false)
    (done : setting.execute body (m.visiting name e) = .ok true m')
    (found : (m.run.seeking && m'.run.seeking) = false) (others : VisitAt name body rest m' at') :
    VisitAt name body (e :: rest) m at'

/-- Executing a frame with its hole filled executes the hole on a machine. -/
inductive Calls (hole : Stmt) (m : Machine σ) : Frame → Machine σ → Prop
  | sequence {at? : Option Position} {before after : List Stmt} {m' : Machine σ}
    (done : setting.executeAll before m = .ok true m') : Calls hole m (.sequence at? before after) m'
  | yesSeeking {id : NodeId} {at? : Option Position} {c : Expr} {no : Stmt} (paid : m.run.exhausted = false)
    (seeking : (m.entered id).run.seeking = true) : Calls hole m (.yes id at? c no) (m.entered id)
  | noSeeking {id : NodeId} {at? : Option Position} {c : Expr} {yes : Stmt} {m' : Machine σ}
    (paid : m.run.exhausted = false) (seeking : (m.entered id).run.seeking = true)
    (done : setting.execute yes (m.entered id) = .ok true m') (still : m'.run.seeking = true) :
    Calls hole m (.no id at? c yes) m'
  | yesLive {id : NodeId} {at? : Option Position} {c : Expr} {no : Stmt} {m' : Machine σ}
    (paid : m.run.exhausted = false) (live : (m.entered id).run.seeking = false)
    (holds : setting.test c (m.entered id) = .ok true m') : Calls hole m (.yes id at? c no) m'
  | noLive {id : NodeId} {at? : Option Position} {c : Expr} {yes : Stmt} {m' : Machine σ}
    (paid : m.run.exhausted = false) (live : (m.entered id).run.seeking = false)
    (fails : setting.test c (m.entered id) = .ok false m') : Calls hole m (.no id at? c yes) m'
  | loopSeeking {id : NodeId} {at? : Option Position} {c : Expr} (paid : m.run.exhausted = false)
    (seeking : (m.entered id).run.seeking = true) : Calls hole m (.loop id at? c) (m.entered id)
  | loopResumed {id : NodeId} {at? : Option Position} {c : Expr} {m' m'' : Machine σ}
    (paid : m.run.exhausted = false) (seeking : (m.entered id).run.seeking = true)
    (done : setting.execute hole (m.entered id) = .ok true m') (found : m'.run.seeking = false)
    (turn : setting.TurnAt c hole m' m'') : Calls hole m (.loop id at? c) m''
  | loopLive {id : NodeId} {at? : Option Position} {c : Expr} {m' : Machine σ} (paid : m.run.exhausted = false)
    (live : (m.entered id).run.seeking = false) (turn : setting.TurnAt c hole (m.entered id) m') :
    Calls hole m (.loop id at? c) m'
  | each {id : NodeId} {at? : Option Position} {kind : LoopKind} {name : String} {entities : List EntityId}
    {m' : Machine σ} (paid : m.run.exhausted = false)
    (fetched : setting.members at? kind name (m.entered id) = .ok entities)
    (visit : setting.VisitAt name hole entities (m.entered id) m') : Calls hole m (.each id at? kind name) m'

/-- No statement directly inside is executed and stops. -/
def Alone (t : Stmt) (m : Machine σ) : Prop :=
  ∀ f u at', Frame.plug f u = t → setting.Calls u m f at' → ¬ setting.Falls u at'

/-- Executing the statement at the end of a path from the root, it is the first one to stop: it stops, and no
statement that it executes does. -/
inductive StopsFirst (t : Stmt) : List Frame → Machine σ → Prop
  | self {m : Machine σ} (falls : setting.Falls t m) (alone : setting.Alone t m) : StopsFirst t [] m
  | inside {f : Frame} {frames : List Frame} {m m' : Machine σ}
    (calls : setting.Calls (Frame.plugAll frames t) m f m') (first : StopsFirst t frames m') :
    StopsFirst t (f :: frames) m

/-- Whenever execution stops, some statement is the first to stop. -/
theorem exists_stopsFirst {s : Stmt} {m : Machine σ} (falls : setting.Falls s m) :
    ∃ frames t, Frame.plugAll frames t = s ∧ setting.StopsFirst t frames m := by
  induction s using Stmt.child_induction generalizing m with
  | step s ih =>
    by_cases called : ∃ f u m', Frame.plug f u = s ∧ setting.Calls u m f m' ∧ setting.Falls u m'
    · obtain ⟨f, u, m', rfl, calls, fallsInside⟩ := called
      obtain ⟨frames, t, rfl, first⟩ := ih u (f.mem_children_plug u) fallsInside
      exact ⟨f :: frames, t, rfl, .inside calls first⟩
    · refine ⟨[], s, rfl, .self falls fun f u m' path calls fallsInside => ?_⟩
      exact called ⟨f, u, m', path, calls, fallsInside⟩

/-- Execution never adds to the budget. -/
theorem keeps_budget (limit : Int) :
    setting.Keeps (·.run.budget ≤ limit) (·.run.budget ≤ limit) (·.run.budget ≤ limit) := by
  refine @keeps_of_run σ setting (·.budget ≤ limit) (·.budget ≤ limit) (·.budget ≤ limit) (fun _ h => h)
    (fun _ h => h) (fun s h _ => ?_) (fun _ h => h) fun s node h => ?_
  · show s.budget - 1 ≤ limit
    omega
  · unfold RunState.suspendAt
    split <;> exact h

theorem budget_of_done {s : Stmt} {m m' : Machine σ} (done : setting.execute s m = .ok true m') :
    m'.run.budget ≤ m.run.budget := by
  have kept := (setting.keeps_budget m.run.budget).execute s m (Int.le_refl _)
  rw [done] at kept
  exact kept

theorem run_of_test {c : Expr} {holds : Bool} {m m' : Machine σ} (tested : setting.test c m = .ok holds m') :
    m'.run = m.run := by
  have kept := Exec.SparesRun.test setting c m
  rw [← test, tested] at kept
  exact kept

theorem exhausted_of_budget {m : Machine σ} (paid : m.run.exhausted = false) : 1 ≤ m.run.budget := by
  have positive : ¬ m.run.budget ≤ 0 := of_decide_eq_false paid
  omega

/-- A turn whose body stops ends the loop there, as long as the bound on the turns is not below the budget. -/
theorem turns_falls {c : Expr} {body : Stmt} {m at' m' : Machine σ} (turn : setting.TurnAt c body m at')
    (stops : setting.execute body at' = .ok false m') (fuel : Nat) (enough : m.run.budget ≤ fuel) :
    setting.turns c body fuel m = .ok false m' := by
  induction turn generalizing fuel with
  | @here m at' paid holds =>
    have positive := exhausted_of_budget paid
    obtain ⟨fuel, rfl⟩ : ∃ f, fuel = f + 1 := ⟨fuel - 1, by omega⟩
    rw [turns_succ, paid, if_neg (by simp), holds, either_true, stops, andThen_false]
  | @later m first second at' paid holds done rest ih =>
    have positive := exhausted_of_budget paid
    obtain ⟨fuel, rfl⟩ : ∃ f, fuel = f + 1 := ⟨fuel - 1, by omega⟩
    have spent : second.run.budget ≤ fuel := by
      have atBody := setting.budget_of_done done
      rw [setting.run_of_test holds] at atBody
      have charged : (m.onRun RunState.charge).run.budget = m.run.budget - 1 := rfl
      omega
    rw [turns_succ, paid, if_neg (by simp), holds, either_true, done, andThen_true]
    exact ih stops fuel spent

/-- A while loop stops because its body does, or on a machine where nothing has stopped yet. -/
theorem turns_stops {going stopped failed : Machine σ → Prop} (keeps : setting.Keeps going stopped failed)
    {c : Expr} {body : Stmt} {fuel : Nat} {m m' : Machine σ} (h : going m)
    (stops : setting.turns c body fuel m = .ok false m') :
    (∃ at', setting.TurnAt c body m at' ∧ setting.Falls body at') ∨ going m' := by
  induction fuel generalizing m with
  | zero =>
    cases stops
    exact .inr h
  | succ fuel ih =>
    rw [turns_succ] at stops
    cases paid : m.run.exhausted with
    | true =>
      rw [paid, if_pos rfl] at stops
      cases stops
      exact .inr h
    | false =>
      have tested := keeps.test _ c (keeps.pay m h paid)
      rw [paid, if_neg (by simp)] at stops
      obtain ⟨m1, holds⟩ | ⟨m1, fails⟩ | ⟨f, m1, broken⟩ := (setting.test c (m.onRun RunState.charge)).cases_on
      · rw [holds] at tested stops
        rw [either_true] at stops
        have step := keeps.execute body m1 tested
        obtain ⟨m2, done⟩ | ⟨m2, fell⟩ | ⟨f, m2, broken⟩ := (setting.execute body m1).cases_on
        · rw [done] at step stops
          obtain ⟨at', turn, falls⟩ | kept := ih step stops
          · exact .inl ⟨at', .later paid holds done turn, falls⟩
          · exact .inr kept
        · exact .inl ⟨m1, .here paid holds, m2, fell⟩
        · rw [broken] at stops
          cases stops
      · rw [fails] at stops
        cases stops
      · rw [broken] at stops
        cases stops

/-- A visit whose body stops ends the loop there. -/
theorem visits_falls {name : String} {body : Stmt} {entities : List EntityId} {m at' m' : Machine σ}
    (visit : setting.VisitAt name body entities m at') (stops : setting.execute body at' = .ok false m') :
    setting.visits name body entities m = .ok false m' := by
  induction visit with
  | here paid => rw [setting.visits_turn _ _ _ _ paid, stops, andThen_false]
  | later paid done found others ih =>
    rw [setting.visits_turn _ _ _ _ paid, done, andThen_true, found, if_neg (by simp)]
    exact ih stops

theorem Guards.visiting {setting : Setting σ} {good : Stmt → Prop} {going stopped : Machine σ → Prop}
    {failed : Fault → Machine σ → Prop} (guards : setting.Guards good going stopped failed) {name : String}
    (bind : ∀ m e, going m → going (m.bound name e)) {m : Machine σ} (h : going m) (paid : m.run.exhausted = false)
    (e : EntityId) : going (m.visiting name e) := by
  unfold Machine.visiting
  split
  · exact bind m e h
  · exact bind _ e (guards.pay m h paid)

/-- A foreach loop stops because its body does, or on a machine where nothing has stopped yet. -/
theorem visits_stops {going stopped failed : Machine σ → Prop} (keeps : setting.Keeps going stopped failed)
    {name : String} {body : Stmt} {entities : List EntityId} {m m' : Machine σ} (h : going m)
    (stops : setting.visits name body entities m = .ok false m') :
    (∃ at', setting.VisitAt name body entities m at' ∧ setting.Falls body at') ∨ going m' := by
  induction entities generalizing m with
  | nil => cases stops
  | cons e rest ih =>
    cases paid : m.run.exhausted with
    | true =>
      rw [visits_cons, paid, if_pos rfl] at stops
      cases stops
      exact .inr h
    | false =>
      have step := keeps.execute body _ (keeps.guards.visiting (fun m => keeps.bind m name) h paid e)
      rw [setting.visits_turn _ _ _ _ paid] at stops
      obtain ⟨m2, done⟩ | ⟨m2, fell⟩ | ⟨f, m2, broken⟩ := (setting.execute body (m.visiting name e)).cases_on
      · rw [done] at step stops
        rw [andThen_true] at stops
        cases found : m.run.seeking && m2.run.seeking with
        | true =>
          rw [found, if_pos rfl] at stops
          cases stops
        | false =>
          rw [found, if_neg (by simp)] at stops
          obtain ⟨at', visit, falls⟩ | kept := ih step stops
          · exact .inl ⟨at', .later paid done found visit, falls⟩
          · exact .inr kept
      · exact .inl ⟨_, .here paid, m2, fell⟩
      · rw [broken] at stops
        cases stops

/-- Statements in order stop because one of them does. -/
theorem executeAll_stops {body : List Stmt} {m m' : Machine σ} (stops : setting.executeAll body m = .ok false m') :
    ∃ before t after at', body = before ++ t :: after ∧ setting.executeAll before m = .ok true at' ∧
      setting.Falls t at' := by
  induction body generalizing m with
  | nil =>
    rw [executeAll_nil] at stops
    cases stops
  | cons s rest ih =>
    rw [executeAll_cons] at stops
    obtain ⟨m1, done⟩ | ⟨m1, fell⟩ | ⟨f, m1, broken⟩ := (setting.execute s m).cases_on
    · rw [done] at stops
      obtain ⟨before, t, after, at', rfl, walked, falls⟩ := ih stops
      refine ⟨s :: before, t, after, at', rfl, ?_, falls⟩
      rw [executeAll_cons, done]
      exact walked
    · exact ⟨[], s, rest, m, rfl, setting.executeAll_nil m, m1, fell⟩
    · rw [broken] at stops
      cases stops

end Setting

/-- Leave a statement on the way out: a conditional one becomes the cursor, unless there is one already. -/
def Stmt.leave {σ : Type} (s : Stmt) (m : Machine σ) : Machine σ :=
  if s.isConditional then m.onRun (·.suspendAt s) else m

namespace Setting

variable {σ : Type} (setting : Setting σ)

/-- A stop passes from a statement to the one around it. -/
theorem execute_of_calls {hole : Stmt} {f : Frame} {m at' m' : Machine σ} (calls : setting.Calls hole m f at')
    (stops : setting.execute hole at' = .ok false m') :
    setting.execute (f.plug hole) m = .ok false ((f.plug hole).leave m') := by
  cases calls with
  | sequence done =>
    rw [Frame.plug, execute_sequence, executeAll_append, done, andThen_true, executeAll_cons, stops, andThen_false]
    rfl
  | yesSeeking paid seeking =>
    rw [Frame.plug, setting.execute_branch_of_seeking paid seeking, stops]
    rfl
  | noSeeking paid seeking done still =>
    rw [Frame.plug, setting.execute_branch_of_seeking paid seeking, done, andThen_true, if_pos still, stops]
    rfl
  | yesLive paid live holds =>
    rw [Frame.plug, setting.execute_branch_of_live paid live, holds, either_true, stops]
    rfl
  | noLive paid live fails =>
    rw [Frame.plug, setting.execute_branch_of_live paid live, fails, either_false, stops]
    rfl
  | loopSeeking paid seeking =>
    rw [Frame.plug, setting.execute_loop_of_seeking paid seeking, stops]
    rfl
  | loopResumed paid seeking done found turn =>
    rw [Frame.plug, setting.execute_loop_of_seeking paid seeking, done, andThen_true, found,
      if_neg (by simp), setting.turns_falls turn stops _ (Int.self_le_toNat _)]
    rfl
  | loopLive paid live turn =>
    rw [Frame.plug, setting.execute_loop_of_live paid live, setting.turns_falls turn stops _ (Int.self_le_toNat _)]
    rfl
  | each paid fetched visit =>
    rw [Frame.plug, setting.execute_each_of_ok paid fetched, setting.visits_falls visit stops]
    rfl

section

variable {setting} {good : Stmt → Prop} {going stopped : Machine σ → Prop} {failed : Fault → Machine σ → Prop}

theorem TurnAt.guards (guards : setting.Guards good going stopped failed) {c : Expr} {body : Stmt}
    (test : ∀ m, going m → (setting.test c m).Meets going going failed)
    (step : ∀ m, going m → (setting.execute body m).Meets going stopped failed) {m at' : Machine σ}
    (turn : setting.TurnAt c body m at') (h : going m) : going at' := by
  induction turn with
  | here paid holds =>
    have tested := test _ (guards.pay _ h paid)
    rw [holds] at tested
    exact tested
  | later paid holds done rest ih =>
    have tested := test _ (guards.pay _ h paid)
    rw [holds] at tested
    have ran := step _ tested
    rw [done] at ran
    exact ih ran

theorem VisitAt.guards (guards : setting.Guards good going stopped failed) {name : String} {body : Stmt}
    (bind : ∀ m e, going m → going (m.bound name e))
    (step : ∀ m, going m → (setting.execute body m).Meets going stopped failed) {entities : List EntityId}
    {m at' : Machine σ} (visit : setting.VisitAt name body entities m at') (h : going m) : going at' := by
  induction visit with
  | here paid => exact guards.visiting bind h paid _
  | @later e rest m next at' paid done found others ih =>
    have ran := step _ (guards.visiting bind h paid e)
    rw [done] at ran
    exact ih ran

/-- A call is made on a machine of a run that goes on. -/
theorem Calls.guards (guards : setting.Guards good going stopped failed) {hole : Stmt} {f : Frame}
    (goods : ∀ t ∈ (f.plug hole).walk, good t) {m at' : Machine σ} (calls : setting.Calls hole m f at')
    (h : going m) : going at' := by
  obtain ⟨own, inner⟩ := Stmt.forall_walk_iff.mp goods
  have step := guards.execute hole (inner hole (f.mem_children_plug hole))
  cases calls with
  | @sequence _ before _ _ done =>
    have ran := Guards.executeAll before (fun s member => guards.execute s
      (inner s (by simp [Frame.plug, Stmt.children, member]))) m h
    rw [done] at ran
    exact ran
  | @yesSeeking id _ _ _ paid seeking => exact guards.entered h paid id
  | @noSeeking id _ _ yes _ paid seeking done still =>
    have ran := guards.execute yes (inner yes (by simp [Frame.plug, Stmt.children])) _ (guards.entered h paid id)
    rw [done] at ran
    exact ran
  | @yesLive id _ c _ _ paid live holds =>
    have tested := guards.test _ c own rfl _ (guards.entered h paid id)
    rw [holds] at tested
    exact tested
  | @noLive id _ c _ _ paid live fails =>
    have tested := guards.test _ c own rfl _ (guards.entered h paid id)
    rw [fails] at tested
    exact tested
  | @loopSeeking id _ _ paid seeking => exact guards.entered h paid id
  | @loopResumed id _ c _ _ paid seeking done found turn =>
    have ran := step _ (guards.entered h paid id)
    rw [done] at ran
    exact turn.guards guards (guards.test _ c own rfl) step ran
  | @loopLive id _ c _ paid live turn =>
    exact turn.guards guards (guards.test _ c own rfl) step (guards.entered h paid id)
  | @each id at? kind name _ _ paid fetched visit =>
    exact visit.guards guards (guards.bind id at? kind name hole own) step (guards.entered h paid id)

end

/-- A call is made on a machine of a run that goes on. -/
theorem Calls.keeps {setting : Setting σ} {going stopped failed : Machine σ → Prop}
    (keeps : setting.Keeps going stopped failed) {hole : Stmt} {f : Frame} {m at' : Machine σ}
    (calls : setting.Calls hole m f at') (h : going m) : going at' :=
  calls.guards keeps.guards (fun _ _ => trivial) h

end Setting

/-- A live run has no cursor, and a seeking one has the cursor that it started with. -/
def RunState.Mode (cursor : Option Stmt) (s : RunState Stmt) : Prop :=
  (s.finished = true → s.cursor = none) ∧ (s.finished = false → s.cursor = cursor ∧ cursor ≠ none)

namespace Setting

variable {σ : Type} (setting : Setting σ)

/-- A run that is still seeking has the cursor that it started with, also when it stops. -/
theorem keeps_mode (cursor : Option Stmt) :
    setting.Keeps (·.run.Mode cursor) (fun m => m.run.finished = false → m.run.cursor = cursor ∧ cursor ≠ none)
      (·.run.Mode cursor) := by
  refine @keeps_of_run σ setting (RunState.Mode cursor) (fun s => s.finished = false → s.cursor = cursor ∧ cursor ≠ none)
    (RunState.Mode cursor) (fun _ h => h.2) (fun _ h => h) (fun _ h _ => h) (fun s _ => ⟨fun _ => rfl, ?_⟩)
    fun s node h => ?_
  · intro seeking
    cases seeking
  · unfold RunState.suspendAt
    split
    · next absent =>
      intro seeking
      obtain ⟨same, present⟩ := h seeking
      rw [absent] at same
      exact absurd same.symm present
    · exact h

end Setting

namespace RunState

theorem finished_suspendAt (s : RunState Stmt) (node : Stmt) : (s.suspendAt node).finished = s.finished := by
  unfold suspendAt
  split <;> rfl

theorem cursor_suspendAt (s : RunState Stmt) (node : Stmt) :
    (s.suspendAt node).cursor = s.cursor.or (some node) := by
  unfold suspendAt
  split
  · next absent => simp [absent]
  · next present => simp [present]

end RunState

namespace Stmt

variable {σ : Type}

theorem finished_leave (s : Stmt) (m : Machine σ) : (s.leave m).run.finished = m.run.finished := by
  unfold leave
  split
  · exact RunState.finished_suspendAt _ s
  · rfl

theorem cursor_leave (s : Stmt) (m : Machine σ) :
    (s.leave m).run.cursor = m.run.cursor.or ([s].find? isConditional) := by
  unfold leave
  split
  · next conditional =>
    rw [show (m.onRun (·.suspendAt s)).run.cursor = _ from RunState.cursor_suspendAt _ s]
    simp [conditional]
  · next plain => simp [plain]

end Stmt

namespace Setting

variable {σ : Type} (setting : Setting σ)

/-- The cursor after a conditional statement stopped by itself, on a machine where nothing had stopped yet. -/
theorem cursor_of_mode {cursor : Option Stmt} {s : Stmt} (conditional : s.isConditional = true) {m : Machine σ}
    (mode : m.run.Mode cursor) (live : (m.onRun (·.suspendAt s)).run.finished = true) :
    (m.onRun (·.suspendAt s)).run.cursor = [s].find? Stmt.isConditional := by
  have leave : m.onRun (·.suspendAt s) = s.leave m := by simp [Stmt.leave, conditional]
  rw [leave] at live ⊢
  rw [Stmt.finished_leave] at live
  rw [Stmt.cursor_leave, mode.1 live, Option.none_or]

/-- An if statement stops by itself only where the budget is used up on entry. -/
theorem exhausted_of_branch_alone {id : NodeId} {at? : Option Position} {c : Expr} {yes no : Stmt}
    {m m' : Machine σ} (alone : setting.Alone (.branch id at? c yes no) m)
    (stops : setting.execute (.branch id at? c yes no) m = .ok false m') : m.run.exhausted = true := by
  obtain ⟨used, -⟩ | ⟨paid, inner, inside, -⟩ := setting.exhausted_or_stops_inside stops rfl
  · exact used
  · exfalso
    rw [interior] at inside
    cases seeking : (m.entered id).run.seeking with
    | true =>
      rw [seeking, if_pos rfl] at inside
      obtain inYes | ⟨at', done, inNo⟩ := andThen_eq_false.mp inside
      · exact alone (.yes id at? c no) yes _ rfl (.yesSeeking paid seeking) ⟨inner, inYes⟩
      · cases still : at'.run.seeking with
        | true =>
          rw [still, if_pos rfl] at inNo
          exact alone (.no id at? c yes) no at' rfl (.noSeeking paid seeking done still) ⟨inner, inNo⟩
        | false =>
          rw [still, if_neg (by simp)] at inNo
          cases inNo
    | false =>
      rw [seeking, if_neg (by simp)] at inside
      obtain ⟨at', ⟨holds, inYes⟩ | ⟨fails, inNo⟩⟩ := either_eq_ok.mp inside
      · exact alone (.yes id at? c no) yes at' rfl (.yesLive paid seeking holds) ⟨inner, inYes⟩
      · exact alone (.no id at? c yes) no at' rfl (.noLive paid seeking fails) ⟨inner, inNo⟩

/-- A while loop that stops by itself does so on a machine where nothing has stopped yet. -/
theorem mode_of_loop_alone {cursor : Option Stmt} {id : NodeId} {at? : Option Position} {c : Expr} {body : Stmt}
    {m m' : Machine σ} (mode : m.run.Mode cursor) (alone : setting.Alone (.loop id at? c body) m)
    (stops : setting.execute (.loop id at? c body) m = .ok false m') :
    ∃ inner : Machine σ, inner.run.Mode cursor ∧ m' = inner.onRun (·.suspendAt (.loop id at? c body)) := by
  have keeps := setting.keeps_mode cursor
  obtain ⟨-, left⟩ | ⟨paid, inner, inside, left⟩ := setting.exhausted_or_stops_inside stops rfl
  · exact ⟨m, mode, left⟩
  · refine ⟨inner, ?_, left⟩
    have entered := keeps.guards.entered mode paid id
    rw [interior] at inside
    cases seeking : (m.entered id).run.seeking with
    | true =>
      rw [seeking, if_pos rfl] at inside
      obtain inBody | ⟨next, done, inTurns⟩ := andThen_eq_false.mp inside
      · exact absurd ⟨inner, inBody⟩ (alone (.loop id at? c) body _ rfl (.loopSeeking paid seeking))
      · have ran := keeps.execute body _ entered
        rw [done] at ran
        cases found : next.run.seeking with
        | true =>
          rw [found, if_pos rfl] at inTurns
          cases inTurns
        | false =>
          rw [found, if_neg (by simp)] at inTurns
          obtain ⟨at', turn, falls⟩ | kept := setting.turns_stops keeps ran inTurns
          · exact absurd falls (alone (.loop id at? c) body at' rfl (.loopResumed paid seeking done found turn))
          · exact kept
    | false =>
      rw [seeking, if_neg (by simp)] at inside
      obtain ⟨at', turn, falls⟩ | kept := setting.turns_stops keeps entered inside
      · exact absurd falls (alone (.loop id at? c) body at' rfl (.loopLive paid seeking turn))
      · exact kept

/-- A foreach loop that stops by itself does so on a machine where nothing has stopped yet. -/
theorem mode_of_each_alone {cursor : Option Stmt} {id : NodeId} {at? : Option Position} {kind : LoopKind}
    {name : String} {body : Stmt} {m m' : Machine σ} (mode : m.run.Mode cursor)
    (alone : setting.Alone (.each id at? kind name body) m)
    (stops : setting.execute (.each id at? kind name body) m = .ok false m') :
    ∃ inner : Machine σ, inner.run.Mode cursor ∧ m' = inner.onRun (·.suspendAt (.each id at? kind name body)) := by
  have keeps := setting.keeps_mode cursor
  obtain ⟨-, left⟩ | ⟨paid, inner, inside, left⟩ := setting.exhausted_or_stops_inside stops rfl
  · exact ⟨m, mode, left⟩
  · refine ⟨inner, ?_, left⟩
    have entered := keeps.guards.entered mode paid id
    rw [interior] at inside
    cases fetched : setting.members at? kind name (m.entered id) with
    | error f =>
      rw [fetched] at inside
      cases inside
    | ok entities =>
      rw [fetched] at inside
      obtain ⟨at', visit, falls⟩ | kept := setting.visits_stops keeps entered inside
      · exact absurd falls (alone (.each id at? kind name) body at' rfl (.each paid fetched visit))
      · exact kept

/-- A leaf that stops leaves no cursor in a live run. -/
theorem cursor_of_leaf {cursor : Option Stmt} {t : Stmt} (isLeaf : t.isLeaf = true) {m m' : Machine σ}
    (mode : m.run.Mode cursor) (stops : setting.execute t m = .ok false m') (live : m'.run.finished = true) :
    m'.run.cursor = none := by
  rw [setting.execute_leaf isLeaf] at stops
  cases paid : m.run.exhausted with
  | true =>
    rw [paid, if_pos rfl] at stops
    cases stops
    exact mode.1 live
  | false =>
    cases seeking : m.run.seeking with
    | true =>
      rw [paid, seeking, if_neg (by simp), if_pos rfl] at stops
      cases stops
    | false =>
      rw [paid, seeking, if_neg (by simp), if_neg (by simp)] at stops
      have spared := Exec.SparesRun.effect setting t (m.onRun RunState.charge)
      rw [stops] at spared
      have same : m'.run = m.run.charge := spared
      rw [same] at live ⊢
      exact mode.1 live

/-- A statement that is the first to stop leaves itself as the cursor of a live run if it is conditional, and none
otherwise. -/
theorem cursor_of_alone {cursor : Option Stmt} {t : Stmt} {m m' : Machine σ} (mode : m.run.Mode cursor)
    (stops : setting.execute t m = .ok false m') (alone : setting.Alone t m) (live : m'.run.finished = true) :
    m'.run.cursor = [t].find? Stmt.isConditional := by
  cases t with
  | sequence at? body =>
    rw [execute_sequence] at stops
    obtain ⟨before, u, after, at', rfl, walked, falls⟩ := setting.executeAll_stops stops
    exact absurd falls (alone (.sequence at? before after) u at' rfl (.sequence walked))
  | branch id at? c yes no =>
    have exhausted := setting.exhausted_of_branch_alone alone stops
    cases stops.symm.trans (setting.execute_of_exhausted rfl exhausted)
    exact cursor_of_mode rfl mode live
  | loop id at? c body =>
    obtain ⟨inner, kept, rfl⟩ := setting.mode_of_loop_alone mode alone stops
    exact cursor_of_mode rfl kept live
  | each id at? kind name body =>
    obtain ⟨inner, kept, rfl⟩ := setting.mode_of_each_alone mode alone stops
    exact cursor_of_mode rfl kept live
  | placeholder fault =>
    rw [execute_placeholder] at stops
    cases stops
  | assignment at? name e => exact setting.cursor_of_leaf rfl mode stops live
  | print at? e => exact setting.cursor_of_leaf rfl mode stops live
  | action at? a => exact setting.cursor_of_leaf rfl mode stops live

variable {setting} {t : Stmt} {frames : List Frame} {m m' : Machine σ}

/-- Where a statement is the first to stop, all statements around it stop. -/
theorem StopsFirst.falls (first : setting.StopsFirst t frames m) : setting.Falls (Frame.plugAll frames t) m := by
  induction first with
  | self falls alone => exact falls
  | inside calls first ih =>
    obtain ⟨inner, stops⟩ := ih
    exact ⟨_, setting.execute_of_calls calls stops⟩

/-- The innermost conditional statement that encloses or is the first one to stop becomes the cursor of a live run.
The induction follows the stop from the inside to the root: each statement that it leaves adds itself only if there
is no cursor yet. -/
theorem StopsFirst.cursor_eq (first : setting.StopsFirst t frames m) {cursor : Option Stmt}
    (mode : m.run.Mode cursor) (stops : setting.execute (Frame.plugAll frames t) m = .ok false m')
    (live : m'.run.finished = true) :
    m'.run.cursor = (Frame.enclosing frames t).find? Stmt.isConditional := by
  induction first generalizing m' with
  | self falls alone => exact setting.cursor_of_alone mode stops alone live
  | @inside f frames m at' calls first ih =>
    obtain ⟨inner, stopsInside⟩ := first.falls
    have left := setting.execute_of_calls calls stopsInside
    rw [Frame.plugAll, left] at stops
    cases stops
    rw [Stmt.finished_leave] at live
    have innermost := ih (calls.keeps (setting.keeps_mode cursor) mode) stopsInside live
    rw [Stmt.cursor_leave, innermost, Frame.enclosing, List.find?_append]

end Setting

namespace Stage

variable {σ : Type}

/-- The first statement to stop in a run, at the end of a path from the root: in the walk from the start, or in the
second pass after a walk that did not find its cursor. -/
def StopsFirst (game : Game σ) (s : Stage σ) (frames : List Frame) (t : Stmt) : Prop :=
  (s.setting game).StopsFirst t frames s.started ∨
    ∃ m, (s.setting game).execute s.program.root s.started = .ok true m ∧ m.run.seeking = true ∧
      (s.setting game).StopsFirst t frames m.restarted

theorem mode_started (s : Stage σ) : s.started.run.Mode s.program.state.cursor := by
  refine ⟨s.started_mode, fun seeking => ⟨rfl, fun absent => ?_⟩⟩
  have finished : s.program.state.cursor.isNone = false := seeking
  rw [absent] at finished
  cases finished

theorem mode_restarted (m : Machine σ) : m.restarted.run.Mode none :=
  ⟨fun _ => rfl, fun seeking => by cases seeking⟩

/-- A run that stops has a first statement that stopped; live, its cursor is the innermost conditional statement
there, and still seeking, it is the cursor that the run started with. -/
theorem exists_stopsFirst {game : Game σ} {s : Stage σ} {m : Machine σ} (stopped : s.answer game = .ok false m) :
    ∃ frames t, Frame.plugAll frames t = s.program.root ∧ s.StopsFirst game frames t ∧
      m.run.cursor =
        if m.run.finished then (Frame.enclosing frames t).find? Stmt.isConditional
        else s.program.state.cursor := by
  have pass : ∀ {start : Machine σ} {cursor : Option Stmt}, start.run.Mode cursor →
      (s.setting game).execute s.program.root start = .ok false m →
      ∃ frames t, Frame.plugAll frames t = s.program.root ∧ (s.setting game).StopsFirst t frames start ∧
        m.run.cursor =
          if m.run.finished then (Frame.enclosing frames t).find? Stmt.isConditional else cursor := by
    intro start cursor mode stops
    obtain ⟨frames, t, path, first⟩ := (s.setting game).exists_stopsFirst ⟨m, stops⟩
    refine ⟨frames, t, path, first, ?_⟩
    cases live : m.run.finished with
    | true =>
      rw [← path] at stops
      exact first.cursor_eq mode stops live
    | false =>
      have kept := ((s.setting game).keeps_mode cursor).execute s.program.root start mode
      rw [stops] at kept
      exact (kept live).1
  obtain stops | ⟨walked, done, stops⟩ := andThen_eq_false.mp stopped
  · obtain ⟨frames, t, path, first, cursor⟩ := pass s.mode_started stops
    exact ⟨frames, t, path, .inl first, cursor⟩
  · cases seeking : walked.run.seeking with
    | false =>
      rw [seeking, if_neg (by simp)] at stops
      cases stops
    | true =>
      rw [seeking, if_pos rfl] at stops
      obtain ⟨frames, t, path, first, cursor⟩ := pass (mode_restarted walked) stops
      refine ⟨frames, t, path, .inr ⟨walked, done, seeking, first⟩, ?_⟩
      have live := (s.setting game).execute_live (m := walked.restarted) ⟨rfl, rfl⟩ s.program.root
      rw [stops] at live
      have finished : m.run.finished = true := live
      rw [finished] at cursor ⊢
      exact cursor

/-- A run that fails has no cursor, or the one that it started with. -/
theorem cursor_of_failed {game : Game σ} {s : Stage σ} {f : Fault} {m : Machine σ}
    (failed : s.answer game = .error f m) :
    m.run.cursor = none ∨ m.run.cursor = s.program.state.cursor := by
  have pass : ∀ {start : Machine σ} {cursor : Option Stmt}, start.run.Mode cursor →
      (s.setting game).execute s.program.root start = .error f m →
      m.run.cursor = none ∨ m.run.cursor = cursor := by
    intro start cursor mode broken
    have kept := ((s.setting game).keeps_mode cursor).execute s.program.root start mode
    rw [broken] at kept
    cases live : m.run.finished with
    | true => exact .inl (kept.1 live)
    | false => exact .inr (kept.2 live).1
  obtain broken | ⟨walked, -, broken⟩ := andThen_eq_error.mp failed
  · exact pass s.mode_started broken
  · split at broken
    · exact .inl ((pass (mode_restarted walked) broken).elim id id)
    · cases broken

/-- The cursor is a conditional statement of the root. -/
def CursorInside (root : Stmt) (s : Stage σ) : Prop :=
  s.program.root = root ∧ ∀ c, s.program.state.cursor = some c → c ∈ root.walk ∧ c.isConditional = true

/-- After a run the cursor is a conditional statement of the root again, also when the run failed. -/
theorem CursorInside.run {root : Stmt} {s : Stage σ} (inside : s.CursorInside root) (game : Game σ) :
    (s.run game).2.CursorInside root := by
  obtain ⟨rooted, known⟩ := inside
  cases ready : s.program.refusal? game.world s.host with
  | some cause =>
    have refused : s.run game = (.error { cause }, s) := by
      unfold Stage.run
      rw [ready]
    rw [refused]
    exact ⟨rooted, known⟩
  | none =>
    rw [run_eq game s ready]
    obtain ⟨m, done⟩ | ⟨m, stopped⟩ | ⟨f, m, failed⟩ := (s.answer game).cases_on
    · rw [done]
      refine ⟨rooted, fun c cursor => ?_⟩
      have none : (none : Option Stmt) = some c := cursor
      cases none
    · rw [stopped]
      refine ⟨rooted, fun c cursor => ?_⟩
      obtain ⟨frames, t, path, -, innermost⟩ := exists_stopsFirst stopped
      have same : m.run.cursor = some c := cursor
      rw [same] at innermost
      cases live : m.run.finished with
      | false =>
        rw [live, if_neg (by simp)] at innermost
        exact known c innermost.symm
      | true =>
        rw [live, if_pos rfl] at innermost
        have member := List.mem_of_find?_eq_some innermost.symm
        refine ⟨?_, List.find?_some innermost.symm⟩
        rw [← rooted, ← path]
        exact Frame.mem_walk_of_enclosing member
    · rw [failed]
      refine ⟨rooted, fun c cursor => ?_⟩
      have same : m.run.cursor = some c := cursor
      obtain absent | kept := cursor_of_failed failed
      · rw [absent] at same
        cases same
      · exact known c (kept.symm.trans same)

end Stage

/-- A bind succeeds exactly for a program that is not bound yet, with an entity and a handler. -/
theorem Program.bind_ok_iff {p q : Program} {entity : Option EntityId} {given? : Option HandlerId} :
    p.bind entity given? = .ok q ↔
      p.context.entity? = none ∧ ∃ id handler, entity = some id ∧ given?.or p.handler? = some handler ∧
        q = { p with context := { entity? := some id }, handler? := some handler } := by
  unfold bind
  dsimp only
  rw [bind_eq_ok]
  unfold Context.bind
  cases unbound : p.context.entity? with
  | some id => simp
  | none =>
    cases entity with
    | none => simp
    | some id =>
      cases chosen : given?.or p.handler? with
      | none => simp
      | some handler =>
        simp only [Option.isSome_none, Option.isSome_some, Bool.false_eq_true, if_false, Except.ok.injEq, true_and,
          Option.some.injEq, exists_eq_left', exists_and_left]
        exact ⟨fun made => (Except.ok.inj made).symm, fun same => congrArg Except.ok same.symm⟩

/-- Something that a host can do with a program. -/
inductive HostStep (σ : Type) where
  | run
  | world (change : σ → σ)
  | table (change : Table Variable → Table Variable)
  | maxStatements (budget : Int)
  | bind (entity : Option EntityId) (given? : Option HandlerId)
  | terminate

def HostStep.apply {σ : Type} (game : Game σ) (s : Stage σ) : HostStep σ → Stage σ
  | run => (s.run game).2
  | world change => { s with host := change s.host }
  | table change => { s with program := { s.program with globals := change s.program.globals } }
  | maxStatements budget => { s with program := { s.program with maxStatements := budget } }
  | bind entity given? =>
    match s.program.bind entity given? with
    | .ok program => { s with program }
    | .error _ => s
  | terminate => { s with program := s.program.terminate }

namespace Stage

variable {σ : Type}

theorem CursorInside.apply {root : Stmt} {s : Stage σ} (inside : s.CursorInside root) (game : Game σ)
    (step : HostStep σ) : (step.apply game s).CursorInside root := by
  cases step with
  | run => exact inside.run game
  | world change => exact inside
  | table change => exact inside
  | maxStatements budget => exact inside
  | terminate => exact inside
  | bind entity given? =>
    rw [HostStep.apply]
    cases outcome : s.program.bind entity given? with
    | error f => exact inside
    | ok program =>
      obtain ⟨-, id, handler, -, -, rfl⟩ := Program.bind_ok_iff.mp outcome
      exact inside

/-- Whatever a host does, the cursor stays a conditional statement of the root. -/
theorem CursorInside.foldl {root : Stmt} {s : Stage σ} (inside : s.CursorInside root) (game : Game σ)
    (steps : List (HostStep σ)) : (steps.foldl (HostStep.apply game) s).CursorInside root := by
  induction steps generalizing s with
  | nil => exact inside
  | cons step rest ih => exact ih (inside.apply game step)

/-- The cursor is the innermost conditional statement that stopped. For every program that comes out of its text,
after any steps of its host the cursor is a conditional statement of the program, if there is one; and a run that
returns either is complete and leaves no cursor, or it is suspended. In that case some statement of the tree was
the first to stop. If the run was live by then, the cursor is the innermost conditional statement among that one
and those around it, and there is none exactly if none of them is conditional; if it was still seeking, the cursor
is the one that it started with. -/
theorem cursor_after_run {source : String} {file : Option String} {handler? : Option HandlerId}
    {budget : Except Fault Int} {p : Program} (parsed : Program.parse source file handler? budget = .ok p)
    (game : Game σ) (host : σ) (log : Log) (steps : List (HostStep σ)) (s : Stage σ)
    (reached : steps.foldl (HostStep.apply game) { program := p, host, log } = s) :
    (∀ c, s.program.state.cursor = some c → c ∈ p.root.walk ∧ c.isConditional = true) ∧
    ((s.run game).1 = .ok () →
      let after := (s.run game).2.program
      (after.isFinished = true ∧ after.state.cursor = none) ∨
      after.isFinished = false ∧ ∃ m frames t, s.answer game = .ok false m ∧ Frame.plugAll frames t = p.root ∧
        s.StopsFirst game frames t ∧
        after.state.cursor =
          if m.run.finished then (Frame.enclosing frames t).find? Stmt.isConditional
          else s.program.state.cursor) := by
  have start : CursorInside p.root { program := p, host, log } := by
    refine ⟨rfl, fun c cursor => ?_⟩
    rw [show p.state.cursor = none from Program.cursor_of_parse parsed] at cursor
    cases cursor
  obtain ⟨rooted, inside⟩ := start.foldl game steps
  rw [reached] at rooted inside
  refine ⟨inside, fun returned => ?_⟩
  cases ready : s.program.refusal? game.world s.host with
  | some cause =>
    unfold run at returned
    rw [ready] at returned
    cases returned
  | none =>
    rw [run_eq game s ready] at returned ⊢
    obtain ⟨m, done⟩ | ⟨m, stopped⟩ | ⟨f, m, failed⟩ := (s.answer game).cases_on
    · rw [done]
      exact .inl ⟨rfl, rfl⟩
    · obtain ⟨frames, t, path, first, cursor⟩ := exists_stopsFirst stopped
      rw [stopped]
      exact .inr ⟨rfl, m, frames, t, rfl, path.trans rooted, first, cursor⟩
    · rw [failed] at returned
      cases returned

end Stage

namespace Sentry

def afterRun : Stage (List String) :=
  [HostStep.bind (some ⟨0⟩) (some ⟨0⟩), .run].foldl (HostStep.apply soloGame) { program, host := [] }

theorem afterRun_returns : (afterRun.run soloGame).1 = .ok () := ok_of_toOption (by decide +kernel)

end Sentry

/-- The sentry stops at its loop, four levels inside, and is suspended again when it is run once more. -/
theorem sentry_cursor_after_run :
    Program.parse Sentry.source none none (.ok 9) = .ok Sentry.program ∧
      Sentry.afterRun.program.state.cursor.bind Stmt.id? = some ⟨1⟩ ∧
      (Sentry.afterRun.run soloGame).1 = .ok () ∧
      (Sentry.afterRun.run soloGame).2.program.isFinished = false ∧
      ∃ m frames t, Sentry.afterRun.answer soloGame = .ok false m ∧
        Frame.plugAll frames t = Sentry.program.root ∧ Sentry.afterRun.StopsFirst soloGame frames t ∧
        (Sentry.afterRun.run soloGame).2.program.state.cursor =
          if m.run.finished then (Frame.enclosing frames t).find? Stmt.isConditional
          else Sentry.afterRun.program.state.cursor := by
  have unfinished : (Sentry.afterRun.run soloGame).2.program.isFinished = false := by decide +kernel
  refine ⟨Sentry.parse_source, by decide +kernel, Sentry.afterRun_returns, unfinished, ?_⟩
  obtain ⟨finished, -⟩ | ⟨-, stopped⟩ := (Stage.cursor_after_run Sentry.parse_source soloGame [] #[]
    [HostStep.bind (some ⟨0⟩) (some ⟨0⟩), .run] Sentry.afterRun rfl).2 Sentry.afterRun_returns
  · rw [finished] at unfinished
    cases unfinished
  · exact stopped

end WormLang
