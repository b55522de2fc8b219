import WormLang.Proofs.Execution.Arrival
import WormLang.Proofs.Execution.BigStep
import WormLang.Proofs.Execution.Logging
import WormLang.Sandbox.Arena

/-!
Suspension at a boundary. A program without foreach loops whose budget is used up just when it comes to an if or
while statement, or just before another turn of a while loop, loses nothing by being suspended: what the run has done
so far a longer run does as well, and what the longer run does from there on is what is left to do from the cursor.
Going back to the head of a while loop costs one unit, which is all that two runs cost more than one.
-/
namespace WormLang

open Answer

namespace Stmt

/-- No foreach loop lies in the tree. -/
def EachFree (s : Stmt) : Prop := ∀ t ∈ s.walk, t.loopVariable? = none

theorem EachFree.child {s t : Stmt} (free : s.EachFree) (child : t ∈ s.children) : t.EachFree :=
  fun u inside => free u (mem_walk_of_child child inside)

/-- Without foreach loops the walk past a statement changes nothing. -/
theorem EachFree.passed_eq {s : Stmt} (free : s.EachFree) (first? : LoopKind → Option EntityId)
    (table : Table Variable) : s.passed first? table = table :=
  view_passed first? id s (fun t inside name own => absurd (free t inside) (by simp [own])) table

end Stmt

/-- A frame that is no foreach loop and has none in the statements before its hole. -/
def Frame.Plain (f : Frame) : Prop := f.loopVariable? = none ∧ ∀ s ∈ f.before, s.EachFree

theorem Frame.plain_of_eachFree {frames : List Frame} {c : Stmt} (free : (Frame.plugAll frames c).EachFree) :
    ∀ f ∈ frames, f.Plain := by
  induction frames with
  | nil => simp
  | cons f frames ih =>
    intro g member
    obtain rfl | member := List.mem_cons.mp member
    · refine ⟨?_, fun s before => free.child ?_⟩
      · have own := free _ (Stmt.mem_walk_self _)
        cases g with
        | each id at? kind name => cases own
        | _ => rfl
      · rw [plugAll, children_plug]
        exact List.mem_append_left _ before
    · exact ih (free.child (mem_children_plug f _)) g member

namespace Setting

variable {σ : Type} (setting : Setting σ)

/-- As long as there are not fewer turns than budget, their number does not matter. -/
theorem turns_fuel (c : Expr) (body : Stmt) {m : Machine σ} {fuel fuel' : Nat} (enough : m.run.budget ≤ fuel)
    (enough' : m.run.budget ≤ fuel') : setting.turns c body fuel m = setting.turns c body fuel' m := by
  induction fuel generalizing fuel' m with
  | zero =>
    have exhausted : m.run.exhausted = true := decide_eq_true enough
    cases fuel' with
    | zero => rfl
    | succ fuel' => rw [turns_succ, exhausted, if_pos rfl, turns_zero]
  | succ fuel ih =>
    cases paid : m.run.exhausted with
    | true =>
      cases fuel' with
      | zero => rw [turns_succ, paid, if_pos rfl, turns_zero]
      | succ fuel' => rw [turns_succ, turns_succ, paid, if_pos rfl, if_pos rfl]
    | false =>
      have positive := exhausted_of_budget paid
      obtain ⟨fuel', rfl⟩ : ∃ k, fuel' = k + 1 := ⟨fuel' - 1, by omega⟩
      rw [turns_succ, turns_succ]
      obtain ⟨m1, holds⟩ | ⟨m1, fails⟩ | ⟨f, m1, broken⟩ := (setting.test c (m.onRun RunState.charge)).cases_on
      · obtain ⟨m2, done⟩ | ⟨m2, fell⟩ | ⟨f, m2, broken⟩ := (setting.execute body m1).cases_on
        · have spent := setting.budget_of_done done
          rw [setting.run_of_test holds] at spent
          have charged : (m.onRun RunState.charge).run.budget = m.run.budget - 1 := rfl
          rw [holds, either_true, either_true, done, andThen_true, andThen_true]
          rw [@ih m2 fuel' (by omega) (by omega)]
        · rw [holds, either_true, either_true, fell, andThen_false, andThen_false]
        · rw [holds, either_true, either_true, broken, andThen_error, andThen_error]
      · rw [fails, either_false, either_false]
      · rw [broken, either_error, either_error]

/-- The turn that executes the body on a machine comes behind turns that came to their end. -/
theorem TurnAt.turned {setting : Setting σ} {c : Expr} {body : Stmt} {m at' : Machine σ}
    (turn : setting.TurnAt c body m at') :
    ∃ m', setting.Turned c body m m' ∧ m'.run.exhausted = false ∧
      setting.test c (m'.onRun RunState.charge) = .ok true at' := by
  induction turn with
  | here paid holds => exact ⟨_, .none, paid, holds⟩
  | later paid holds done rest ih =>
    obtain ⟨m', turned, paidThere, holdsThere⟩ := ih
    exact ⟨m', .turn paid holds done turned, paidThere, holdsThere⟩

variable {setting}

/-- Turns of a while loop that came to their end come to it with more budget as well. -/
theorem Turned.live {c : Expr} {body : Stmt} {a : Scene σ} {n : Nat} {m : Machine σ}
    (turned : setting.Turned c body (a.live n) m) :
    ∃ (b : Scene σ) (left : Nat), m = b.live left ∧ ∀ extra, setting.turns c body (n + extra) (a.live (n + extra)) =
      setting.turns c body (left + extra) (b.live (left + extra)) := by
  generalize start : a.live n = from' at turned
  induction turned generalizing a n with
  | none => exact ⟨a, n, start.symm, fun extra => rfl⟩
  | turn paid holds done rest ih =>
    subst start
    obtain ⟨k, rfl⟩ := exists_succ_of_paid paid
    rw [a.charge_live] at holds
    obtain ⟨v, b, value, true?, rfl⟩ := setting.test_ok.mp holds
    obtain ⟨cost, left, d, runs, rfl, rfl⟩ := explained_stmt body b k _ done
    obtain ⟨e, spare, rfl, more⟩ := ih rfl
    refine ⟨e, spare, rfl, fun extra => ?_⟩
    have tested := (setting.test_ok (n := cost + (left + extra))).mpr ⟨v, b, value, true?, rfl⟩
    have walked : setting.execute body (b.live (cost + (left + extra))) = .ok true (d.live (left + extra)) :=
      runs.carryOut (left + extra) _ (Nat.le_refl _)
    rw [show cost + left + 1 + extra = cost + (left + extra) + 1 by omega, turns_succ, a.exhausted_live_succ,
      if_neg (by simp), a.charge_live, tested, either_true, walked, andThen_true, ← more extra]
    refine setting.turns_fuel c body ?_ (Int.le_refl _)
    show ((left + extra : Nat) : Int) ≤ ((cost + (left + extra) : Nat) : Int)
    omega

/-- What a while loop does from the turn on in which it executes its body on a machine, also with more budget. -/
theorem TurnAt.live {c : Expr} {body : Stmt} {a : Scene σ} {n : Nat} {at' : Machine σ}
    (turn : setting.TurnAt c body (a.live n) at') :
    ∃ (b : Scene σ) (left : Nat), at' = b.live left ∧ ∀ extra, setting.turns c body (n + extra) (a.live (n + extra)) =
      andThen (setting.execute body (b.live (left + extra))) fun m => setting.turns c body m.run.budget.toNat m := by
  obtain ⟨m, turned, paid, holds⟩ := turn.turned
  obtain ⟨d, left, rfl, more⟩ := turned.live
  obtain ⟨k, rfl⟩ := exists_succ_of_paid paid
  rw [d.charge_live] at holds
  obtain ⟨v, b, value, true?, rfl⟩ := setting.test_ok.mp holds
  refine ⟨b, k, rfl, fun extra => ?_⟩
  have tested := (setting.test_ok (n := k + extra)).mpr ⟨v, b, value, true?, rfl⟩
  rw [more, show k + 1 + extra = k + extra + 1 by omega, turns_succ, d.exhausted_live_succ, if_neg (by simp),
    d.charge_live, tested, either_true]
  obtain ⟨m, done⟩ | ⟨m, fell⟩ | ⟨f, m, broken⟩ := (setting.execute body (b.live (k + extra))).cases_on
  · have spent := setting.budget_of_done done
    rw [done, andThen_true, andThen_true]
    exact setting.turns_fuel c body spent (Int.self_le_toNat _)
  · rw [fell, andThen_false, andThen_false]
  · rw [broken, andThen_error, andThen_error]

/-- A live run that executes the hole of a frame on a machine does the same with more budget, and then finishes the
frame. -/
theorem Calls.live {hole : Stmt} {f : Frame} (plain : f.loopVariable? = none) {a : Scene σ} {n : Nat}
    {at' : Machine σ} (calls : setting.Calls hole (a.live n) f at') :
    ∃ (b : Scene σ) (left : Nat), at' = b.live left ∧ ∀ extra, setting.execute (f.plug hole) (a.live (n + extra)) =
      setting.finish (fun _ m => m) hole (setting.execute hole) f (b.live (left + extra)) := by
  cases calls with
  | @sequence at? before after _ done =>
    obtain ⟨cost, left, b, runs, rfl, rfl⟩ :=
      @explained_stmts σ setting 0 before (fun s _ => explained_stmt s) a n _ done
    refine ⟨b, left, rfl, fun extra => ?_⟩
    have walked : setting.executeAll before (a.live (cost + (left + extra))) = .ok true (b.live (left + extra)) :=
      runs.carryOut (left + extra) _ (Nat.le_refl _)
    rw [Frame.plug, execute_sequence, executeAll_append, Nat.add_assoc, walked, andThen_true, executeAll_cons]
    rfl
  | yesSeeking paid seeking | noSeeking paid seeking | loopSeeking paid seeking | loopResumed paid seeking =>
    obtain ⟨k, rfl⟩ := exists_succ_of_paid paid
    rw [a.entered_live, a.seeking_live] at seeking
    cases seeking
  | @yesLive id at? c no _ paid live holds =>
    obtain ⟨k, rfl⟩ := exists_succ_of_paid paid
    rw [a.entered_live] at holds
    obtain ⟨v, b, value, true?, rfl⟩ := setting.test_ok.mp holds
    refine ⟨b, k, rfl, fun extra => ?_⟩
    have tested := (setting.test_ok (n := k + extra)).mpr ⟨v, b, value, true?, rfl⟩
    rw [show k + 1 + extra = k + extra + 1 by omega]
    refine Eq.trans (setting.execute_live_succ rfl a (k + extra)) ?_
    simp [interior, tested, finish, Frame.plug]
  | @noLive id at? c yes _ paid live fails =>
    obtain ⟨k, rfl⟩ := exists_succ_of_paid paid
    rw [a.entered_live] at fails
    obtain ⟨v, b, value, false?, rfl⟩ := setting.test_ok.mp fails
    refine ⟨b, k, rfl, fun extra => ?_⟩
    have tested := (setting.test_ok (n := k + extra)).mpr ⟨v, b, value, false?, rfl⟩
    rw [show k + 1 + extra = k + extra + 1 by omega]
    refine Eq.trans (setting.execute_live_succ rfl a (k + extra)) ?_
    simp [interior, tested, finish, Frame.plug]
  | @loopLive id at? c _ paid live turn =>
    obtain ⟨k, rfl⟩ := exists_succ_of_paid paid
    rw [a.entered_live] at turn
    obtain ⟨b, left, rfl, more⟩ := turn.live
    refine ⟨b, left, rfl, fun extra => ?_⟩
    rw [show k + 1 + extra = k + extra + 1 by omega]
    refine Eq.trans (setting.execute_live_succ rfl a (k + extra)) ?_
    simp [interior, more, finish, Frame.plug]
  | each => cases plain

/-- How a frame is finished depends on what its hole answers only, if it is no foreach loop. -/
theorem finish_congr {hole : Stmt} {inner inner' : Machine σ → Answer σ} {f : Frame} (plain : f.loopVariable? = none)
    {m m' : Machine σ} (same : inner m = inner' m') :
    setting.finish (fun _ m => m) hole inner f m = setting.finish (fun _ m => m) hole inner' f m' := by
  cases f with
  | each id at? kind name => cases plain
  | _ => simp only [finish, same]

/-- A live run that comes to a statement does the same with more budget, and then what is left to do from there. -/
theorem Reaches.live {c : Stmt} {frames : List Frame} (plain : ∀ f ∈ frames, f.Plain) {a : Scene σ} {n : Nat}
    {at' : Machine σ} (reaches : setting.Reaches c frames (a.live n) at') :
    ∃ (b : Scene σ) (left : Nat), at' = b.live left ∧ ∀ extra, setting.execute (Frame.plugAll frames c) (a.live (n + extra)) =
      setting.continuation (fun _ m => m) frames c (b.live (left + extra)) := by
  generalize start : a.live n = from' at reaches
  induction reaches generalizing a n with
  | here => exact ⟨a, n, start.symm, fun extra => rfl⟩
  | inside calls rest ih =>
    subst start
    have here := plain _ List.mem_cons_self
    obtain ⟨b, left, rfl, outside⟩ := calls.live here.1
    obtain ⟨d, spare, rfl, inside⟩ := ih (fun g member => plain g (List.mem_cons_of_mem _ member)) rfl
    refine ⟨d, spare, rfl, fun extra => ?_⟩
    rw [Frame.plugAll, outside, continuation_cons]
    exact finish_congr here.1 (inside extra)

/-- What is left to do depends on what the statement at the end of the path answers only. -/
theorem continuation_congr {c : Stmt} {frames : List Frame} (plain : ∀ f ∈ frames, f.Plain) {m m' : Machine σ}
    (same : setting.execute c m = setting.execute c m') :
    setting.continuation (fun _ m => m) frames c m = setting.continuation (fun _ m => m) frames c m' := by
  induction frames with
  | nil => exact same
  | cons f frames ih =>
    exact finish_congr (plain f List.mem_cons_self).1 (ih fun g member => plain g (List.mem_cons_of_mem _ member))

/-- A stop that has found its cursor passes to the root unchanged. -/
theorem continuation_stops {c x : Stmt} {frames : List Frame} (plain : ∀ f ∈ frames, f.Plain) {m m' : Machine σ}
    (stops : setting.execute c m = .ok false m') (cursor : m'.run.cursor = some x) :
    setting.continuation (fun _ m => m) frames c m = .ok false m' := by
  have kept : ∀ node, m'.onRun (·.suspendAt node) = m' := by
    intro node
    simp [Machine.onRun, RunState.suspendAt, cursor]
  induction frames with
  | nil => exact stops
  | cons f frames ih =>
    have inside := ih fun g member => plain g (List.mem_cons_of_mem _ member)
    have here := (plain f List.mem_cons_self).1
    rw [continuation_cons]
    cases f with
    | sequence at? before after => rw [finish, inside, andThen_false]
    | yes id at? condition no => rw [finish, inside, leaving_false, kept]
    | no id at? condition yes => rw [finish, inside, leaving_false, kept]
    | loop id at? condition => rw [finish, inside, andThen_false, leaving_false, kept]
    | each id at? kind name => cases here

/-- Without foreach loops the walk to the cursor leaves no trace. -/
theorem continuation_past {c : Stmt} {frames : List Frame} (plain : ∀ f ∈ frames, f.Plain) (m : Machine σ) :
    setting.continuation setting.past frames c m = setting.continuation (fun _ m => m) frames c m := by
  induction frames generalizing m with
  | nil => rfl
  | cons f frames ih =>
    have inside : setting.continuation setting.past frames c = setting.continuation (fun _ m => m) frames c :=
      funext (ih fun g member => plain g (List.mem_cons_of_mem _ member))
    obtain ⟨own, before⟩ := plain f List.mem_cons_self
    have walked := Stmt.view_passedAll (setting.game.world.first? m.host) id
      (fun s member => (before s member).passed_eq _) m.table
    have stays : setting.past f.before m = m := congrArg (fun table => { m with table }) walked
    rw [continuation_cons, continuation_cons, inside]
    cases f with
    | sequence at? body after => exact congrArg (fun m => andThen _ (setting.executeAll after)) stays
    | no id at? condition yes => exact congrArg (fun m => leaving _ _) stays
    | yes | loop => rfl
    | each => cases own

/-- A seeking run gets through statements without foreach loops. -/
theorem passable_of_eachFree (m : Machine σ) (s : Stmt) (free : s.EachFree) : setting.Passable m s :=
  setting.passable_of_fetches m s fun _ _ _ _ _ inside => nomatch free _ inside

theorem admits_of_plain (m : Machine σ) {f : Frame} (plain : f.Plain) : setting.Admits m f := by
  obtain ⟨own, before⟩ := plain
  refine ⟨setting.passableAll_iff.mpr fun s member => passable_of_eachFree m s (before s member), ?_⟩
  cases f with
  | each => cases own
  | _ => trivial

variable (setting)

/-- A live run with `n` units stops at the conditional statement at the end of a path. With more units it goes on
there; a run that starts there has to pay `again` units once more. -/
structure Pauses (frames : List Frame) (c : Stmt) (a : Scene σ) (n again : Nat) (d : Scene σ) : Prop where
  stops : setting.execute (Frame.plugAll frames c) (a.live n) = .ok false ((d.live 0).onRun (·.suspendAt c))
  goesOn : ∀ more, 1 ≤ more → setting.execute (Frame.plugAll frames c) (a.live (n + more - again)) =
    setting.continuation (fun _ m => m) frames c (d.live more)

variable {setting}

/-- A run whose budget is used up on entry of a conditional statement loses nothing there. -/
theorem pauses_onEntry {c : Stmt} (conditional : c.isConditional = true) {frames : List Frame}
    (plain : ∀ f ∈ frames, f.Plain) {a : Scene σ} {n : Nat} {m : Machine σ}
    (reaches : setting.Reaches c frames (a.live n) m) (exhausted : m.run.exhausted = true) :
    ∃ d, setting.Pauses frames c a n 0 d := by
  obtain ⟨id, own⟩ := Option.isSome_iff_exists.mp conditional
  obtain ⟨b, left, rfl, more⟩ := reaches.live plain
  obtain rfl : left = 0 := by
    cases left with
    | zero => rfl
    | succ k =>
      rw [b.exhausted_live_succ] at exhausted
      cases exhausted
  refine ⟨b, (more 0).trans ?_, fun k positive => ?_⟩
  · exact continuation_stops plain (setting.execute_of_exhausted own b.exhausted_live_zero) rfl
  · have longer := more k
    rw [Nat.zero_add] at longer
    exact longer

/-- A run whose budget is used up before a turn of a while loop has to pay once more for entering the loop. -/
theorem pauses_beforeTurn {id : NodeId} {at? : Option Position} {condition : Expr} {body : Stmt}
    {frames : List Frame} (plain : ∀ f ∈ frames, f.Plain) {a : Scene σ} {n : Nat} {m m' : Machine σ}
    (reaches : setting.Reaches (.loop id at? condition body) frames (a.live n) m) (paid : m.run.exhausted = false)
    (turned : setting.Turned condition body (m.entered id) m') (exhausted : m'.run.exhausted = true) :
    ∃ d, setting.Pauses frames (.loop id at? condition body) a n 1 d := by
  obtain ⟨b, left, rfl, more⟩ := reaches.live plain
  obtain ⟨k, rfl⟩ := exists_succ_of_paid paid
  rw [b.entered_live] at turned
  obtain ⟨d, left, rfl, longer⟩ := turned.live
  obtain rfl : left = 0 := by
    cases left with
    | zero => rfl
    | succ k =>
      rw [d.exhausted_live_succ] at exhausted
      cases exhausted
  have entering : ∀ extra, setting.execute (.loop id at? condition body) (b.live (k + 1 + extra)) =
      leaving (.loop id at? condition body) (setting.turns condition body extra (d.live extra)) := by
    intro extra
    rw [show k + 1 + extra = k + extra + 1 by omega]
    refine Eq.trans (setting.execute_live_succ rfl b (k + extra)) ?_
    simp [interior, longer]
  refine ⟨d, (more 0).trans ?_, fun j positive => ?_⟩
  · exact continuation_stops plain (entering 0) rfl
  · obtain ⟨j, rfl⟩ : ∃ i, j = i + 1 := ⟨j - 1, by omega⟩
    have again : setting.execute (.loop id at? condition body) (d.live (j + 1)) =
        leaving (.loop id at? condition body) (setting.turns condition body j (d.live j)) := by
      refine Eq.trans (setting.execute_live_succ rfl d j) ?_
      simp [interior]
    rw [show n + (j + 1) - 1 = n + j by omega, more j]
    exact continuation_congr plain ((entering j).trans again.symm)

end Setting

/-- A program can be run iff it is usable and bound to an entity that is part of a world. -/
theorem Program.refusal?_eq_none {σ : Type} {world : World σ} {host : σ} {p : Program} :
    p.refusal? world host = none ↔
      p.terminated = false ∧ ∃ me, p.context.entity? = some me ∧ world.isPlaced host me = true := by
  unfold refusal?
  cases p.terminated with
  | true => simp
  | false =>
    cases p.context.entity? with
    | none => simp
    | some me => simp

namespace Stage

variable {σ : Type}

/-- The budget of a run is used up when it comes to the conditional statement at the end of a path. -/
def DryOnEntry (game : Game σ) (s : Stage σ) (frames : List Frame) (c : Stmt) : Prop :=
  Frame.plugAll frames c = s.program.root ∧ c.isConditional = true ∧
    ∃ m, (s.setting game).Reaches c frames s.started m ∧ m.run.exhausted = true

/-- The budget of a run is used up when the while loop at the end of a path is about to start another turn. -/
def DryBeforeTurn (game : Game σ) (s : Stage σ) (frames : List Frame) (c : Stmt) : Prop :=
  Frame.plugAll frames c = s.program.root ∧ ∃ id at? condition body m m', c = .loop id at? condition body ∧
    (s.setting game).Reaches c frames s.started m ∧ m.run.exhausted = false ∧
    (s.setting game).Turned condition body (m.entered id) m' ∧ m'.run.exhausted = true

/-- A run that pauses and the run that goes on from there are one run with their budgets together, less what is paid
once more. -/
theorem observe_of_pauses {source : String} {file : Option String} {handler? : Option HandlerId}
    {budget : Except Fault Int} {p : Program} (parsed : Program.parse source file handler? budget = .ok p)
    (free : p.root.EachFree) {game : Game σ} {s : Stage σ} (root : s.program.root = p.root)
    (ready : s.program.refusal? game.world s.host = none) (fresh : s.program.state.cursor = none) {n₁ n₂ again : Nat}
    (pays : 1 ≤ n₂) (less : again ≤ 1) {frames : List Frame} {c : Stmt}
    (path : Frame.plugAll frames c = s.program.root) (conditional : c.isConditional = true)
    (stays : ∀ me, s.program.context.entity? = some me →
      game.world.isPlaced ((s.withBudget n₁).run game).2.host me = true)
    {d : Scene σ} (pauses : (s.setting game).Pauses frames c s.opening n₁ again d) :
    ((s.withBudget n₁).run game).1 = .ok () ∧ ((s.withBudget n₁).run game).2.program.isFinished = false ∧
      ((s.withBudget n₁).run game).2.program.state.cursor = some c ∧
      observe ((((s.withBudget n₁).run game).2.withBudget n₂).run game) =
        observe ((s.withBudget (n₁ + n₂ - again)).run game) := by
  have fromRoot : Frame.plugAll frames c = p.root := path.trans root
  have unique : s.program.root.ids.Nodup := root ▸ Program.ids_nodup_of_parse parsed
  have solid : s.program.root.Solid := root ▸ (Program.wellTyped_of_parse parsed).solid
  have plain := Frame.plain_of_eachFree (fromRoot ▸ free : (Frame.plugAll frames c).EachFree)
  have firstAnswer : (s.withBudget n₁).answer game = .ok false ((d.live 0).onRun (·.suspendAt c)) := by
    rw [answer_of_fresh (s := s.withBudget n₁) (n := n₁) fresh rfl, ← pauses.stops, path]
    rfl
  have first : (s.withBudget n₁).run game =
      (.ok (), (s.withBudget n₁).absorb (suspended ((d.live 0).onRun (·.suspendAt c)))) := by
    rw [run_eq game (s.withBudget n₁) ready, firstAnswer]
  rw [first] at stays ⊢
  refine ⟨rfl, rfl, rfl, ?_⟩
  obtain ⟨usable, me, bound, -⟩ := Program.refusal?_eq_none.mp ready
  have stopped : (((s.withBudget n₁).absorb (suspended ((d.live 0).onRun (·.suspendAt c)))).withBudget n₂).StoppedAt
      game frames c :=
    { ready := Program.refusal?_eq_none.mpr ⟨usable, me, bound, stays me bound⟩
      paid := Int.ofNat_le.mpr pays
      path
      conditional
      cursor := rfl
      admits := fun f member => Setting.admits_of_plain _ (plain f member) }
  have walked := stopped.execute_root unique solid
  have single : (s.withBudget (n₁ + n₂ - again)).answer game =
      (s.setting game).continuation (fun _ m => m) frames c (d.live n₂) := by
    have whole : ((n₁ : Int) + n₂ - again) = (n₁ + n₂ - again : Nat) := by omega
    rw [answer_of_fresh (s := s.withBudget (n₁ + n₂ - again)) (n := n₁ + n₂ - again) fresh whole,
      ← pauses.goesOn n₂ pays, path]
    rfl
  rw [observe_run _ _ stopped.ready, observe_run _ (s.withBudget (n₁ + n₂ - again)) ready, single]
  unfold answer
  rw [walked]
  unfold resumed
  rw [Setting.andThen_continuation, andThen_done, Setting.continuation_past plain]
  exact Setting.observe_continuation _ (fun _ _ _ => rfl) frames c (d.live n₂) _

/-- A suspension at a boundary loses nothing and repeats nothing. For every program without foreach loops that comes
out of its text and has no cursor, a run whose budget is used up on entry of an if or while statement is suspended
there, and with the run that follows it shows what one run with both budgets shows: the same ending, host state,
variables, remaining budget and cursor. If the budget is used up before a turn of a while loop, one unit is paid
twice. The host state includes whatever the handler wrote down in both runs; the handler must leave the bound entity
in its world, since the second run would be refused otherwise. -/
theorem observe_two_runs_eq_one {source : String} {file : Option String} {handler? : Option HandlerId}
    {budget : Except Fault Int} {p : Program} (parsed : Program.parse source file handler? budget = .ok p)
    (free : p.root.EachFree) (game : Game σ) (s : Stage σ) (root : s.program.root = p.root)
    (ready : s.program.refusal? game.world s.host = none) (fresh : s.program.state.cursor = none) (n₁ n₂ : Nat)
    (pays : 1 ≤ n₂)
    (stays : ∀ me, s.program.context.entity? = some me →
      game.world.isPlaced ((s.withBudget n₁).run game).2.host me = true) (frames : List Frame) (c : Stmt) :
    let first := (s.withBudget n₁).run game
    let second := (first.2.withBudget n₂).run game
    let suspended := first.1 = .ok () ∧ first.2.program.isFinished = false ∧ first.2.program.state.cursor = some c
    ((s.withBudget n₁).DryOnEntry game frames c →
      suspended ∧ observe second = observe ((s.withBudget (n₁ + n₂)).run game)) ∧
    ((s.withBudget n₁).DryBeforeTurn game frames c →
      suspended ∧ observe second = observe ((s.withBudget (n₁ + n₂ - 1)).run game)) := by
  intro first second suspended
  have opening : (s.withBudget n₁).started = s.opening.live n₁ := started_of_fresh fresh rfl
  have plain : Frame.plugAll frames c = s.program.root → ∀ f ∈ frames, f.Plain := fun path =>
    Frame.plain_of_eachFree ((path.trans root).symm ▸ free)
  constructor
  · rintro ⟨path, conditional, m, reaches, exhausted⟩
    rw [opening] at reaches
    obtain ⟨d, pauses⟩ := Setting.pauses_onEntry conditional (plain path) reaches exhausted
    obtain ⟨returned, unfinished, cursor, same⟩ :=
      observe_of_pauses parsed free root ready fresh pays (Nat.zero_le 1) path conditional stays pauses
    exact ⟨⟨returned, unfinished, cursor⟩, same.trans (by rw [Int.natCast_zero, Int.sub_zero])⟩
  · rintro ⟨path, id, at?, condition, body, m, m', rfl, reaches, paid, turned, exhausted⟩
    rw [opening] at reaches
    obtain ⟨d, pauses⟩ := Setting.pauses_beforeTurn (plain path) reaches paid turned exhausted
    obtain ⟨returned, unfinished, cursor, same⟩ :=
      observe_of_pauses parsed free root ready fresh pays (Nat.le_refl 1) path rfl stays pauses
    exact ⟨⟨returned, unfinished, cursor⟩, same⟩

end Stage

namespace March

/-- A program that moves once and then goes on moving. -/
def source : String := "move; while true \x7b move; \x7d"

def onward : Stmt :=
  .loop ⟨0⟩ (onFirstLine 7 27) (.boolean (onFirstLine 13 17) true)
    (.sequence (onFirstLine 18 27) [.action (onFirstLine 20 25) .move])

def path : List Frame := [.sequence (onFirstLine 1 27) [.action (onFirstLine 1 6) .move] []]

def program : Program where
  root := Frame.plugAll path onward
  globals := {}

set_option maxRecDepth 20000 in
theorem parse_source : Program.parse source none none (.ok 1000) = .ok program := by
  cbv

theorem eachFree : program.root.EachFree := by
  simp [Stmt.EachFree, program, path, onward, Frame.plugAll, Frame.plug, Stmt.walk, Stmt.walkAll, Stmt.loopVariable?]

def bound : Stage (List String) where
  program := { program with context := { entity? := some ⟨0⟩ } }
  host := []

/-- One unit pays for the first move. -/
theorem dry_onEntry : (bound.withBudget (1 : Nat)).DryOnEntry soloGame path onward :=
  ⟨rfl, rfl, _, .inside (.sequence rfl) .here, rfl⟩

/-- Four units pay for the first move, the loop, a turn and the move in it. -/
theorem dry_beforeTurn : (bound.withBudget (4 : Nat)).DryBeforeTurn soloGame path onward :=
  ⟨rfl, _, _, _, _, _, _, rfl, .inside (.sequence rfl) .here, rfl, .turn rfl rfl rfl .none, rfl⟩

end March

/-- Suspended on entry of its loop, the program goes on as one run of four units; suspended before a turn, it pays
one unit for the loop once more. -/
theorem march_two_runs_eq_one :
    Program.parse March.source none none (.ok 1000) = .ok March.program ∧ March.program.root.EachFree ∧
      (March.bound.withBudget (1 : Nat)).DryOnEntry soloGame March.path March.onward ∧
      Stage.observe ((((March.bound.withBudget (1 : Nat)).run soloGame).2.withBudget (3 : Nat)).run soloGame) =
        Stage.observe ((March.bound.withBudget ((1 : Nat) + (3 : Nat))).run soloGame) ∧
      (March.bound.withBudget (4 : Nat)).DryBeforeTurn soloGame March.path March.onward ∧
      Stage.observe ((((March.bound.withBudget (4 : Nat)).run soloGame).2.withBudget (3 : Nat)).run soloGame) =
        Stage.observe ((March.bound.withBudget ((4 : Nat) + (3 : Nat) - 1)).run soloGame) ∧
      ((March.bound.withBudget ((4 : Nat) + (3 : Nat) - 1)).run soloGame).2.host = ["move", "move", "move"] :=
  ⟨March.parse_source, March.eachFree, March.dry_onEntry,
    ((Stage.observe_two_runs_eq_one March.parse_source March.eachFree soloGame March.bound rfl rfl rfl 1 3
      (by decide) (fun _ _ => rfl) March.path March.onward).1 March.dry_onEntry).2,
    March.dry_beforeTurn,
    ((Stage.observe_two_runs_eq_one March.parse_source March.eachFree soloGame March.bound rfl rfl rfl 4 3
      (by decide) (fun _ _ => rfl) March.path March.onward).2 March.dry_beforeTurn).2,
    by decide +kernel⟩

/-- A game whose handler takes whoever performs a deed out of the world. -/
def leavingGame : Game Arena where
  world := Arena.world
  handler :=
    { perform := fun me _ a => (.ok true, (a.remove me).toOption.getD a)
      print := fun _ a => (.ok (), a) }

/-- The march of a worm that is alone in its world. -/
def March.alone : Stage Arena where
  program := bound.program
  host := { beings := #[.worm default], members := [⟨0⟩] }

/-- Two runs are not one where the handler takes the bound entity out of its world: the march is suspended on entry of
its loop, and the next run is refused for want of a world, while one run of four units just goes on. -/
theorem departure_parts_runs :
    ¬ ∀ (source : String) (file : Option String) (handler? : Option HandlerId) (budget : Except Fault Int)
      (p : Program), Program.parse source file handler? budget = .ok p → p.root.EachFree →
      ∀ (game : Game Arena) (s : Stage Arena), s.program.root = p.root →
      s.program.refusal? game.world s.host = none → s.program.state.cursor = none →
      ∀ n₁ n₂ : Nat, 1 ≤ n₂ → ∀ (frames : List Frame) (c : Stmt), (s.withBudget n₁).DryOnEntry game frames c →
      Stage.observe ((((s.withBudget n₁).run game).2.withBudget n₂).run game) =
        Stage.observe ((s.withBudget (n₁ + n₂)).run game) := by
  intro same
  have dry : (March.alone.withBudget (1 : Nat)).DryOnEntry leavingGame March.path March.onward :=
    ⟨rfl, rfl, _, .inside (.sequence rfl) .here, rfl⟩
  have ended := congrArg Observation.ending (same _ _ _ _ _ March.parse_source March.eachFree leavingGame March.alone
    rfl rfl rfl 1 3 (by decide) March.path March.onward dry)
  have second : (Stage.observe ((((March.alone.withBudget (1 : Nat)).run leavingGame).2.withBudget (3 : Nat)).run
      leavingGame)).ending = .raised { cause := .noWorld } := rfl
  have single : (Stage.observe ((March.alone.withBudget ((1 : Nat) + (3 : Nat))).run leavingGame)).ending =
      .suspended := rfl
  rw [second, single] at ended
  cases ended

end WormLang
