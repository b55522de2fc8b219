import WormLang.Proofs.Execution.Cursor

/-!
Which statements a run comes to, which expressions it evaluates there, and on which machines. A path from the root is
followed by the calls that execution makes from a statement to those directly inside it, so that facts about single
calls become facts about everything that a run executes.
-/
namespace WormLang

open Answer

theorem Frame.plugAll_append (frames more : List Frame) (s : Stmt) :
    plugAll (frames ++ more) s = plugAll frames (plugAll more s) := by
  induction frames with
  | nil => rfl
  | cons f frames ih => rw [List.cons_append, plugAll, plugAll, ih]

namespace Setting

variable {σ : Type} (setting : Setting σ)

/-- Executing what is around a statement on one machine executes the statement on another. -/
inductive Reaches (t : Stmt) : List Frame → Machine σ → Machine σ → Prop
  | here {m : Machine σ} : Reaches t [] m m
  | inside {f : Frame} {frames : List Frame} {m m' at' : Machine σ}
    (calls : setting.Calls (Frame.plugAll frames t) m f m') (rest : Reaches t frames m' at') :
    Reaches t (f :: frames) m at'

/-- Turns of a while loop that came to their end lead from one machine to another. -/
inductive Turned (c : Expr) (body : Stmt) : Machine σ → Machine σ → Prop
  | none {m : Machine σ} : Turned c body m m
  | turn {m m' m'' after : Machine σ} (paid : m.run.exhausted = false)
    (holds : setting.test c (m.onRun RunState.charge) = .ok true m')
    (done : setting.execute body m' = .ok true m'') (rest : Turned c body m'' after) : Turned c body m after

/-- Executing a statement on one machine evaluates an expression of it on another. -/
inductive Needs : Stmt → Machine σ → Expr → Machine σ → Prop
  | leaf {s : Stmt} {e : Expr} {m : Machine σ} (isLeaf : s.isLeaf = true) (directly : e ∈ s.expressions)
    (paid : m.run.exhausted = false) (live : m.run.seeking = false) : Needs s m e (m.onRun RunState.charge)
  | branch {id : NodeId} {at? : Option Position} {c : Expr} {yes no : Stmt} {m : Machine σ}
    (paid : m.run.exhausted = false) (live : (m.entered id).run.seeking = false) :
    Needs (.branch id at? c yes no) m c (m.entered id)
  | loop {id : NodeId} {at? : Option Position} {c : Expr} {body : Stmt} {m after : Machine σ}
    (paid : m.run.exhausted = false) (live : (m.entered id).run.seeking = false)
    (turned : setting.Turned c body (m.entered id) after) (again : after.run.exhausted = false) :
    Needs (.loop id at? c body) m c (after.onRun RunState.charge)
  | resumed {id : NodeId} {at? : Option Position} {c : Expr} {body : Stmt} {m found after : Machine σ}
    (paid : m.run.exhausted = false) (seeking : (m.entered id).run.seeking = true)
    (done : setting.execute body (m.entered id) = .ok true found) (live : found.run.seeking = false)
    (turned : setting.Turned c body found after) (again : after.run.exhausted = false) :
    Needs (.loop id at? c body) m c (after.onRun RunState.charge)

theorem Needs.directly {setting : Setting σ} {s : Stmt} {m m' : Machine σ} {e : Expr}
    (needs : setting.Needs s m e m') : e ∈ s.expressions := by
  cases needs with
  | leaf isLeaf directly => exact directly
  | branch | loop | resumed => exact List.mem_singleton_self _

variable {setting} {good : Stmt → Prop} {going stopped : Machine σ → Prop} {failed : Fault → Machine σ → Prop}

/-- Whatever a run comes to, it comes to on a machine of a run that goes on. -/
theorem Reaches.guards (guards : setting.Guards good going stopped failed) {t : Stmt} {frames : List Frame}
    {m at' : Machine σ} (reaches : setting.Reaches t frames m at')
    (goods : ∀ u ∈ (Frame.plugAll frames t).walk, good u) (h : going m) : going at' := by
  induction reaches with
  | here => exact h
  | @inside f frames m m' at' calls rest ih =>
    have inner := (Stmt.forall_walk_iff.mp goods).2 _ (f.mem_children_plug (Frame.plugAll frames t))
    exact ih inner (calls.guards guards goods h)

theorem Turned.guards (guards : setting.Guards good going stopped failed) {c : Expr} {body : Stmt}
    (test : ∀ m, going m → (setting.test c m).Meets going going failed)
    (step : ∀ m, going m → (setting.execute body m).Meets going stopped failed) {m after : Machine σ}
    (turned : setting.Turned c body m after) (h : going m) : going after := by
  induction turned with
  | none => exact h
  | turn paid holds done rest ih =>
    have tested := test _ (guards.pay _ h paid)
    rw [holds] at tested
    have ran := step _ tested
    rw [done] at ran
    exact ih ran

/-- Whatever is evaluated is evaluated on a machine of a run that goes on. -/
theorem Needs.guards (guards : setting.Guards good going stopped failed) {s : Stmt} {m m' : Machine σ} {e : Expr}
    (needs : setting.Needs s m e m') (goods : ∀ u ∈ s.walk, good u) (h : going m) : going m' := by
  obtain ⟨own, inner⟩ := Stmt.forall_walk_iff.mp goods
  cases needs with
  | leaf isLeaf directly paid live => exact guards.pay m h paid
  | branch paid live => exact guards.entered h paid _
  | @loop id _ _ body _ _ paid live turned again =>
    have step := guards.execute body (inner body (by simp [Stmt.children]))
    exact guards.pay _ (turned.guards guards (guards.test _ _ own rfl) step (guards.entered h paid id)) again
  | @resumed id _ _ body _ _ _ paid seeking done live turned again =>
    have step := guards.execute body (inner body (by simp [Stmt.children]))
    have ran := step _ (guards.entered h paid id)
    rw [done] at ran
    exact guards.pay _ (turned.guards guards (guards.test _ _ own rfl) step ran) again

/-- One path after the other. -/
theorem Reaches.trans {t : Stmt} {outer inner : List Frame} {m at' at'' : Machine σ}
    (first : setting.Reaches (Frame.plugAll inner t) outer m at') (second : setting.Reaches t inner at' at'') :
    setting.Reaches t (outer ++ inner) m at'' := by
  induction first with
  | here => exact second
  | @inside f frames m m' at' calls rest ih =>
    rw [← Frame.plugAll_append] at calls
    exact .inside calls (ih second)

section

variable {p : Machine σ → Prop} (keeps : setting.Keeps p p p)

include keeps

/-- What holds at the end of the body in a turn and is kept holds at the end of the while loop. -/
theorem TurnAt.ends {c : Expr} {body : Stmt} {m at' : Machine σ} (turn : setting.TurnAt c body m at')
    (inside : (setting.execute body at').Within p p p) (fuel : Nat) (enough : m.run.budget ≤ fuel) :
    (setting.turns c body fuel m).Within p p p := by
  induction turn generalizing fuel with
  | @here m at' paid holds =>
    have positive := exhausted_of_budget paid
    obtain ⟨fuel, rfl⟩ : ∃ f, fuel = f + 1 := ⟨fuel - 1, by omega⟩
    rw [turns_succ, paid, if_neg (by simp), holds, either_true]
    exact Meets.andThen inside (keeps.guards.turns (fun m => keeps.test m c) (keeps.execute body) fuel)
  | @later m first second at' paid holds done rest ih =>
    have positive := exhausted_of_budget paid
    obtain ⟨fuel, rfl⟩ : ∃ f, fuel = f + 1 := ⟨fuel - 1, by omega⟩
    have spent : second.run.budget ≤ fuel := by
      have atBody := setting.budget_of_done done
      rw [setting.run_of_test holds] at atBody
      have charged : (m.onRun RunState.charge).run.budget = m.run.budget - 1 := rfl
      omega
    rw [turns_succ, paid, if_neg (by simp), holds, either_true, done, andThen_true]
    exact ih inside fuel spent

/-- What holds at the end of the body in a visit and is kept holds at the end of the foreach loop. -/
theorem VisitAt.ends {name : String} {body : Stmt} {entities : List EntityId} {m at' : Machine σ}
    (visit : setting.VisitAt name body entities m at') (inside : (setting.execute body at').Within p p p) :
    (setting.visits name body entities m).Within p p p := by
  have visits := keeps.guards.visits (fun m => keeps.bind m name) (keeps.execute body)
  induction visit with
  | @here e rest m paid =>
    rw [setting.visits_turn _ _ _ _ paid]
    refine Meets.andThen inside fun m' h => ?_
    split
    · exact h
    · exact visits rest m' h
  | later paid done found others ih =>
    rw [setting.visits_turn _ _ _ _ paid, done, andThen_true, found, if_neg (by simp)]
    exact ih inside

/-- What holds at the end of the hole of a frame and is kept holds at the end of the frame. -/
theorem Calls.ends {hole : Stmt} {f : Frame} {m at' : Machine σ} (calls : setting.Calls hole m f at')
    (inside : (setting.execute hole at').Within p p p) : (setting.execute (f.plug hole) m).Within p p p := by
  cases calls with
  | @sequence _ before after _ walked =>
    rw [Frame.plug, execute_sequence, executeAll_append, walked, andThen_true, executeAll_cons]
    exact Meets.andThen inside (Guards.executeAll after fun s _ => keeps.execute s)
  | @yesSeeking _ _ _ no paid seeking =>
    rw [Frame.plug, setting.execute_branch_of_seeking paid seeking]
    refine (Meets.andThen inside fun m' h => ?_).leaving fun m => keeps.suspend m _
    split
    · exact keeps.execute no m' h
    · exact h
  | noSeeking paid seeking walked still =>
    rw [Frame.plug, setting.execute_branch_of_seeking paid seeking, walked, andThen_true, if_pos still]
    exact Meets.leaving inside fun m => keeps.suspend m _
  | yesLive paid live holds =>
    rw [Frame.plug, setting.execute_branch_of_live paid live, holds, either_true]
    exact Meets.leaving inside fun m => keeps.suspend m _
  | noLive paid live fails =>
    rw [Frame.plug, setting.execute_branch_of_live paid live, fails, either_false]
    exact Meets.leaving inside fun m => keeps.suspend m _
  | @loopSeeking _ _ c paid seeking =>
    rw [Frame.plug, setting.execute_loop_of_seeking paid seeking]
    refine (Meets.andThen inside fun m' h => ?_).leaving fun m => keeps.suspend m _
    split
    · exact h
    · exact keeps.guards.turns (fun m => keeps.test m c) (keeps.execute hole) _ m' h
  | loopResumed paid seeking done found turn =>
    rw [Frame.plug, setting.execute_loop_of_seeking paid seeking, done, andThen_true, found, if_neg (by simp)]
    exact (turn.ends keeps inside _ (Int.self_le_toNat _)).leaving fun m => keeps.suspend m _
  | loopLive paid live turn =>
    rw [Frame.plug, setting.execute_loop_of_live paid live]
    exact (turn.ends keeps inside _ (Int.self_le_toNat _)).leaving fun m => keeps.suspend m _
  | each paid fetched visit =>
    rw [Frame.plug, setting.execute_each_of_ok paid fetched]
    exact (visit.ends keeps inside).leaving fun m => keeps.suspend m _

/-- What holds at the end of a statement that is reached and is kept holds at the end of the pass. -/
theorem Reaches.ends {t : Stmt} {frames : List Frame} {m at' : Machine σ} (reaches : setting.Reaches t frames m at')
    (inside : (setting.execute t at').Within p p p) : (setting.execute (Frame.plugAll frames t) m).Within p p p := by
  induction reaches with
  | here => exact inside
  | inside calls rest ih => exact calls.ends keeps (ih inside)

end

end Setting

namespace Stage

variable {σ : Type}

/-- A run that is not refused walks the tree from a machine: from the one that it starts on, and if that walk does not
reach the cursor, from one on which it starts over. -/
inductive Walks (game : Game σ) (s : Stage σ) : Machine σ → Prop
  | first (ready : s.program.refusal? game.world s.host = none) : Walks game s s.started
  | again {lost : Machine σ} (ready : s.program.refusal? game.world s.host = none)
    (missed : (s.setting game).execute s.program.root s.started = .ok true lost) (still : lost.run.seeking = true) :
    Walks game s lost.restarted

/-- A run comes to a statement of the tree on a machine. -/
def Comes (game : Game σ) (s : Stage σ) (t : Stmt) (m : Machine σ) : Prop :=
  ∃ frames start, Frame.plugAll frames t = s.program.root ∧ s.Walks game start ∧
    (s.setting game).Reaches t frames start m

variable {game : Game σ} {s : Stage σ} {good : Stmt → Prop} {going stopped : Machine σ → Prop}
  {failed : Fault → Machine σ → Prop}

theorem Comes.mem_walk {t : Stmt} {m : Machine σ} (comes : s.Comes game t m) : t ∈ s.program.root.walk := by
  obtain ⟨frames, start, path, -, -⟩ := comes
  exact Frame.mem_walk_iff_plugAll.mpr ⟨frames, path⟩

/-- What a run keeps holds wherever it comes to. -/
theorem Comes.guards (guards : (s.setting game).Guards good going stopped failed)
    (goods : ∀ u ∈ s.program.root.walk, good u)
    (starts : s.program.refusal? game.world s.host = none → going s.started)
    (restarts : ∀ m, going m → going m.restarted) {t : Stmt} {m : Machine σ} (comes : s.Comes game t m) :
    going m := by
  obtain ⟨frames, start, path, walks, reaches⟩ := comes
  refine reaches.guards guards (path ▸ goods) ?_
  cases walks with
  | first ready => exact starts ready
  | again ready missed still =>
    have walked := guards.execute _ goods _ (starts ready)
    rw [missed] at walked
    exact restarts _ walked

/-- What single steps keep, the answer of a run keeps. -/
theorem meets_answer (guards : (s.setting game).Guards good going stopped failed)
    (goods : ∀ u ∈ s.program.root.walk, good u) (starts : going s.started)
    (restarts : ∀ m, going m → going m.restarted) : (s.answer game).Meets going stopped failed := by
  refine (guards.execute _ goods _ starts).andThen fun m h => ?_
  split
  · exact guards.execute _ goods _ (restarts m h)
  · exact h

end Stage

end WormLang
