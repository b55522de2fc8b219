import WormLang.Proofs.Execution.Seek
import WormLang.Proofs.Execution.Run
import WormLang.Proofs.Build.Outcome

/-!
Resumption. A run that starts with a cursor does what is left to do from the cursor on: execute the cursor, then
finish the statements around it, from the innermost to the root. What is left is defined by recursion on the path
from the root to the cursor, without any seeking, and the run is shown equal to it.

The walk to the cursor leaves one trace: the loops that it passes on its way bind their variables. What is left to
do is therefore parametric in what the walk does to the machine.
-/
namespace WormLang

open Answer

namespace Setting

variable {σ : Type} (setting : Setting σ)

/-- Finish the statement around a hole, given how the hole is finished. The condition of an if is not tested, a
while loop goes on with its next test, and a foreach loop is at its first entity. -/
def finish (walk : List Stmt → Machine σ → Machine σ) (hole : Stmt) (inner : Machine σ → Answer σ) (f : Frame)
    (m : Machine σ) : Answer σ :=
  match f with
  | .sequence _ before after => andThen (inner (walk before m)) (setting.executeAll after)
  | .yes .. => leaving (f.plug hole) (inner m)
  | .no _ _ _ other => leaving (f.plug hole) (inner (walk [other] m))
  | .loop _ _ c =>
    leaving (f.plug hole) (andThen (inner m) fun m => setting.turns c hole m.run.budget.toNat m)
  | .each _ at? kind name =>
    leaving (f.plug hole) <|
      match setting.members at? kind name m with
      | .ok (e :: rest) => andThen (inner (m.bound name e)) (setting.visits name hole rest)
      | .ok [] => .ok true m
      | .error fault => .error fault m

/-- What is left to do from a statement on, by recursion on the path from the root to it. -/
def continuation (walk : List Stmt → Machine σ → Machine σ) : List Frame → Stmt → Machine σ → Answer σ
  | [], c => setting.execute c
  | f :: frames, c => setting.finish walk (Frame.plugAll frames c) (continuation walk frames c) f

theorem continuation_cons (walk : List Stmt → Machine σ → Machine σ) (f : Frame) (frames : List Frame) (c : Stmt)
    (m : Machine σ) :
    setting.continuation walk (f :: frames) c m =
      setting.finish walk (Frame.plugAll frames c) (setting.continuation walk frames c) f m := rfl

/-- A seeking run gets through a frame to its hole: no loop before the hole fails to fetch its entities, and if the
frame is a loop over entities, there are some. -/
def Admits (m : Machine σ) (f : Frame) : Prop :=
  setting.PassableAll m f.before ∧
    match f with
    | .each _ at? kind name => ∃ e rest, setting.members at? kind name m = .ok (e :: rest)
    | _ => True

theorem admits_withTable {m : Machine σ} {t : Table Variable} (types : m.table.SameTypes t) {f : Frame}
    (admits : setting.Admits m f) : setting.Admits { m with table := t } f := by
  obtain ⟨passable, opens⟩ := admits
  constructor
  · rw [passableAll_iff] at passable ⊢
    exact fun s before => setting.passable_withTable types s (passable s before)
  · cases f with
    | each id at? kind name =>
      obtain ⟨e, rest, fetched⟩ := opens
      exact ⟨e, rest, by rw [members_withTable setting types]; exact fetched⟩
    | _ => trivial

/-- What is left to do from a statement on stays live. -/
theorem continuation_live {walk : List Stmt → Machine σ → Machine σ} (spares : ∀ body m, (walk body m).run = m.run)
    (frames : List Frame) (c : Stmt) (m : Machine σ) (live : m.run.Live) :
    (setting.continuation walk frames c m).Within (·.run.Live) (·.run.finished = true) (·.run.Live) := by
  have keeps := setting.keeps_live
  have walked : ∀ body (m : Machine σ), m.run.Live → (walk body m).run.Live := by
    intro body m live
    rw [spares]
    exact live
  induction frames generalizing m with
  | nil => exact setting.execute_live live c
  | cons f frames ih =>
    cases f with
    | sequence at? before after =>
      exact (ih _ (walked before m live)).andThen
        (Guards.executeAll after fun s _ m live => setting.execute_live live s)
    | yes id at? condition other => exact (ih m live).leaving fun m => keeps.suspend m _
    | no id at? condition other => exact (ih _ (walked [other] m live)).leaving fun m => keeps.suspend m _
    | loop id at? condition =>
      refine Answer.Meets.leaving ((ih m live).andThen fun m' live' => ?_) fun m => keeps.suspend m _
      exact keeps.guards.turns (fun m => keeps.test m condition) (fun m live => setting.execute_live live _) _ m' live'
    | each id at? kind name =>
      refine Answer.Meets.leaving ?_ fun m => keeps.suspend m _
      cases setting.members at? kind name m with
      | error f => exact live
      | ok entities =>
        cases entities with
        | nil => exact live
        | cons e rest =>
          exact (ih (m.bound name e) live).andThen
            (keeps.guards.visits (fun m => keeps.bind m name) (fun m live => setting.execute_live live _) rest)

/-- A run that reaches its cursor goes on as a live run would. -/
theorem execute_at_cursor {c : Stmt} {id : NodeId} (own : c.id? = some id) {m : Machine σ} (seeks : m.Seeks id) :
    setting.execute c m = setting.execute c (m.onRun RunState.resume) := by
  have entered : m.entered id = (m.onRun RunState.resume).entered id := by
    unfold Machine.entered
    rw [seeks.seeking, seeks.isAt_self]
    rfl
  have paid : (m.onRun RunState.resume).run.exhausted = false := seeks.paid
  rw [setting.execute_of_paid own seeks.paid, entered, setting.execute_of_paid own paid]

theorem executeAll_singleton (s : Stmt) (m : Machine σ) : setting.executeAll [s] m = setting.execute s m := by
  rw [executeAll_cons, show setting.executeAll [] = .ok true from funext setting.executeAll_nil, andThen_done]

/-- Behind the cursor nobody seeks. -/
theorem andThen_continuation (frames : List Frame) (c : Stmt) (m : Machine σ) (seeking next : Machine σ → Answer σ) :
    (andThen (setting.continuation setting.past frames c (m.onRun RunState.resume))
      fun m => if m.run.seeking then seeking m else next m) =
    andThen (setting.continuation setting.past frames c (m.onRun RunState.resume)) next :=
  andThen_of_live (@continuation_live σ setting setting.past (fun _ _ => rfl) frames c
    (m.onRun RunState.resume) ⟨rfl, rfl⟩) seeking next

/-- A run that seeks a conditional statement does what is left to do from it on. The induction is on the path: each
frame is entered for free, walked up to its hole, and picked up live behind it. -/
theorem execute_plugAll {c : Stmt} {id : NodeId} (own : c.id? = some id) (frames : List Frame)
    (apart : ∀ f ∈ frames, f.Apart id) (solid : ∀ f ∈ frames, ∀ s ∈ f.before, s.Solid) (m : Machine σ)
    (seeks : m.Seeks id) (admits : ∀ f ∈ frames, setting.Admits m f) :
    setting.execute (Frame.plugAll frames c) m =
      setting.continuation setting.past frames c (m.onRun RunState.resume) := by
  induction frames generalizing m with
  | nil => exact setting.execute_at_cursor own seeks
  | cons f frames ih =>
    obtain ⟨passable, opens⟩ := admits f List.mem_cons_self
    have inside : ∀ t, m.table.SameTypes t → setting.execute (Frame.plugAll frames c) { m with table := t } =
        setting.continuation setting.past frames c ({ m with table := t }.onRun RunState.resume) := by
      intro t types
      exact ih (fun g member => apart g (List.mem_cons_of_mem _ member))
        (fun g member => solid g (List.mem_cons_of_mem _ member)) _ (seeks.withTable t)
        fun g member => setting.admits_withTable types (admits g (List.mem_cons_of_mem _ member))
    obtain ⟨notHere, notBefore⟩ := apart f List.mem_cons_self
    obtain ⟨walked, types⟩ := setting.executeAll_past seeks
      (fun s before => ⟨notBefore s before, solid f List.mem_cons_self s before⟩) passable
    have free : ∀ {other : NodeId}, f.id? = some other → m.entered other = m := fun own =>
      seeks.entered_other fun same => notHere (own.trans (congrArg some same))
    have seeking : ∀ {other : NodeId}, f.id? = some other → (m.entered other).run.seeking = true := fun own => by
      rw [free own]
      exact seeks.seeking
    cases f with
    | sequence at? before after =>
      rw [Frame.plugAll, Frame.plug, execute_sequence, executeAll_append]
      rw [show setting.executeAll before m = _ from walked, andThen_true, executeAll_cons]
      exact congrArg (andThen · (setting.executeAll after)) (inside _ types)
    | yes other at? condition no =>
      rw [Frame.plugAll, Frame.plug, setting.execute_branch_of_seeking seeks.paid (seeking rfl), free rfl,
        show setting.execute _ m = _ from inside m.table (.refl _), andThen_continuation, andThen_done]
      rfl
    | no other at? condition yes =>
      have passed : setting.execute yes m = .ok true (setting.past [yes] m) := by
        rw [← executeAll_singleton]
        exact walked
      rw [Frame.plugAll, Frame.plug, setting.execute_branch_of_seeking seeks.paid (seeking rfl), free rfl, passed,
        andThen_true, if_pos (show (setting.past [yes] m).run.seeking = true from seeks.seeking)]
      exact congrArg (leaving _) (inside _ types)
    | loop other at? condition =>
      rw [Frame.plugAll, Frame.plug, setting.execute_loop_of_seeking seeks.paid (seeking rfl), free rfl,
        show setting.execute _ m = _ from inside m.table (.refl _), andThen_continuation]
      rfl
    | each other at? kind name =>
      obtain ⟨e, rest, fetched⟩ := opens
      obtain ⟨⟨v, declared, ty⟩, -⟩ := setting.members_ok fetched
      have binding : m.table.SameTypes (m.bound name e).table := Table.sameTypes_set declared ty.symm
      have fetchedLive : setting.members at? kind name (m.onRun RunState.resume) = .ok (e :: rest) := fetched
      rw [Frame.plugAll, Frame.plug, setting.execute_each_of_ok seeks.paid (by rw [free rfl]; exact fetched), free rfl,
        visits_cons, seeks.paid, if_neg (by simp), if_pos seeks.seeking]
      rw [show setting.execute _ (m.bound name e) = _ from inside _ binding, andThen_continuation]
      rw [continuation, finish, fetchedLive]
      rfl

end Setting

namespace Stage

variable {σ : Type}

/-- A program that can run and has to go on at a conditional statement, which the walk to it can reach. -/
structure StoppedAt (game : Game σ) (frames : List Frame) (c : Stmt) (s : Stage σ) : Prop where
  ready : s.program.refusal? game.world s.host = none
  paid : 1 ≤ s.program.maxStatements
  path : Frame.plugAll frames c = s.program.root
  conditional : c.isConditional = true
  cursor : s.program.state.cursor = some c
  admits : ∀ f ∈ frames, (s.setting game).Admits s.started f

/-- The machine of a live run with the whole budget and the present variables. -/
def resumed (s : Stage σ) : Machine σ := s.started.onRun RunState.resume

theorem seeks_of_cursor {s : Stage σ} {c : Stmt} {id : NodeId} (cursor : s.program.state.cursor = some c)
    (paid : 1 ≤ s.program.maxStatements) (own : c.id? = some id) : s.started.Seeks id where
  seeking := by
    show (!s.program.state.cursor.isNone) = true
    rw [cursor]
    rfl
  paid := by
    show decide (s.program.maxStatements ≤ 0) = false
    exact decide_eq_false (by omega)
  cursor := ⟨c, cursor, own⟩

theorem seeks_started {game : Game σ} {frames : List Frame} {c : Stmt} {s : Stage σ} {id : NodeId}
    (stopped : s.StoppedAt game frames c) (own : c.id? = some id) : s.started.Seeks id :=
  seeks_of_cursor stopped.cursor stopped.paid own

/-- A run that the walk to its cursor does not stop does what is left to do from the cursor on. -/
theorem StoppedAt.execute_root {game : Game σ} {frames : List Frame} {c : Stmt} {s : Stage σ}
    (stopped : s.StoppedAt game frames c) (unique : s.program.root.ids.Nodup) (solid : s.program.root.Solid) :
    (s.setting game).execute s.program.root s.started =
      (s.setting game).continuation (s.setting game).past frames c s.resumed := by
  obtain ⟨id, own⟩ := Option.isSome_iff_exists.mp stopped.conditional
  rw [← stopped.path] at unique solid ⊢
  exact (s.setting game).execute_plugAll own frames (Frame.apart_of_plugAll unique (Stmt.mem_ids_self own))
    (Frame.solid_of_plugAll solid) s.started (seeks_started stopped own) stopped.admits

/-- Resuming is going on from the cursor: for every program that comes out of its text, a run with a cursor that
the walk can reach ends in the same way, with the same host state, variables, budget and cursor, as a live run of
what is left to do from the cursor on. The walk counts for the variables only: loops that it passes before the
cursor bind theirs. -/
theorem observe_run_eq_continuation {source : String} {file : Option String} {handler? : Option HandlerId}
    {budget : Except Fault Int} {p : Program} (parsed : Program.parse source file handler? budget = .ok p)
    (game : Game σ) (s : Stage σ) (root : s.program.root = p.root) (frames : List Frame) (c : Stmt)
    (stopped : s.StoppedAt game frames c) :
    observe (s.run game) =
      ((s.setting game).continuation (s.setting game).past frames c s.resumed).observe := by
  have unique : s.program.root.ids.Nodup := root ▸ Program.ids_nodup_of_parse parsed
  have solid : s.program.root.Solid := root ▸ (Program.wellTyped_of_parse parsed).solid
  rw [observe_run game s stopped.ready, answer, stopped.execute_root unique solid]
  exact congrArg Answer.observe (((s.setting game).andThen_continuation frames c s.started _ _).trans (andThen_done _))

end Stage

namespace Sentry

theorem stage_stoppedAt : stage.StoppedAt soloGame path watch := by
  refine ⟨rfl, by decide, rfl, rfl, rfl, ?_⟩
  intro f member
  simp only [path, List.mem_cons, List.not_mem_nil, or_false] at member
  obtain rfl | rfl | rfl | rfl | rfl := member
  · exact ⟨⟨⟨[⟨0⟩], rfl, fun _ => trivial⟩, trivial, trivial⟩, trivial⟩
  · exact ⟨trivial, ⟨0⟩, [], rfl⟩
  · exact ⟨trivial, trivial⟩
  · exact ⟨⟨trivial, trivial⟩, trivial⟩
  · exact ⟨trivial, trivial⟩

def held (name : String) (o : Observation (List String)) : Option Handle :=
  (o.table.get? name).map (·.value.toHandle)

end Sentry

/-- The sentry goes on at its loop: the run prints four times, stops there again, and has bound the variable
of the loop that it passed. -/
theorem sentry_run_eq_continuation :
    Program.parse Sentry.source none none (.ok 9) = .ok Sentry.program ∧
      Sentry.stage.StoppedAt soloGame Sentry.path Sentry.watch ∧
      Stage.observe (Sentry.stage.run soloGame) =
        ((Sentry.stage.setting soloGame).continuation (Sentry.stage.setting soloGame).past Sentry.path Sentry.watch
          Sentry.stage.resumed).observe ∧
      (Stage.observe (Sentry.stage.run soloGame)).host = ["worm", "worm", "worm", "worm"] :=
  ⟨Sentry.parse_source, Sentry.stage_stoppedAt,
    Stage.observe_run_eq_continuation Sentry.parse_source soloGame Sentry.stage rfl Sentry.path Sentry.watch
      Sentry.stage_stoppedAt,
    by decide +kernel⟩

/-- What is left to do, taken on the variables as they were before the walk, is not always what the run does: the
walk has bound the variable of the loop that it passed. -/
theorem run_ne_continuation_without_walk :
    ¬ ∀ (source : String) (file : Option String) (handler? : Option HandlerId) (budget : Except Fault Int)
      (p : Program), Program.parse source file handler? budget = .ok p →
      ∀ (game : Game (List String)) (s : Stage (List String)), s.program.root = p.root →
      ∀ (frames : List Frame) (c : Stmt), s.StoppedAt game frames c →
        Stage.observe (s.run game) =
          ((s.setting game).continuation (fun _ m => m) frames c s.resumed).observe := by
  intro blind
  have same := blind _ _ _ _ _ Sentry.parse_source soloGame Sentry.stage rfl Sentry.path Sentry.watch
    Sentry.stage_stoppedAt
  have bound : Sentry.held "v" (Stage.observe (Sentry.stage.run soloGame)) = some (.being ⟨0⟩) := by
    decide +kernel
  have unbound : Sentry.held "v" ((Sentry.stage.setting soloGame).continuation (fun _ m => m) Sentry.path
      Sentry.watch Sentry.stage.resumed).observe = some .null := by
    decide +kernel
  rw [same, unbound] at bound
  cases bound

end WormLang
