import WormLang.Proofs.Execution.BigStep
import WormLang.Proofs.Execution.Payment
import WormLang.Proofs.Execution.Repetition

/-!
Trying again. A refused deed suspends a run at the innermost conditional statement around its action. The next run that
completes comes to that statement and begins it anew, so the first thing it does is to test the condition, on the
variables as they are by then. If the condition leads the same way as before, the run goes on to the action and asks
for the deed again. If what ran before the refusal has turned the condition over, the deed may never be asked for.
-/
namespace WormLang

open Answer

namespace Frame

/-- A path through conditional statements goes through an innermost one. -/
theorem exists_innermost {frames : List Frame} (inside : ∃ f ∈ frames, f.id? ≠ none) :
    ∃ outer f inner, frames = outer ++ f :: inner ∧ f.id? ≠ none ∧ ∀ g ∈ inner, g.id? = none := by
  induction frames with
  | nil => simp at inside
  | cons f frames ih =>
    by_cases deeper : ∃ g ∈ frames, g.id? ≠ none
    · obtain ⟨outer, g, inner, rfl, own, plain⟩ := ih deeper
      exact ⟨f :: outer, g, inner, rfl, own, plain⟩
    · simp only [not_exists, not_and, ne_eq, not_not] at deeper
      obtain ⟨g, member, own⟩ := inside
      obtain rfl | later := List.mem_cons.mp member
      · exact ⟨[], g, frames, rfl, own, deeper⟩
      · exact absurd (deeper g later) own

/-- What is innermost on a path is the first conditional statement on the way out of it. -/
theorem find?_enclosing {outer inner : List Frame} {f : Frame} {t : Stmt} (own : f.id? ≠ none)
    (plain : ∀ g ∈ inner, g.id? = none) (bare : t.isConditional = false) :
    (enclosing (outer ++ f :: inner) t).find? Stmt.isConditional = some (f.plug (plugAll inner t)) := by
  induction outer with
  | cons g outer ih => rw [List.cons_append, enclosing, List.find?_append, ih, Option.some_or]
  | nil =>
    have nothing : (enclosing inner t).find? Stmt.isConditional = none := by
      clear own
      induction inner with
      | nil => simp [enclosing, bare]
      | cons g inner ih =>
        rw [enclosing, List.find?_append, ih fun h member => plain h (List.mem_cons_of_mem _ member)]
        simp [Stmt.isConditional, id?_plug, plain g List.mem_cons_self]
    rw [List.nil_append, enclosing, List.find?_append, nothing, Option.none_or]
    simp [Stmt.isConditional, id?_plug, Option.isSome_iff_ne_none, own]

end Frame

namespace Setting

variable {σ : Type} {setting : Setting σ}

/-- Where the condition of a statement leads that a run begins live: towards the hole of its frame, or elsewhere. -/
inductive Chooses (setting : Setting σ) (m : Machine σ) : Frame → Bool → Machine σ → Prop
  | yes {id : NodeId} {at? : Option Position} {c : Expr} {no : Stmt} {towards : Bool} {m' : Machine σ}
    (tested : setting.test c (m.entered id) = .ok towards m') : Chooses setting m (.yes id at? c no) towards m'
  | no {id : NodeId} {at? : Option Position} {c : Expr} {yes : Stmt} {towards : Bool} {m' : Machine σ}
    (tested : setting.test c (m.entered id) = .ok (!towards) m') : Chooses setting m (.no id at? c yes) towards m'
  | loop {id : NodeId} {at? : Option Position} {c : Expr} {towards : Bool} {m' : Machine σ}
    (tested : setting.test c ((m.entered id).onRun RunState.charge) = .ok towards m') :
    Chooses setting m (.loop id at? c) towards m'

theorem Chooses.unique {f : Frame} {m m₁ m₂ : Machine σ} {towards₁ towards₂ : Bool}
    (chooses : setting.Chooses m f towards₁ m₁) (again : setting.Chooses m f towards₂ m₂) :
    towards₁ = towards₂ ∧ m₁ = m₂ := by
  cases chooses with
  | yes tested | no tested | loop tested =>
    cases again with
    | _ tested' =>
      rw [tested] at tested'
      simpa using tested'

/-- Where a condition leads, the run is as live as it was when it was tested. -/
theorem Chooses.live {f : Frame} {m m' : Machine σ} {towards : Bool} (chooses : setting.Chooses m f towards m')
    (live : ∀ id, f.id? = some id → (m.entered id).run.seeking = false) : m'.run.seeking = false := by
  cases chooses with
  | yes tested | no tested | loop tested =>
    rw [setting.run_of_test tested]
    exact live _ rfl

/-- What is paid for and comes to its end was begun with budget. -/
theorem paid_of_done {s : Stmt} (pays : s.isLeaf = true ∨ s.isConditional = true) {m m' : Machine σ}
    (done : setting.execute s m = .ok true m') : m.run.exhausted = false := by
  obtain isLeaf | conditional := pays
  · by_contra used
    rw [Bool.not_eq_false] at used
    rw [setting.execute_leaf isLeaf, if_pos used] at done
    cases done
  · obtain ⟨id, own⟩ := Option.isSome_iff_exists.mp conditional
    exact (setting.paid_and_done_inside done own).1

/-- A statement that is begun live and comes to its end has tested its condition, and executed the hole if the condition
leads there. -/
theorem exists_chooses {hole : Stmt} {f : Frame} (eachless : f.loopVariable? = none) (own : f.id? ≠ none)
    {m m' : Machine σ} (live : ∀ id, f.id? = some id → (m.entered id).run.seeking = false)
    (done : setting.execute (f.plug hole) m = .ok true m') :
    ∃ towards at', setting.Chooses m f towards at' ∧
      (towards = true → setting.Calls hole m f at' ∧ ∃ after, setting.execute hole at' = .ok true after) := by
  have conditional : (f.plug hole).isConditional = true := by
    rw [Stmt.isConditional, Frame.id?_plug, Option.isSome_iff_ne_none]
    exact own
  have paid := paid_of_done (.inr conditional) done
  cases f with
  | sequence => exact absurd rfl own
  | each => cases eachless
  | yes id at? c no =>
    rw [Frame.plug, setting.execute_branch_of_live paid (live id rfl), leaving_eq_true] at done
    obtain ⟨at', ⟨holds, inside⟩ | ⟨fails, -⟩⟩ := either_eq_ok.mp done
    · exact ⟨true, at', .yes holds, fun _ => ⟨.yesLive paid (live id rfl) holds, m', inside⟩⟩
    · exact ⟨false, at', .yes fails, Bool.noConfusion⟩
  | no id at? c yes =>
    rw [Frame.plug, setting.execute_branch_of_live paid (live id rfl), leaving_eq_true] at done
    obtain ⟨at', ⟨holds, -⟩ | ⟨fails, inside⟩⟩ := either_eq_ok.mp done
    · exact ⟨false, at', .no holds, Bool.noConfusion⟩
    · exact ⟨true, at', .no fails, fun _ => ⟨.noLive paid (live id rfl) fails, m', inside⟩⟩
  | loop id at? c =>
    rw [Frame.plug, setting.execute_loop_of_live paid (live id rfl), leaving_eq_true] at done
    cases fuel : (m.entered id).run.budget.toNat with
    | zero =>
      rw [fuel] at done
      cases done
    | succ fuel' =>
      rw [fuel, turns_succ] at done
      cases left : (m.entered id).run.exhausted with
      | true =>
        rw [left, if_pos rfl] at done
        cases done
      | false =>
        rw [left, if_neg (by simp)] at done
        obtain ⟨at', ⟨holds, inside⟩ | ⟨fails, -⟩⟩ := either_eq_ok.mp done
        · obtain ⟨after, body, -⟩ := andThen_eq_true.mp inside
          exact ⟨true, at', .loop holds, fun _ => ⟨.loopLive paid (live id rfl) (.here left holds), after, body⟩⟩
        · exact ⟨false, at', .loop fails, Bool.noConfusion⟩

/-- A statement that is no loop executes its hole only where its condition leads. -/
theorem Calls.chooses {hole : Stmt} {f : Frame} (straight : f.Straight) (own : f.id? ≠ none) {m at' : Machine σ}
    (live : ∀ id, f.id? = some id → (m.entered id).run.seeking = false) (calls : setting.Calls hole m f at') :
    setting.Chooses m f true at' := by
  cases calls with
  | sequence => exact absurd rfl own
  | yesSeeking paid seeking | noSeeking paid seeking => simp [live _ rfl] at seeking
  | yesLive paid entered holds => exact .yes holds
  | noLive paid entered fails => exact .no fails
  | loopSeeking | loopResumed | loopLive | each => cases straight

/-- A run that looks for a conditional statement in the hole of a frame comes there, if the frame comes to its end. -/
theorem exists_calls_of_looksFor {hole : Stmt} {f : Frame} {id : NodeId} (eachless : f.loopVariable? = none)
    (apart : f.Apart id) {m m' : Machine σ} (looks : m.LooksFor id)
    (done : setting.execute (f.plug hole) m = .ok true m') :
    ∃ at' after, setting.Calls hole m f at' ∧ at'.LooksFor id ∧ setting.execute hole at' = .ok true after := by
  obtain ⟨notHere, notBefore⟩ := apart
  have free : ∀ {other : NodeId}, f.id? = some other → m.entered other = m := fun own =>
    looks.entered_other fun same => notHere (own.trans (congrArg some same))
  have seeking : ∀ {other : NodeId}, f.id? = some other → (m.entered other).run.seeking = true := fun own => by
    rw [free own]
    exact looks.seeking
  have paid : f.id? ≠ none → m.run.exhausted = false := fun own =>
    paid_of_done (.inr (by rw [Stmt.isConditional, Frame.id?_plug, Option.isSome_iff_ne_none]; exact own)) done
  cases f with
  | each => cases eachless
  | sequence at? before after =>
    rw [Frame.plug, execute_sequence, executeAll_append] at done
    obtain ⟨at', walked, rest⟩ := andThen_eq_true.mp done
    rw [executeAll_cons] at rest
    obtain ⟨after, inside, -⟩ := andThen_eq_true.mp rest
    have kept : KeepsLooking id (setting.executeAll before m) := setting.keepsLooking_executeAll
      (fun s member => setting.keepsLooking_execute s (notBefore s member)) m looks
    rw [walked] at kept
    exact ⟨at', after, .sequence walked, kept, inside⟩
  | yes other at? c no =>
    have paid := paid (Option.some_ne_none other)
    rw [Frame.plug, setting.execute_branch_of_seeking paid (seeking rfl), free rfl, leaving_eq_true] at done
    obtain ⟨after, inside, -⟩ := andThen_eq_true.mp done
    have calls : setting.Calls hole m (.yes other at? c no) (m.entered other) := .yesSeeking paid (seeking rfl)
    rw [free rfl] at calls
    exact ⟨m, after, calls, looks, inside⟩
  | no other at? c yes =>
    have paid := paid (Option.some_ne_none other)
    rw [Frame.plug, setting.execute_branch_of_seeking paid (seeking rfl), free rfl, leaving_eq_true] at done
    obtain ⟨at', walked, inside⟩ := andThen_eq_true.mp done
    have kept := setting.keepsLooking_execute yes (notBefore yes (List.mem_singleton_self yes)) m looks
    rw [walked] at kept
    have still : at'.LooksFor id := kept
    rw [if_pos still.seeking] at inside
    exact ⟨at', m', .noSeeking paid (seeking rfl) (by rw [free rfl]; exact walked) still.seeking, still, inside⟩
  | loop other at? c =>
    have paid := paid (Option.some_ne_none other)
    rw [Frame.plug, setting.execute_loop_of_seeking paid (seeking rfl), free rfl, leaving_eq_true] at done
    obtain ⟨after, inside, -⟩ := andThen_eq_true.mp done
    have calls : setting.Calls hole m (.loop other at? c) (m.entered other) := .loopSeeking paid (seeking rfl)
    rw [free rfl] at calls
    exact ⟨m, after, calls, looks, inside⟩

/-- A pass that comes to its end comes to the conditional statement that it looks for. -/
theorem reaches_of_looksFor {c : Stmt} {id : NodeId} {frames : List Frame}
    (eachless : ∀ f ∈ frames, f.loopVariable? = none) (apart : ∀ f ∈ frames, f.Apart id) {m m' : Machine σ}
    (looks : m.LooksFor id) (done : setting.execute (Frame.plugAll frames c) m = .ok true m') :
    ∃ at' after, setting.Reaches c frames m at' ∧ at'.LooksFor id ∧ setting.execute c at' = .ok true after := by
  induction frames generalizing m m' with
  | nil => exact ⟨m, m', .here, looks, done⟩
  | cons f frames ih =>
    obtain ⟨next, between, calls, looks, inside⟩ :=
      exists_calls_of_looksFor (eachless f List.mem_cons_self) (apart f List.mem_cons_self) looks done
    obtain ⟨at', after, reaches, found⟩ := ih (fun g member => eachless g (List.mem_cons_of_mem _ member))
      (fun g member => apart g (List.mem_cons_of_mem _ member)) looks inside
    exact ⟨at', after, .inside calls reaches, found⟩

/-- Statements in order that come to their end come to each of them. -/
theorem reaches_of_plain {t : Stmt} {frames : List Frame} (plain : ∀ f ∈ frames, f.id? = none) {m m' : Machine σ}
    (done : setting.execute (Frame.plugAll frames t) m = .ok true m') :
    ∃ at' after, setting.Reaches t frames m at' ∧ setting.execute t at' = .ok true after := by
  induction frames generalizing m m' with
  | nil => exact ⟨m, m', .here, done⟩
  | cons f frames ih =>
    cases f with
    | sequence at? before rest =>
      rw [Frame.plugAll, Frame.plug, execute_sequence, executeAll_append] at done
      obtain ⟨next, walked, behind⟩ := andThen_eq_true.mp done
      rw [executeAll_cons] at behind
      obtain ⟨between, inside, -⟩ := andThen_eq_true.mp behind
      obtain ⟨at', after, reaches, found⟩ := ih (fun g member => plain g (List.mem_cons_of_mem _ member)) inside
      exact ⟨at', after, .inside (.sequence walked) reaches, found⟩
    | _ => cases plain _ List.mem_cons_self

theorem Reaches.seeking_eq_false {t : Stmt} {frames : List Frame} {m at' : Machine σ}
    (reaches : setting.Reaches t frames m at') (live : m.run.seeking = false) : at'.run.seeking = false := by
  have finished := reaches.guards setting.keeps_finished.guards (fun _ _ => trivial)
    (finished_of_not_seeking (by simp [live]))
  simp [RunState.seeking, finished]

/-- A path that is reached to its end is reached to each place on it. -/
theorem Reaches.split {t : Stmt} {outer inner : List Frame} {m at' : Machine σ}
    (reaches : setting.Reaches t (outer ++ inner) m at') :
    ∃ between, setting.Reaches (Frame.plugAll inner t) outer m between ∧ setting.Reaches t inner between at' := by
  induction outer generalizing m with
  | nil => exact ⟨m, .here, reaches⟩
  | cons f outer ih =>
    cases reaches with
    | inside calls rest =>
      obtain ⟨between, first, second⟩ := ih rest
      rw [List.append_eq, Frame.plugAll_append] at calls
      exact ⟨between, .inside calls first, second⟩

/-- Where a leaf stops, it is the first statement to do so. -/
theorem Reaches.stopsFirst {t : Stmt} (isLeaf : t.isLeaf = true) {frames : List Frame} {m at' : Machine σ}
    (reaches : setting.Reaches t frames m at') (falls : setting.Falls t at') : setting.StopsFirst t frames m := by
  induction reaches with
  | here =>
    refine .self falls fun f u _ inside _ => ?_
    have child := f.mem_children_plug u
    rw [inside, Stmt.children_of_isLeaf isLeaf] at child
    cases child
  | inside calls rest ih => exact .inside calls (ih falls)

/-- What can be refused is a call. -/
theorem isCall_of_refused {at? : Option Position} {a : Action} {m m' : Machine σ}
    (stops : EStateM.run (setting.effect (.action at? a)) m = .ok false m') : (Stmt.action at? a).isCall = true := by
  cases a with
  | skip =>
    rw [effect, Exec.act] at stops
    cases bound : setting.context.actor with
    | ok me => rw [bound] at stops; cases stops
    | error f => rw [bound] at stops; cases stops
  | _ => rfl

end Setting

namespace Stage

variable {σ : Type}

/-- A run asks for the deed of the statement at the end of a path on a machine, and is refused: it comes to it live and
with budget, and stops there. -/
structure Refuses (game : Game σ) (s : Stage σ) (frames : List Frame) (t : Stmt) (m : Machine σ) : Prop where
  path : Frame.plugAll frames t = s.program.root
  comes : ∃ start, s.Walks game start ∧ (s.setting game).Reaches t frames start m
  paid : m.run.exhausted = false
  live : m.run.seeking = false
  refused : ∃ after, (s.setting game).execute t m = .ok false after

/-- A run performs the action at the end of a path and has the deed accepted that the bound entity asks for. -/
def Accepted (game : Game σ) (s : Stage σ) (frames : List Frame) (at? : Option Position) (a : Action) : Prop :=
  ∃ m me deed, s.recorded.Performs game.recording frames (.action at? a) m ∧ s.program.context.entity? = some me ∧
    deed.word = a.word ∧ m.host.2 ++ [.deed me deed (.ok true)] <+: s.calls game

variable {game : Game σ} {s : Stage σ} {frames outer inner : List Frame} {f : Frame} {at? : Option Position}
  {a : Action} {m : Machine σ}

theorem Refuses.isCall (refuses : s.Refuses game frames (.action at? a) m) : (Stmt.action at? a).isCall = true := by
  obtain ⟨-, -, paid, live, after, stops⟩ := refuses
  rw [(s.setting game).execute_leaf rfl, paid, live, if_neg (by simp), if_neg (by simp)] at stops
  exact Setting.isCall_of_refused stops

/-- After a refusal the next run starts at the innermost conditional statement around the action. -/
theorem Refuses.cursor_eq {s' : Stage σ} (refuses : s.Refuses game (outer ++ f :: inner) (.action at? a) m)
    (own : f.id? ≠ none) (plain : ∀ g ∈ inner, g.id? = none) (follows : s.Follows game s') :
    s'.program.state.cursor = some (f.plug (Frame.plugAll inner (.action at? a))) := by
  obtain ⟨path, ⟨start, walks, reaches⟩, paid, live, refused⟩ := refuses
  obtain ⟨m', stopped, left⟩ := follows.answer
  obtain ⟨cursor, mode, stops, ended⟩ := walks.stops path reaches live stopped
  rw [left, (reaches.stopsFirst rfl refused).cursor_eq mode (path ▸ stops) ended]
  exact Frame.find?_enclosing own plain rfl

/-- What a performed leaf asks the handler for is in the record of the run. -/
theorem Performs.called {t : Stmt} (isLeaf : t.isLeaf = true) {m : Machine (σ × List HandlerCall)}
    (performs : s.recorded.Performs game.recording frames t m) :
    ∃ calls, (s.setting game).Heeds t (some true) calls ∧ m.host.2 ++ calls <+: s.calls game := by
  obtain ⟨path, ⟨start, walks, reaches⟩, paid, live, after, done⟩ := performs
  have effect := done
  rw [Setting.execute_leaf _ isLeaf, paid, live, if_neg (by simp), if_neg (by simp)] at effect
  have heeded := @Setting.meets_heeded _ (s.setting game) (m.onRun RunState.charge) _ rfl t
  unfold Exec.Meets at heeded
  rw [show EStateM.run ((s.setting game).recording.effect t) _ = _ from effect] at heeded
  obtain ⟨calls, heeds, grown⟩ := heeded
  refine ⟨calls, heeds, ?_⟩
  have keeps := @Handler.Ledger.keeps _ (s.recorded.setting game.recording) _ _ game.ledger_recording after.host
  have ends := reaches.ends keeps (by rw [done]; exact List.prefix_refl after.host.2)
  rw [path] at ends
  have ready : s.program.refusal? game.world s.host = none := by cases walks <;> assumption
  rw [calls_eq ready, show m.host.2 ++ calls = after.host.2 from grown.symm]
  refine @Exec.of_within _ (fun m' : Machine (σ × List HandlerCall) => after.host.2 <+: m'.host.2) _ ?_
  unfold answer
  cases walks with
  | first ready =>
    refine Answer.Meets.andThen ends fun m' grown => ?_
    split
    · exact keeps.execute _ m'.restarted grown
    · exact grown
  | again ready missed still =>
    rw [missed, andThen_true, if_pos still]
    exact ends

/-- An action that calls the handler and is performed has its deed accepted. -/
theorem Performs.accepted (call : (Stmt.action at? a).isCall = true) {m : Machine (σ × List HandlerCall)}
    (performs : s.recorded.Performs game.recording frames (.action at? a) m) : s.Accepted game frames at? a := by
  obtain ⟨calls, heeds, called⟩ := performs.called rfl
  generalize accepted : some true = done? at heeds
  cases heeds with
  | failed => cases accepted
  | silent quiet => exact absurd call (by simp [quiet])
  | @deed _ _ me deed answer acts means =>
    obtain rfl := ok_of_toOption accepted.symm
    exact ⟨m, me, deed, performs, acts, means, called⟩

theorem Completes.ready (completes : s.Completes game) : s.program.refusal? game.world s.host = none := by
  cases ready : s.program.refusal? game.world s.host with
  | none => rfl
  | some cause =>
    have returned := completes.1
    rw [run_of_refusal ready] at returned
    cases returned

/-- A run that completes comes to its cursor, if no foreach loop is around it. -/
theorem Completes.arrives {c : Stmt} (completes : s.Completes game)
    (path : Frame.plugAll frames c = s.program.root) (unique : s.program.root.ids.Nodup)
    (eachless : ∀ f ∈ frames, f.loopVariable? = none) (conditional : c.isConditional = true)
    (cursor : s.program.state.cursor = some c) :
    ∃ m after, s.Arrives game frames c m ∧ (s.setting game).execute c m = .ok true after := by
  obtain ⟨id, own⟩ := Option.isSome_iff_exists.mp conditional
  obtain ⟨m', ended⟩ := (completes_iff completes.ready).mp completes
  obtain ⟨walked, done, -⟩ := andThen_eq_true.mp ended
  have looks : s.started.LooksFor id := ⟨by simp [started, RunState.start, RunState.seeking, cursor], c, cursor, own⟩
  rw [← path] at unique done
  obtain ⟨m, after, reaches, looks, inside⟩ := Setting.reaches_of_looksFor eachless
    (Frame.apart_of_plugAll unique (Stmt.mem_ids_self own)) looks done
  exact ⟨m, after, ⟨path, conditional, cursor, reaches, looks.seeking, Setting.paid_of_done (.inr conditional) inside⟩,
    inside⟩

theorem Completes.recorded (completes : s.Completes game) : s.recorded.Completes game.recording := by
  unfold Completes at completes
  rw [run_recorded] at completes
  exact completes

/-- A run that arrives at its cursor is live in it. -/
theorem Arrives.live {c : Stmt} (arrives : s.Arrives game frames c m) {id : NodeId} (own : c.id? = some id) :
    (m.entered id).run.seeking = false := by
  have seeks := arrives.seeks own
  unfold Machine.entered
  rw [seeks.seeking, seeks.isAt_self]
  rfl

/-- A run that arrives at its cursor does not start over. -/
theorem Arrives.found {c : Stmt} (arrives : s.Arrives game frames c m) : ¬ s.StartsOver game := by
  rintro ⟨lost, missed, still⟩
  obtain ⟨id, own⟩ := Option.isSome_iff_exists.mp arrives.conditional
  have keeps := (s.setting game).keeps_finished
  have inside := keeps.execute c (m.onRun RunState.resume) rfl
  rw [← Setting.execute_at_cursor _ own (arrives.seeks own)] at inside
  have ends := arrives.reaches.ends keeps inside
  rw [arrives.path] at ends
  exact Setting.not_seeking_of_within missed still ends

/-- Trying again. Take a program that comes out of its text and a run that is refused the deed of an action inside some
conditional statement, and let the next run, with whatever handler, world and variables, complete. That run comes to the
innermost conditional statement around the action and tests its condition there first, on the variables as they are by
then. If the condition leads towards the action, the run performs the action: the bound entity asks for its deed again
and has it accepted. If it leads elsewhere, and no loop is around the action, the run does not perform it. -/
theorem retried_where_chosen_again {source : String} {file : Option String} {handler? : Option HandlerId}
    {budget : Except Fault Int} {p : Program} (parsed : Program.parse source file handler? budget = .ok p)
    (game game' : Game σ) (s s' : Stage σ) (root : s.program.root = p.root) (frames : List Frame)
    (at? : Option Position) (a : Action) (m : Machine σ) (inside : ∃ f ∈ frames, f.id? ≠ none)
    (refuses : s.Refuses game frames (.action at? a) m) (follows : s.Follows game s')
    (completes : s'.Completes game') :
    ∃ outer f inner, frames = outer ++ f :: inner ∧ f.id? ≠ none ∧ (∀ g ∈ inner, g.id? = none) ∧
      ∃ m' towards chosen,
        s'.recorded.Arrives game'.recording outer (f.plug (Frame.plugAll inner (.action at? a))) m' ∧
        (s'.recorded.setting game'.recording).Chooses m' f towards chosen ∧
        (towards = true → s'.Accepted game' frames at? a) ∧
        (towards = false → (∀ g ∈ frames, g.Straight) →
          ∀ m'', ¬ s'.recorded.Performs game'.recording frames (.action at? a) m'') := by
  obtain ⟨outer, f, inner, rfl, own, plain⟩ := Frame.exists_innermost inside
  have cursor := refuses.cursor_eq own plain follows
  have path : Frame.plugAll (outer ++ f :: inner) (.action at? a) = s'.program.root :=
    refuses.path.trans follows.root.symm
  have rooted : s'.program.root = p.root := follows.root.trans root
  have eachless := Frame.eachless_of_action (path.trans rooted ▸ Program.wellTyped_of_parse parsed)
  have unique : s'.program.root.ids.Nodup := rooted ▸ Program.ids_nodup_of_parse parsed
  have conditional : (f.plug (Frame.plugAll inner (.action at? a))).isConditional = true := by
    rw [Stmt.isConditional, Frame.id?_plug, Option.isSome_iff_ne_none]
    exact own
  obtain ⟨m', after, arrives, done⟩ := completes.recorded.arrives ((Frame.plugAll_append ..).symm.trans path) unique
    (fun g member => eachless g (List.mem_append_left _ member)) conditional cursor
  have live : ∀ id, f.id? = some id → (m'.entered id).run.seeking = false := fun id own =>
    arrives.live ((Frame.id?_plug f _).trans own)
  obtain ⟨towards, chosen, chooses, hole⟩ := Setting.exists_chooses (eachless f (by simp)) own live done
  refine ⟨outer, f, inner, rfl, own, plain, m', towards, chosen, arrives, chooses, fun again => ?_,
    fun elsewhere straight m'' performs => ?_⟩
  · obtain ⟨calls, between, inside⟩ := hole again
    obtain ⟨at', last, reaches, acted⟩ := Setting.reaches_of_plain plain inside
    have performs : s'.recorded.Performs game'.recording (outer ++ f :: inner) (.action at? a) at' :=
      { path, comes := ⟨_, .first completes.ready, arrives.reaches.trans (.inside calls reaches)⟩
        paid := Setting.paid_of_done (.inl rfl) acted
        live := reaches.seeking_eq_false (chooses.live live)
        done := ⟨last, acted⟩ }
    exact performs.accepted refuses.isCall
  · obtain ⟨start, walks, reaches⟩ := performs.comes
    cases walks with
    | again ready missed still => exact arrives.found ⟨_, missed, still⟩
    | first ready =>
      obtain ⟨between, first, second⟩ := reaches.split
      obtain rfl := first.unique (fun g member => straight g (List.mem_append_left _ member)) arrives.reaches
      cases second with
      | inside calls rest =>
        obtain ⟨contrary, -⟩ := (calls.chooses (straight f (by simp)) own live).unique chooses
        rw [elsewhere] at contrary
        cases contrary

end Stage

namespace Leap

def jump : Stmt := .action (onFirstLine 22 27) .jump

def jumpPath : List Frame :=
  [.sequence (onFirstLine 1 29) [] [],
    .yes ⟨0⟩ (onFirstLine 1 29) (.boolean (onFirstLine 4 8) true) (.sequence (onFirstLine 1 29) []),
    .sequence (onFirstLine 14 29) [move] []]

/-- The first run is refused the jump. -/
theorem bound_refuses : ∃ m, bound.Refuses moodyGame jumpPath jump m :=
  ⟨_, rfl, ⟨_, .first rfl, .inside (.sequence rfl) (.inside (.yesLive rfl rfl rfl) (.inside (.sequence rfl) .here))⟩,
    rfl, rfl, _, rfl⟩

theorem refused_completes : refused.Completes moodyGame :=
  ⟨ok_of_toOption (by decide +kernel), by decide +kernel, rfl⟩

end Leap

/-- The next run of the leap tests the condition of the if again, which still holds, and has the jump accepted. -/
theorem leap_retried :
    Program.parse Leap.source none none (.ok 9) = .ok Leap.program ∧
      (∃ m, Leap.bound.Refuses moodyGame Leap.jumpPath Leap.jump m) ∧ Leap.bound.Follows moodyGame Leap.refused ∧
      Leap.refused.Completes moodyGame ∧ Leap.refused.Accepted moodyGame Leap.jumpPath (onFirstLine 22 27) .jump := by
  obtain ⟨m, refuses⟩ := Leap.bound_refuses
  have inside : ∃ f ∈ Leap.jumpPath, f.id? ≠ none := ⟨_, List.mem_cons_of_mem _ List.mem_cons_self, by simp [Frame.id?]⟩
  refine ⟨Leap.parse_source, ⟨m, refuses⟩, Leap.follows, Leap.refused_completes, ?_⟩
  obtain ⟨outer, f, inner, split, own, plain, m', towards, chosen, -, chooses, again, -⟩ :=
    Stage.retried_where_chosen_again Leap.parse_source moodyGame moodyGame Leap.bound Leap.refused rfl Leap.jumpPath _ _
      m inside refuses Leap.follows Leap.refused_completes
  refine again ?_
  have member : f ∈ Leap.jumpPath := split ▸ List.mem_append_right _ List.mem_cons_self
  simp only [Leap.jumpPath, List.mem_cons, List.not_mem_nil, or_false] at member
  obtain rfl | rfl | rfl := member
  · exact absurd rfl own
  · cases chooses with
    | yes tested =>
      cases tested
      rfl
  · exact absurd rfl own

/-- A game whose handler refuses everything. -/
def idleGame : Game (List String) :=
  { soloGame with
    handler :=
      { soloGame.handler with perform := fun _ deed record => (.ok false, record ++ [deed.word]) } }

namespace Once

/-- A program that notes that it moves before it does. -/
def source : String := "bool done := false; if !done then \x7b done := true; move; \x7d"

def program : Program where
  root := .sequence (onFirstLine 1 58)
    [.assignment (onFirstLine 1 20) "done" (.boolean (onFirstLine 14 19) false),
      .branch ⟨0⟩ (onFirstLine 21 58) (.negation (onFirstLine 24 29) (.access (onFirstLine 25 29) "done" .boolean))
        (.sequence (onFirstLine 35 58)
          [.assignment (onFirstLine 37 50) "done" (.boolean (onFirstLine 45 49) true),
            .action (onFirstLine 51 56) .move])
        (.sequence (onFirstLine 21 58) [])]
  globals := { entries := [("done", .ofTy .boolean)] }
  maxStatements := 9

set_option maxRecDepth 20000 in
theorem parse_source : Program.parse source none none (.ok 9) = .ok program := by
  cbv

def move : Stmt := .action (onFirstLine 51 56) .move

def path : List Frame :=
  [.sequence (onFirstLine 1 58) [.assignment (onFirstLine 1 20) "done" (.boolean (onFirstLine 14 19) false)] [],
    .yes ⟨0⟩ (onFirstLine 21 58) (.negation (onFirstLine 24 29) (.access (onFirstLine 25 29) "done" .boolean))
      (.sequence (onFirstLine 21 58) []),
    .sequence (onFirstLine 35 58) [.assignment (onFirstLine 37 50) "done" (.boolean (onFirstLine 45 49) true)] []]

def bound : Stage (List String) where
  program := { program with handler? := some ⟨0⟩, context := { entity? := some ⟨0⟩ } }
  host := []

/-- The program after its first run, which was refused the move. -/
def refused : Stage (List String) := (bound.run idleGame).2

theorem bound_refuses : ∃ m, bound.Refuses idleGame path move m :=
  ⟨_, rfl, ⟨_, .first rfl, .inside (.sequence rfl) (.inside (.yesLive rfl rfl rfl) (.inside (.sequence rfl) .here))⟩,
    rfl, rfl, _, rfl⟩

theorem run_bound : bound.run idleGame = (.ok (), refused) :=
  Prod.ext (ok_of_toOption (by decide +kernel)) rfl

theorem refused_completes : refused.Completes soloGame :=
  ⟨ok_of_toOption (by decide +kernel), by decide +kernel, rfl⟩

end Once

/-- A refused deed may never be asked for again: the condition of the if around it was turned over before the refusal,
and the next run, whose handler accepts everything, completes without a call. -/
theorem refusal_drops_action :
    ¬ ∀ (source : String) (file : Option String) (handler? : Option HandlerId) (budget : Except Fault Int)
      (p : Program), Program.parse source file handler? budget = .ok p →
      ∀ (game : Game (List String)) (s after : Stage (List String)) (entity : Option EntityId)
      (given? : Option HandlerId), p.bind entity given? = .ok s.program →
      ∀ (frames : List Frame) (at? : Option Position) (a : Action) (m : Machine (List String)),
      (∃ f ∈ frames, f.id? ≠ none) → s.Refuses game frames (.action at? a) m → s.run game = (.ok (), after) →
      after.program.isFinished = false →
      ∀ game' : Game (List String), game'.world = game.world →
      (∀ me deed host, (game'.handler.perform me deed host).1 = .ok true) → after.Completes game' →
      0 < (after.run game').2.program.state.budget →
      ∃ me deed answer, HandlerCall.deed me deed answer ∈ after.calls game' ∧ deed.word = a.word := by
  intro retried
  obtain ⟨m, refuses⟩ := Once.bound_refuses
  have inside : ∃ f ∈ Once.path, f.id? ≠ none := ⟨_, List.mem_cons_of_mem _ List.mem_cons_self, by simp [Frame.id?]⟩
  obtain ⟨me, deed, answer, among, -⟩ := retried _ _ _ _ _ Once.parse_source idleGame Once.bound Once.refused (some ⟨0⟩)
    (some ⟨0⟩) rfl Once.path _ _ m inside refuses Once.run_bound (by decide +kernel) soloGame rfl (fun _ _ _ => rfl)
    Once.refused_completes (by decide +kernel)
  have silent : (Once.refused.calls soloGame).length = 0 := by decide +kernel
  rw [List.eq_nil_of_length_eq_zero silent] at among
  cases among

end WormLang
