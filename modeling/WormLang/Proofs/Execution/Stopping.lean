import WormLang.Proofs.Execution.Payment
import WormLang.Proofs.Execution.Repetition

/-!
A stop ends a run. A statement that answers that the run must stop, because a deed was refused or the budget was found
used up, has nothing done after it: what is left to do is only passed, from the inside out, and the innermost
conditional statement that is left becomes the cursor if there is none. This holds in both modes, at every depth and in
both passes over the root, so no deed is asked for behind one that was refused.
-/
namespace WormLang

open Answer

def Duty.left? : Duty → Option Stmt
  | leave node => some node
  | _ => none

/-- No call was refused, or only the last one. -/
def HandlerCall.RefusedLast (calls : List HandlerCall) : Prop := ∀ call ∈ calls.dropLast, call.isRefusal = false

namespace HandlerCall

theorem refusedLast_of_none {calls : List HandlerCall} (calm : ∀ call ∈ calls, call.isRefusal = false) :
    RefusedLast calls := fun call among => calm call (List.mem_of_mem_dropLast among)

theorem refusedLast_concat {calls : List HandlerCall} (calm : ∀ call ∈ calls, call.isRefusal = false)
    (last : HandlerCall) : RefusedLast (calls ++ [last]) := by
  unfold RefusedLast
  rw [List.dropLast_concat]
  exact calm

/-- At most one call was refused. -/
theorem RefusedLast.count_le {calls : List HandlerCall} (refusedLast : RefusedLast calls) :
    calls.countP isRefusal ≤ 1 := by
  obtain rfl | ⟨before, last, rfl⟩ := List.eq_nil_or_concat' calls
  · simp
  · unfold RefusedLast at refusedLast
    rw [List.dropLast_concat] at refusedLast
    rw [List.countP_append, List.countP_eq_zero.mpr (fun call among => by simp [refusedLast call among]), Nat.zero_add]
    exact List.countP_le_length

end HandlerCall

namespace Moment

variable {σ : Type}

/-- The expressions that a step evaluates. -/
def evaluated (now : Moment σ) : List Expr :=
  match now.control with
  | .effect s => s.expressions
  | .choose c _ _ | .turn c _ => [c]
  | _ => []

/-- A moment later in a run that stops: so many duties were passed, and the innermost conditional statement that was
left is the cursor, unless there was one. -/
def unwound (now : Moment σ) (n : Nat) : Moment σ where
  control := .answer false
  pending := now.pending.drop n
  machine := now.machine.onRun fun run =>
    { run with cursor := run.cursor.or ((now.pending.take n).findSome? Duty.left?) }

/-- The machine that a run leaves behind which stops from now on. -/
def atEnd (now : Moment σ) : Machine σ := (now.unwound now.pending.length).machine

end Moment

theorem RunState.suspendAt_eq (s : RunState Stmt) (node : Stmt) :
    s.suspendAt node = { s with cursor := s.cursor.or (some node) } := by
  obtain ⟨budget, finished, cursor⟩ := s
  cases cursor <;> rfl

namespace Setting

variable {σ : Type} {setting : Setting σ}

/-- In a run that stops, every step passes one duty. -/
theorem next_stop (duty : Duty) (pending : List Duty) (m : Machine σ) :
    setting.next ⟨.answer false, duty :: pending, m⟩ =
      ⟨.answer false, pending, m.onRun fun run => { run with cursor := run.cursor.or duty.left? }⟩ := by
  cases duty with
  | leave node => exact congrArg (Moment.mk _ _) (congrArg (Machine.mk _ · _ _) (m.run.suspendAt_eq node))
  | _ =>
    show _ = Moment.mk _ _ (m.onRun fun run => { run with cursor := run.cursor.or none })
    simp only [Option.or_none]
    rfl

/-- Once a statement has answered that the run must stop, the steps only pass what was left to do. -/
theorem iterate_stop (n : Nat) (now : Moment σ) (stopped : now.control = .answer false) :
    setting.next^[n] now = now.unwound n := by
  obtain ⟨control, pending, m⟩ := now
  obtain rfl : control = .answer false := stopped
  induction n generalizing pending m with
  | zero =>
    simp only [Function.iterate_zero, id, Moment.unwound, List.drop_zero, List.take_zero, List.findSome?_nil,
      Option.or_none]
    rfl
  | succ n ih =>
    rw [Function.iterate_succ_apply]
    cases pending with
    | nil =>
      rw [show setting.next ⟨.answer false, [], m⟩ = ⟨.answer false, [], m⟩ from rfl, ih]
      simp only [Moment.unwound, List.drop_nil, List.take_nil]
    | cons duty pending =>
      rw [next_stop, ih]
      simp only [Moment.unwound, Machine.onRun, List.drop_succ_cons, List.take_succ_cons, Option.or_assoc]
      cases duty <;> rfl

/-- Only a refused deed stops a leaf that is paid for. -/
theorem Heeds.refused {s : Stmt} {calls : List HandlerCall} (heeds : setting.Heeds s (some false) calls) :
    ∃ at? a me deed, s = .action at? a ∧ setting.context.entity? = some me ∧ deed.word = a.word ∧
      calls = [.deed me deed (.ok false)] := by
  generalize stopped : some false = done? at heeds
  cases heeds with
  | failed | silent => cases stopped
  | @text at? e text answer => cases answer <;> cases stopped
  | @deed at? a me deed answer acts means =>
    obtain rfl := ok_of_toOption stopped.symm
    exact ⟨at?, a, me, deed, rfl, acts, means, rfl⟩

/-- A leaf that did not stop had nothing refused. -/
theorem Heeds.calm {s : Stmt} {done? : Option Bool} {calls : List HandlerCall} (heeds : setting.Heeds s done? calls)
    (going : done? ≠ some false) : ∀ call ∈ calls, call.isRefusal = false := by
  cases heeds with
  | failed | silent => simp
  | text => simp [HandlerCall.isRefusal]
  | @deed at? a me deed answer =>
    obtain f | done := answer
    · simp [HandlerCall.isRefusal]
    · cases done with
      | true => simp [HandlerCall.isRefusal]
      | false => exact absurd rfl going

/-- A run begins to stop where a statement finds the budget used up or a deed is refused. -/
theorem Goes.stops {now later : Moment (σ × List HandlerCall)} (goes : setting.recording.Goes now later)
    (going : now.control ≠ .answer false) (stopped : later.control = .answer false) :
    now.machine.run.exhausted = true ∨
      ∃ at? a me deed, now.control = .effect (.action at? a) ∧ setting.context.entity? = some me ∧ deed.word = a.word ∧
        later.machine.host.2 = now.machine.host.2 ++ [.deed me deed (.ok false)] := by
  cases goes with
  | halted own used | unpaid isLeaf used => exact .inl used
  | spent used => exact .inl used
  | @effect s pending m =>
    obtain ⟨done?, ⟨calls, heeds, grown⟩, stops⟩ := @answered_heeded σ setting s m pending
    obtain rfl := stops.mp stopped
    obtain ⟨at?, a, me, deed, rfl, acts, means, rfl⟩ := heeds.refused
    exact .inr ⟨at?, a, me, deed, rfl, acts, means, grown⟩
  | @chosen c yes no pending m =>
    obtain ⟨m', ran⟩ | ⟨m', ran⟩ | ⟨f, m', ran⟩ := (setting.recording.test c m).cases_on
    all_goals
      rw [ran] at stopped
      cases stopped
  | @turned c body pending m =>
    obtain ⟨m', ran⟩ | ⟨m', ran⟩ | ⟨f, m', ran⟩ := (setting.recording.test c m).cases_on
    all_goals
      rw [ran] at stopped
      cases stopped
  | last => exact absurd stopped going
  | left | dropped => exact absurd rfl going
  | _ => cases stopped

end Setting

/-- No call in the record was refused, or only the last one in a run that stops. -/
def Moment.Calm {σ : Type} (now : Moment (σ × List HandlerCall)) : Prop :=
  (∀ call ∈ now.machine.host.2, call.isRefusal = false) ∨
    now.control = .answer false ∧ HandlerCall.RefusedLast now.machine.host.2

namespace Setting

variable {σ : Type} {setting : Setting σ}

/-- A step that follows a stop is a stop and calls nobody. -/
theorem Goes.after_stop {now later : Moment σ} (goes : setting.Goes now later) (stopped : now.control = .answer false) :
    later.control = .answer false ∧ later.machine.host = now.machine.host := by
  cases goes with
  | last | left | dropped => exact ⟨stopped, rfl⟩
  | _ => cases stopped

/-- Whatever a run does, only its last call can be a refusal. -/
theorem Goes.calm {now later : Moment (σ × List HandlerCall)} (goes : setting.recording.Goes now later)
    (calm : now.Calm) : later.Calm := by
  obtain calm | ⟨stopped, refusedLast⟩ := calm
  · obtain same | ⟨s, done?, -, ⟨calls, heeds, grown⟩, stops⟩ := goes.heeded
    · exact .inl (same ▸ calm)
    · by_cases refused : done? = some false
      · subst refused
        obtain ⟨at?, a, me, deed, -, -, -, rfl⟩ := heeds.refused
        refine .inr ⟨stops.mpr rfl, ?_⟩
        rw [grown]
        exact HandlerCall.refusedLast_concat calm _
      · refine .inl ?_
        rw [grown]
        intro call among
        obtain before | behind := List.mem_append.mp among
        · exact calm call before
        · exact heeds.calm refused call behind
  · obtain ⟨still, same⟩ := goes.after_stop stopped
    exact .inr ⟨still, same ▸ refusedLast⟩

end Setting

namespace Stage

variable {σ : Type} (game : Game σ) (s : Stage σ)

/-- The expressions that were evaluated up to a moment. -/
def evaluated (k : Nat) : List Expr := (List.range k).flatMap fun i => (s.moment game i).evaluated

def called (k : Nat) : List HandlerCall := (s.recorded.moment game.recording k).machine.host.2

theorem moment_add (k n : Nat) : s.moment game (k + n) = (s.setting game).next^[n] (s.moment game k) := by
  unfold moment
  rw [Nat.add_comm, Function.iterate_add_apply]

/-- Nothing follows the end of a run. -/
theorem moment_of_ended {k : Nat} {a : Answer σ} (ended : s.moment game k = .answered [] a) (n : Nat) :
    s.moment game (k + n) = .answered [] a := by
  rw [moment_add, ended]
  refine Function.iterate_fixed ?_ n
  obtain ⟨m, rfl⟩ | ⟨m, rfl⟩ | ⟨f, m, rfl⟩ := a.cases_on <;> rfl

theorem calm (k : Nat) : (s.recorded.moment game.recording k).Calm :=
  s.recorded.moment_induction game.recording (motive := Moment.Calm) (.inl fun _ among => by cases among)
    (fun now calm => @Setting.Goes.calm _ (s.setting game) _ _
      ((s.recorded.setting game.recording).goes_next now) calm) k

theorem refusedLast_called (k : Nat) : HandlerCall.RefusedLast (s.called game k) := by
  obtain calm | ⟨-, refusedLast⟩ := s.calm game k
  · exact HandlerCall.refusedLast_of_none calm
  · exact refusedLast

variable {game s}

theorem calls_eq_called {last : Nat} (ready : s.program.refusal? game.world s.host = none)
    (reached : s.recorded.moment game.recording last = .answered [] (s.recorded.answer game.recording)) :
    s.calls game = s.called game last := by
  rw [calls_eq ready, called, reached, Moment.machine_answered]

theorem refusedLast_calls : HandlerCall.RefusedLast (s.calls game) := by
  cases ready : s.program.refusal? game.world s.host with
  | some cause =>
    rw [calls_of_refusal ready]
    exact fun call among => by cases among
  | none =>
    obtain ⟨last, -, reached⟩ := s.exists_end game
    rw [calls_eq_called ready reached]
    exact s.refusedLast_called game last

section

variable {k : Nat} (stopped : (s.moment game k).control = .answer false)

include stopped

/-- Later in a run that stops, duties were passed and nothing else was done. -/
theorem moment_of_stopped (n : Nat) : s.moment game (k + n) = (s.moment game k).unwound n := by
  rw [moment_add]
  exact (s.setting game).iterate_stop n _ stopped

theorem begun_of_stopped (n : Nat) : s.begun game (k + n) = s.begun game k := by
  induction n with
  | zero => rfl
  | succ n ih =>
    rw [← Nat.add_assoc, begun_succ, ih, Nat.add_assoc, moment_of_stopped stopped]
    exact List.append_nil _

theorem evaluated_of_stopped (n : Nat) : s.evaluated game (k + n) = s.evaluated game k := by
  induction n with
  | zero => rfl
  | succ n ih =>
    rw [← Nat.add_assoc, evaluated, List.range_succ, List.flatMap_append, ← evaluated, ih, List.flatMap_singleton,
      moment_of_stopped stopped]
    exact List.append_nil _

theorem called_of_stopped (n : Nat) : s.called game (k + n) = s.called game k := by
  have recorded : (s.recorded.moment game.recording k).control = .answer false := by
    rw [moment_recorded] at stopped
    exact stopped
  unfold called
  rw [moment_of_stopped recorded]
  rfl

/-- A run that stops is suspended, and leaves what it had when it stopped, with a cursor. -/
theorem run_of_stopped (ready : s.program.refusal? game.world s.host = none) :
    s.run game = (.ok (), s.absorb (suspended (s.moment game k).atEnd)) ∧ s.calls game = s.called game k := by
  obtain ⟨last, here, reached⟩ := s.exists_end game
  have unwound : s.moment game (k + (s.moment game k).pending.length) =
      .answered [] (.ok false (s.moment game k).atEnd) := by
    rw [moment_of_stopped stopped]
    simp [Moment.unwound, Moment.atEnd, Moment.answered]
  -- Both moments are the end of the run, so they are the same.
  have same : s.answer game = .ok false (s.moment game k).atEnd := by
    have early := moment_of_ended game s here (k + (s.moment game k).pending.length)
    have late := moment_of_ended game s unwound last
    rw [Nat.add_comm, late] at early
    have outcomes := congrArg Moment.outcome? early
    simpa using outcomes.symm
  refine ⟨by rw [run_eq_concluded ready, same]; rfl, ?_⟩
  have later := moment_of_ended game.recording s.recorded reached k
  rw [calls_eq ready, ← called_of_stopped stopped last, called, Nat.add_comm, later, Moment.machine_answered]

end

/-- Where the run comes to a statement that answers that it must stop, there is a moment with that answer. -/
theorem moment_of_execute {k : Nat} {t : Stmt} {pending : List Duty} {m m' : Machine σ}
    (comes : s.moment game k = ⟨.come t, pending, m⟩) (stops : (s.setting game).execute t m = .ok false m') :
    ∃ n, s.moment game (k + n) = ⟨.answer false, pending, m'⟩ := by
  obtain ⟨steps, -, reached, -⟩ := (s.setting game).concludes t pending m
  refine ⟨steps, ?_⟩
  rw [moment_add, comes, reached, stops]
  rfl

/-- Where a run begins to stop, the budget is used up or the last call of the handler was refused its deed. -/
theorem stops_for_cause {k : Nat} (going : (s.moment game k).control ≠ .answer false)
    (stopped : (s.moment game (k + 1)).control = .answer false) :
    (s.moment game k).machine.run.exhausted = true ∨
      ∃ at? a me deed, (s.moment game k).control = .effect (.action at? a) ∧ s.program.context.entity? = some me ∧
        deed.word = a.word ∧ s.called game (k + 1) = s.called game k ++ [.deed me deed (.ok false)] := by
  have goes := (s.recorded.setting game.recording).goes_next (s.recorded.moment game.recording k)
  rw [← moment_succ] at goes
  rw [moment_recorded] at going stopped ⊢
  exact @Setting.Goes.stops _ (s.setting game) _ _ goes going stopped

/-- A stop ends a run. Whatever the program, the state it starts in and the handler are: where a statement answers that
the run must stop, the run has a moment with that answer; it begins to stop only where the budget is used up or a deed
is refused. From such a moment on, duties are passed one by one, nothing is begun or evaluated and the handler is not
called; variables, host, log, mode and budget stay, and only the cursor may be set, once. The run is suspended with
what it had there. So at most one of its calls was refused, and it is the last. -/
theorem stop_ends_run (game : Game σ) (s : Stage σ) :
    (∀ k t pending m m', s.moment game k = ⟨.come t, pending, m⟩ →
      (s.setting game).execute t m = .ok false m' → ∃ n, s.moment game (k + n) = ⟨.answer false, pending, m'⟩) ∧
    (∀ k, (s.moment game k).control ≠ .answer false → (s.moment game (k + 1)).control = .answer false →
      (s.moment game k).machine.run.exhausted = true ∨
        ∃ at? a me deed, (s.moment game k).control = .effect (.action at? a) ∧ s.program.context.entity? = some me ∧
          deed.word = a.word ∧ s.called game (k + 1) = s.called game k ++ [.deed me deed (.ok false)]) ∧
    (∀ k, (s.moment game k).control = .answer false →
      (∀ n, s.moment game (k + n) = (s.moment game k).unwound n ∧ s.begun game (k + n) = s.begun game k ∧
        s.evaluated game (k + n) = s.evaluated game k ∧ s.called game (k + n) = s.called game k) ∧
      (s.program.refusal? game.world s.host = none →
        s.run game = (.ok (), s.absorb (suspended (s.moment game k).atEnd)) ∧ s.calls game = s.called game k)) ∧
    (s.calls game).countP HandlerCall.isRefusal ≤ 1 ∧ HandlerCall.RefusedLast (s.calls game) := by
  refine ⟨fun k t pending m m' comes stops => moment_of_execute comes stops,
    fun k going stopped => stops_for_cause going stopped, fun k stopped => ⟨fun n => ?_, run_of_stopped stopped⟩,
    refusedLast_calls.count_le, refusedLast_calls⟩
  exact ⟨moment_of_stopped stopped n, begun_of_stopped stopped n, evaluated_of_stopped stopped n,
    called_of_stopped stopped n⟩

end Stage

/-- The first run of the leap is refused its jump and begins to stop at its twelfth step, inside of the if. It makes no
third call and leaves the if as the cursor. -/
theorem leap_stop_ends_run :
    (Leap.bound.moment moodyGame 11).control ≠ .answer false ∧
      (Leap.bound.moment moodyGame 12).control = .answer false ∧
      (∃ me deed, Leap.bound.called moodyGame 12 = Leap.bound.called moodyGame 11 ++ [.deed me deed (.ok false)]) ∧
      (∀ n, Leap.bound.called moodyGame (12 + n) = Leap.bound.called moodyGame 12) ∧
      (Leap.bound.calls moodyGame).length = 2 ∧
      (Leap.bound.run moodyGame).2.program.state = { budget := 6, finished := false, cursor := some Leap.both } := by
  obtain ⟨-, cause, after, -, -⟩ := Stage.stop_ends_run moodyGame Leap.bound
  have going : (Leap.bound.moment moodyGame 11).control ≠ .answer false := nofun
  have stopped : (Leap.bound.moment moodyGame 12).control = .answer false := rfl
  obtain ⟨later, ended⟩ := after 12 stopped
  obtain ⟨run, calls⟩ := ended rfl
  refine ⟨going, stopped, ?_, fun n => (later n).2.2.2, by rw [calls]; rfl, by rw [run]; rfl⟩
  obtain used | ⟨at?, a, me, deed, -, -, -, refused⟩ := cause 11 going stopped
  · cases used
  · exact ⟨me, deed, refused⟩

end WormLang
