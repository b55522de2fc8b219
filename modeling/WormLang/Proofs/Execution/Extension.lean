import WormLang.Proofs.Execution.Cursor
import WormLang.Proofs.Execution.Recording

/-!
More budget only extends a run. Execution looks at the budget in one way only: where it is used up, the run stops. So
a run with more budget does everything that a run with less does, call by call of the handler, and goes on where the
shorter one had to stop for want of budget. A run that ends for another reason ends in the same way with more budget.

The order of the calls is abstract at first: every call of the handler climbs some order on the host states. A record
of the calls is one that grows at its end.
-/
namespace WormLang

open Answer

/-- An order on host states that every call of the handler climbs, and the host states that refused deeds lead to. -/
structure Handler.Ledger {σ : Type} (handler : Handler σ) (climbs : σ → σ → Prop) (refused : σ → Prop) : Prop where
  refl : ∀ h, climbs h h
  trans : ∀ {g h k}, climbs g h → climbs h k → climbs g k
  perform : ∀ me deed h, climbs h (handler.perform me deed h).2
  print : ∀ text h, climbs h (handler.print text h).2
  refuse : ∀ me deed h, refused (handler.perform me deed h).2 ↔ (handler.perform me deed h).1 = .ok false
  spare : ∀ text h, ¬ refused (handler.print text h).2

section

variable {σ α : Type} {setting : Setting σ} {m : Machine σ} {h : σ}

theorem Exec.Meets.host_ofExcept (here : m.host = h) (x : Except Fault α) :
    Exec.Meets (fun _ m' => m'.host = h) (fun _ m' => m'.host = h) (Exec.ofExcept x) m :=
  .ofExcept (fun _ _ => here) fun _ _ => here

theorem Exec.Meets.host_eval (here : m.host = h) (e : Expr) :
    Exec.Meets (fun _ m' => m'.host = h) (fun _ m' => m'.host = h) (Exec.eval setting e) m :=
  .eval (fun _ => here) e

end

namespace Handler.Ledger

variable {σ : Type} {setting : Setting σ} {climbs : σ → σ → Prop} {refused : σ → Prop}
  (ledger : setting.game.handler.Ledger climbs refused) {h : σ} {m : Machine σ}

include ledger

/-- Steps that do not call the handler keep its state. -/
theorem still {α : Type} {x : Exec σ α}
    (keeps : Exec.Meets (fun _ m' => m'.host = h) (fun _ m' => m'.host = h) x m) :
    Exec.Meets (fun _ m' => m'.host = h) (fun _ m' => climbs h m'.host) x m :=
  keeps.mono (fun _ _ kept => kept) fun _ _ kept => kept ▸ ledger.refl h

theorem meets_perform (here : m.host = h) (me : EntityId) (deed : Deed) :
    Exec.Meets (fun done m' => climbs h m'.host ∧ (¬ refused h → (refused m'.host ↔ done = false)))
      (fun _ m' => climbs h m'.host) (Exec.perform setting me deed) m := by
  subst here
  have higher := ledger.perform me deed m.host
  have refuse := ledger.refuse me deed m.host
  have called : EStateM.run (Exec.perform setting me deed) m = Exec.perform setting me deed m := rfl
  unfold Exec.Meets
  rw [called, Exec.perform]
  generalize setting.game.handler.perform me deed m.host = result at higher refuse
  obtain ⟨answer, host⟩ := result
  cases answer with
  | ok done =>
    rw [Except.ok.injEq] at refuse
    exact ⟨higher, fun _ => refuse⟩
  | error f => exact higher

theorem meets_printText (here : m.host = h) (text : String) :
    Exec.Meets (fun _ m' => climbs h m'.host ∧ ¬ refused m'.host) (fun _ m' => climbs h m'.host)
      (Exec.printText setting text) m := by
  subst here
  have higher := ledger.print text m.host
  have spare := ledger.spare text m.host
  have called : EStateM.run (Exec.printText setting text) m = Exec.printText setting text m := rfl
  unfold Exec.Meets
  rw [called, Exec.printText]
  generalize setting.game.handler.print text m.host = result at higher spare
  obtain ⟨answer, host⟩ := result
  cases answer with
  | ok _ => exact ⟨higher, spare⟩
  | error f => exact higher

theorem meets_attempt (here : m.host = h) (me : EntityId) (a : Action) :
    Exec.Meets (fun done m' => climbs h m'.host ∧ (¬ refused h → (refused m'.host ↔ done = false)))
      (fun _ m' => climbs h m'.host) (Exec.attempt setting me a) m := by
  cases a with
  | turn angle => exact (ledger.still (.host_eval here angle)).bind fun v m' here => ledger.meets_perform here me _
  | fire power =>
    exact (ledger.still (.host_eval here power)).bind fun v m' here =>
      (ledger.still (.host_ofExcept here _)).bind fun n m' here => ledger.meets_perform here me _
  | move => exact ledger.meets_perform here me .move
  | jump => exact ledger.meets_perform here me .jump
  | toggleWeapon => exact ledger.meets_perform here me .toggleWeapon
  | skip =>
    subst here
    exact ⟨ledger.refl m.host, fun calm => by simp [calm]⟩

/-- The effect of a leaf calls the handler, and stops the run only if a deed is refused. -/
theorem meets_effect (here : m.host = h) (s : Stmt) :
    Exec.Meets (fun done m' => climbs h m'.host ∧ (¬ refused h → (refused m'.host ↔ done = false)))
      (fun _ m' => climbs h m'.host) (setting.effect s) m := by
  have quiet : ∀ {m' : Machine σ}, m'.host = h →
      climbs h m'.host ∧ (¬ refused h → (refused m'.host ↔ true = false)) := by
    rintro m' rfl
    exact ⟨ledger.refl m'.host, fun calm => by simp [calm]⟩
  cases s with
  | assignment at? name e =>
    refine Exec.Meets.get_bind ?_
    split
    · exact (quiet here).1
    · refine (ledger.still (.host_eval here e)).bind fun value m' here => ?_
      split
      · exact quiet here
      · exact (quiet here).1
  | print at? e =>
    refine (ledger.still (.host_eval here e)).bind fun value m' here => ?_
    refine (ledger.still (.host_ofExcept here _)).bind fun _ m' here => ?_
    refine Exec.Meets.get_bind ?_
    refine (ledger.still (.host_ofExcept here _)).bind fun text m' here => ?_
    exact (ledger.meets_printText here text).bind fun _ m' ⟨above, spared⟩ => ⟨above, fun _ => by simp [spared]⟩
  | action at? a =>
    refine (ledger.still (.host_ofExcept here _)).bind fun me m' here => ?_
    refine (ledger.meets_attempt here me a).bind fun done m' ⟨above, refuse⟩ => ?_
    cases done with
    | true => exact ⟨above, refuse⟩
    | false => exact ⟨above, refuse⟩
  | _ => exact quiet here

/-- Every step of execution climbs. -/
theorem keeps (from' : σ) : setting.Keeps (fun m => climbs from' m.host) (fun m => climbs from' m.host)
    (fun m => climbs from' m.host) where
  stop _ above := above
  fail _ above := above
  pay _ above _ := above
  resume _ above := above
  suspend _ _ above := above
  bind _ _ _ above := above
  test m c above := by
    have tested : Exec.Meets (fun (_ : Bool) m' => m'.host = m.host) (fun _ m' => m'.host = m.host)
        (do return (← Exec.eval setting c).toBool) m := (Exec.Meets.host_eval rfl c).bind fun _ _ here => here
    exact (tested.mono (fun _ _ same => same ▸ above) fun _ _ same => same ▸ above).answer
  effect m s _ above := by
    have higher : ∀ {m' : Machine σ}, climbs m.host m'.host → climbs from' m'.host := ledger.trans above
    exact ((ledger.meets_effect rfl s).mono (fun _ _ met => higher met.1) fun _ _ met => higher met).answer

/-- Whatever execution does, it climbs. -/
theorem climbs_execute (s : Stmt) (m : Machine σ) : climbs m.host (Exec.machineOf (setting.execute s m)).host :=
  Exec.of_within ((ledger.keeps m.host).execute s m (ledger.refl m.host))

theorem climbs_executeAll (body : List Stmt) (m : Machine σ) :
    climbs m.host (Exec.machineOf (setting.executeAll body m)).host :=
  Exec.of_within (Setting.Guards.executeAll body (fun s _ => (ledger.keeps m.host).execute s) m (ledger.refl m.host))

theorem climbs_turns (c : Expr) (body : Stmt) (n : Nat) (m : Machine σ) :
    climbs m.host (Exec.machineOf (setting.turns c body n m)).host := by
  have keeps := ledger.keeps m.host
  exact Exec.of_within (keeps.guards.turns (fun m => keeps.test m c) (keeps.execute body) n m (ledger.refl m.host))

theorem climbs_visits (name : String) (body : Stmt) (entities : List EntityId) (m : Machine σ) :
    climbs m.host (Exec.machineOf (setting.visits name body entities m)).host := by
  have keeps := ledger.keeps m.host
  exact Exec.of_within (keeps.guards.visits (fun m => keeps.bind m name) (keeps.execute body) entities m
    (ledger.refl m.host))

end Handler.Ledger

namespace Machine

variable {σ : Type}

/-- The same machine with more budget. -/
def richer (extra : Nat) (m : Machine σ) : Machine σ := m.onRun fun s => { s with budget := s.budget + extra }

variable (extra : Nat) (m : Machine σ)

theorem budget_richer : (m.richer extra).run.budget = m.run.budget + extra := rfl

theorem seeking_richer : (m.richer extra).run.seeking = m.run.seeking := rfl

theorem charge_richer : (m.richer extra).onRun RunState.charge = (m.onRun RunState.charge).richer extra := by
  have budget : m.run.budget + extra - 1 = m.run.budget - 1 + extra := by omega
  simp [richer, onRun, RunState.charge, budget]

theorem suspendAt_richer (node : Stmt) :
    (m.richer extra).onRun (·.suspendAt node) = (m.onRun (·.suspendAt node)).richer extra := by
  obtain ⟨table, ⟨budget, finished, cursor⟩, host, log⟩ := m
  cases cursor <;> rfl

theorem entered_richer (id : NodeId) : (m.richer extra).entered id = (m.entered id).richer extra := by
  have here : (m.richer extra).run.isAt id = m.run.isAt id := rfl
  unfold entered
  rw [seeking_richer, here]
  split
  · split
    · exact charge_richer extra (m.onRun RunState.resume)
    · rfl
  · exact charge_richer extra m

theorem exhausted_suspendAt (node : Stmt) : (m.onRun (·.suspendAt node)).run.exhausted = m.run.exhausted := by
  obtain ⟨table, ⟨budget, finished, cursor⟩, host, log⟩ := m
  cases cursor <;> rfl

variable {m}

theorem exhausted_richer (paid : m.run.exhausted = false) : (m.richer extra).run.exhausted = false := by
  have positive := Setting.exhausted_of_budget paid
  refine decide_eq_false ?_
  rw [budget_richer]
  omega

end Machine

/-- The single steps of a leaf do not look at the budget. -/
theorem Setting.mirror_richer {σ : Type} (setting : Setting σ) (extra : Nat) :
    setting.Mirror setting (Machine.richer extra) where
  context := rfl
  table _ := rfl
  written _ := rfl
  shown _ := rfl
  eval e := by
    intro m
    rw [Exec.run_eval, Exec.run_eval, show setting.env (m.richer extra) = setting.env m from rfl,
      show (m.richer extra).log = m.log from rfl]
    cases EStateM.run ((setting.env m).eval e) m.log <;> rfl
  perform me deed := by
    intro m
    show Exec.perform setting me deed (m.richer extra) = Outcome.onState _ (Exec.perform setting me deed m)
    unfold Exec.perform
    rw [show (m.richer extra).host = m.host from rfl]
    split <;> rfl
  printText text := by
    intro m
    show Exec.printText setting text (m.richer extra) = Outcome.onState _ (Exec.printText setting text m)
    unfold Exec.printText
    rw [show (m.richer extra).host = m.host from rfl]
    split <;> rfl
  setVariable _ _ _ := rfl
  note _ _ := rfl

/-- What more budget makes of an answer: the same, unless a statement found the budget used up. Then the longer run
goes on, and whatever it does climbs further. -/
inductive Answer.Extends {σ : Type} (climbs : σ → σ → Prop) (refused : σ → Prop) (extra : Nat) :
    Answer σ → Answer σ → Prop
  | done {m : Machine σ} (calm : ¬ refused m.host) :
    Extends climbs refused extra (.ok true m) (.ok true (m.richer extra))
  | failed (f : Fault) (m : Machine σ) : Extends climbs refused extra (.error f m) (.error f (m.richer extra))
  | refused {m : Machine σ} (refusal : refused m.host) :
    Extends climbs refused extra (.ok false m) (.ok false (m.richer extra))
  | dry {m : Machine σ} {longer : Answer σ} (calm : ¬ refused m.host) (exhausted : m.run.exhausted = true)
    (further : climbs m.host (Exec.machineOf longer).host) : Extends climbs refused extra (.ok false m) longer

/-- More budget extends what a computation answers, unless a deed was refused before. -/
def Answer.Grows {σ : Type} (climbs : σ → σ → Prop) (refused : σ → Prop) (extra : Nat) (x y : Machine σ → Answer σ) :
    Prop := ∀ m, ¬ refused m.host → (x m).Extends climbs refused extra (y (m.richer extra))

section

variable {σ : Type} {setting : Setting σ} {climbs : σ → σ → Prop} {refused : σ → Prop} {extra : Nat}

theorem Answer.Extends.leaving {short long : Answer σ} (node : Stmt) (inside : short.Extends climbs refused extra long) :
    (leaving node short).Extends climbs refused extra (leaving node long) := by
  cases inside with
  | done calm => exact .done calm
  | failed f m => exact .failed f m
  | @refused m refusal =>
    rw [leaving_false, leaving_false, Machine.suspendAt_richer]
    exact .refused refusal
  | @dry m _ calm exhausted above =>
    refine .dry calm ((m.exhausted_suspendAt node).trans exhausted) ?_
    obtain ⟨m', rfl⟩ | ⟨m', rfl⟩ | ⟨f, m', rfl⟩ := long.cases_on <;> exact above

theorem Answer.Extends.test {yes yes' no no' : Machine σ → Answer σ} (c : Expr) {m : Machine σ}
    (calm : ¬ refused m.host)
    (ifYes : ∀ m', setting.test c m = .ok true m' → ¬ refused m'.host →
      (yes m').Extends climbs refused extra (yes' (m'.richer extra)))
    (ifNo : Answer.Grows climbs refused extra no no') :
    (either (setting.test c m) yes no).Extends climbs refused extra
      (either (setting.test c (m.richer extra)) yes' no') := by
  have kept : Exec.Meets (fun (_ : Bool) m' => m'.host = m.host) (fun _ m' => m'.host = m.host)
      (do return (← Exec.eval setting c).toBool) m := (Exec.Meets.host_eval rfl c).bind fun _ _ here => here
  unfold Exec.Meets at kept
  rw [← Setting.test] at kept
  rw [(setting.mirror_richer extra).test]
  obtain ⟨m', ran⟩ | ⟨m', ran⟩ | ⟨f, m', ran⟩ := (setting.test c m).cases_on
  · rw [ran] at kept
    have same := ifYes m' ran (kept ▸ calm)
    rw [ran]
    exact same
  · rw [ran] at kept ⊢
    exact ifNo m' (kept ▸ calm)
  · rw [ran]
    exact .failed f m'

end

namespace Handler.Ledger

variable {σ : Type} {setting : Setting σ} {climbs : σ → σ → Prop} {refused : σ → Prop}
  (ledger : setting.game.handler.Ledger climbs refused) {extra : Nat}

include ledger

theorem extends_andThen {short long : Answer σ} {next next' : Machine σ → Answer σ}
    (first : short.Extends climbs refused extra long)
    (second : ∀ m, short = .ok true m → ¬ refused m.host →
      (next m).Extends climbs refused extra (next' (m.richer extra)))
    (further : ∀ m, climbs m.host (Exec.machineOf (next' m)).host) :
    (andThen short next).Extends climbs refused extra (andThen long next') := by
  cases first with
  | done calm => exact second _ rfl calm
  | failed f m => exact .failed f m
  | refused refusal => exact .refused refusal
  | dry calm exhausted above =>
    refine .dry calm exhausted ?_
    obtain ⟨m', rfl⟩ | ⟨m', rfl⟩ | ⟨f, m', rfl⟩ := long.cases_on
    · exact ledger.trans above (further m')
    · exact above
    · exact above

theorem extends_effect (s : Stmt) :
    Answer.Grows climbs refused extra (EStateM.run (setting.effect s)) (EStateM.run (setting.effect s)) := by
  intro m calm
  have met := ledger.meets_effect rfl s (m := m)
  unfold Exec.Meets at met
  rw [(setting.mirror_richer extra).effect s m]
  obtain ⟨m', ran⟩ | ⟨m', ran⟩ | ⟨f, m', ran⟩ := Answer.cases_on (EStateM.run (setting.effect s) m)
  all_goals rw [ran] at met ⊢
  · exact .done (by simpa using met.2 calm)
  · exact .refused ((met.2 calm).mpr rfl)
  · exact .failed f m'

/-- A statement that finds the budget used up stops the shorter run; the longer one climbs. -/
theorem extends_of_exhausted (s : Stmt) {m m' : Machine σ} (calm : ¬ refused m.host)
    (exhausted : m'.run.exhausted = true) (host : m'.host = m.host) :
    Answer.Extends climbs refused extra (.ok false m') (setting.execute s (m.richer extra)) := by
  refine .dry (host ▸ calm) exhausted ?_
  rw [host]
  exact ledger.climbs_execute s (m.richer extra)

theorem extends_executeAll {body : List Stmt}
    (inside : ∀ s ∈ body, Answer.Grows climbs refused extra (setting.execute s) (setting.execute s)) :
    Answer.Grows climbs refused extra (setting.executeAll body) (setting.executeAll body) := by
  induction body with
  | nil =>
    intro m calm
    rw [Setting.executeAll_nil, Setting.executeAll_nil]
    exact .done calm
  | cons s rest ih =>
    intro m calm
    rw [Setting.executeAll_cons, Setting.executeAll_cons]
    exact ledger.extends_andThen (inside s List.mem_cons_self m calm)
      (fun m _ => ih (fun t member => inside t (List.mem_cons_of_mem _ member)) m) (ledger.climbs_executeAll rest)

/-- The turns of a while loop, as long as there are not fewer of them than budget. -/
theorem extends_turns (c : Expr) {body : Stmt}
    (inside : Answer.Grows climbs refused extra (setting.execute body) (setting.execute body))
    {fuel fuel' : Nat} {m : Machine σ} (calm : ¬ refused m.host) (enough : m.run.budget ≤ fuel)
    (enough' : m.run.budget + extra ≤ fuel') :
    (setting.turns c body fuel m).Extends climbs refused extra (setting.turns c body fuel' (m.richer extra)) := by
  induction fuel generalizing fuel' m with
  | zero =>
    rw [Setting.turns_zero]
    exact .dry calm (decide_eq_true enough) (ledger.climbs_turns c body fuel' (m.richer extra))
  | succ fuel ih =>
    cases paid : m.run.exhausted with
    | true =>
      rw [Setting.turns_succ, paid, if_pos rfl]
      exact .dry calm paid (ledger.climbs_turns c body fuel' (m.richer extra))
    | false =>
      have positive := Setting.exhausted_of_budget paid
      obtain ⟨fuel', rfl⟩ : ∃ k, fuel' = k + 1 := ⟨fuel' - 1, by omega⟩
      rw [Setting.turns_succ, Setting.turns_succ, paid, Machine.exhausted_richer extra paid, Machine.charge_richer,
        if_neg (by simp), if_neg (by simp)]
      refine Answer.Extends.test c calm (fun m1 holds calm => ?_) fun m1 calm => .done calm
      refine ledger.extends_andThen (inside m1 calm) (fun m2 done calm => ?_) (ledger.climbs_turns c body fuel')
      have spent := setting.budget_of_done done
      rw [setting.run_of_test holds] at spent
      have charged : (m.onRun RunState.charge).run.budget = m.run.budget - 1 := rfl
      exact ih calm (by omega) (by omega)

theorem extends_visits (name : String) {body : Stmt}
    (inside : Answer.Grows climbs refused extra (setting.execute body) (setting.execute body))
    (entities : List EntityId) :
    Answer.Grows climbs refused extra (setting.visits name body entities) (setting.visits name body entities) := by
  induction entities with
  | nil => exact fun m calm => .done calm
  | cons e rest ih =>
    intro m calm
    cases paid : m.run.exhausted with
    | true =>
      rw [setting.visits_cons name body e rest m, paid, if_pos rfl]
      exact .dry calm paid (ledger.climbs_visits name body (e :: rest) (m.richer extra))
    | false =>
      have visiting : (m.richer extra).visiting name e = (m.visiting name e).richer extra := by
        unfold Machine.visiting
        rw [Machine.seeking_richer]
        split
        · rfl
        · rw [Machine.charge_richer]
          rfl
      have spared : (m.visiting name e).host = m.host := by
        unfold Machine.visiting
        split <;> rfl
      rw [setting.visits_turn _ _ _ _ paid, setting.visits_turn _ _ _ _ (Machine.exhausted_richer extra paid), visiting]
      refine ledger.extends_andThen (inside _ (spared ▸ calm)) (fun m' _ calm => ?_) fun m' => ?_
      · rw [Machine.seeking_richer, Machine.seeking_richer]
        split
        · exact .done calm
        · exact ih m' calm
      · split
        · exact ledger.refl m'.host
        · exact ledger.climbs_visits name body rest m'

/-- More budget extends what the inside of a conditional statement answers. -/
theorem extends_interior {s : Stmt}
    (inside : ∀ t ∈ s.children, Answer.Grows climbs refused extra (setting.execute t) (setting.execute t)) :
    Answer.Grows climbs refused extra (setting.interior s) (setting.interior s) := by
  intro m calm
  cases s with
  | branch id at? c yes no =>
    have ifYes := inside yes (by simp [Stmt.children])
    have ifNo := inside no (by simp [Stmt.children])
    rw [Setting.interior, Setting.interior, Machine.seeking_richer]
    split
    · refine ledger.extends_andThen (ifYes m calm) (fun m' _ calm => ?_) fun m' => ?_
      · rw [Machine.seeking_richer]
        split
        · exact ifNo m' calm
        · exact .done calm
      · split
        · exact ledger.climbs_execute no m'
        · exact ledger.refl m'.host
    · exact Answer.Extends.test c calm (fun m' _ => ifYes m') ifNo
  | loop id at? c body =>
    have inBody := inside body (by simp [Stmt.children])
    have turns : ∀ m, ¬ refused m.host → (setting.turns c body m.run.budget.toNat m).Extends climbs refused extra
        (setting.turns c body (m.richer extra).run.budget.toNat (m.richer extra)) := fun m calm =>
      ledger.extends_turns c inBody calm (Int.self_le_toNat _) (Int.self_le_toNat _)
    rw [Setting.interior, Setting.interior, Machine.seeking_richer]
    split
    · refine ledger.extends_andThen (inBody m calm) (fun m' _ calm => ?_) fun m' => ?_
      · rw [Machine.seeking_richer]
        split
        · exact .done calm
        · exact turns m' calm
      · split
        · exact ledger.refl m'.host
        · exact ledger.climbs_turns c body _ m'
    · exact turns m calm
  | each id at? kind name body =>
    have fetched : setting.members at? kind name (m.richer extra) = setting.members at? kind name m := rfl
    rw [Setting.interior, Setting.interior, fetched]
    split
    · exact ledger.extends_visits name (inside body (by simp [Stmt.children])) _ m calm
    · exact .failed _ _
  | sequence | assignment | print | action | placeholder => exact .done calm

/-- More budget extends what execution answers. The induction is on the tree. -/
theorem extends_execute (s : Stmt) :
    Answer.Grows climbs refused extra (setting.execute s) (setting.execute s) := by
  induction s using Stmt.conditional_induction with
  | sequence at? body ih =>
    intro m calm
    rw [Setting.execute_sequence, Setting.execute_sequence]
    exact ledger.extends_executeAll ih m calm
  | conditional s id own ih =>
    intro m calm
    cases paid : m.run.exhausted with
    | true =>
      rw [setting.execute_of_exhausted own paid]
      exact ledger.extends_of_exhausted s calm ((m.exhausted_suspendAt s).trans paid) rfl
    | false =>
      rw [setting.execute_of_paid own paid, setting.execute_of_paid own (Machine.exhausted_richer extra paid),
        Machine.entered_richer]
      rw [← m.host_entered id] at calm
      exact (ledger.extends_interior ih _ calm).leaving s
  | leaf s isLeaf =>
    intro m calm
    cases paid : m.run.exhausted with
    | true =>
      rw [setting.execute_leaf isLeaf m, paid, if_pos rfl]
      exact ledger.extends_of_exhausted _ calm paid rfl
    | false =>
      rw [setting.execute_leaf isLeaf, setting.execute_leaf isLeaf, paid, Machine.exhausted_richer extra paid,
        Machine.seeking_richer, Machine.charge_richer]
      simp only [Bool.false_eq_true, if_false]
      split
      · exact .done calm
      · exact ledger.extends_effect s _ calm
  | placeholder fault =>
    intro m calm
    rw [Setting.execute_placeholder, Setting.execute_placeholder]
    exact .failed _ m

end Handler.Ledger

/-- A record of the handler's calls grows at its end, and a refused deed is the last call in it. -/
theorem Game.ledger_recording {σ : Type} (game : Game σ) :
    game.recording.handler.Ledger (fun h h' => h.2 <+: h'.2) (fun h => HandlerCall.endsRefused h.2 = true) where
  refl h := List.prefix_refl h.2
  trans := List.IsPrefix.trans
  perform me deed h := List.prefix_append h.2 _
  print text h := List.prefix_append h.2 _
  refuse me deed h := by
    rw [perform_recording]
    generalize (game.handler.perform me deed h.1).1 = answer
    obtain f | done := answer
    · simp [HandlerCall.endsRefused, HandlerCall.isRefusal]
    · cases done <;> simp [HandlerCall.endsRefused, HandlerCall.isRefusal]
  spare text h := by
    rw [print_recording]
    simp [HandlerCall.endsRefused, HandlerCall.isRefusal]

namespace Stage

variable {σ : Type}

/-- More budget extends what a run answers. -/
theorem extends_answer {game : Game σ} {climbs : σ → σ → Prop} {refused : σ → Prop}
    (ledger : game.handler.Ledger climbs refused) (s : Stage σ) (calm : ¬ refused s.host) (budget : Int) (extra : Nat) :
    ((s.withBudget budget).answer game).Extends climbs refused extra ((s.withBudget (budget + extra)).answer game) := by
  have ledger : (s.setting game).game.handler.Ledger climbs refused := ledger
  have executed : Grows climbs refused extra ((s.setting game).execute s.program.root) _ :=
    ledger.extends_execute s.program.root
  refine ledger.extends_andThen (executed _ calm) (fun m _ calm => ?_) fun m => ?_
  · rw [Machine.seeking_richer]
    split
    · exact executed m.restarted calm
    · exact .done calm
  · split
    · exact ledger.climbs_execute _ m.restarted
    · exact ledger.refl m.host

/-- The last call of a run was for a deed that was refused. -/
def EndsRefused (game : Game σ) (s : Stage σ) : Prop := HandlerCall.endsRefused (s.calls game) = true

/-- More budget only extends a run, whatever the program and the state that it starts in. The calls of the handler in a
run are a prefix of those in a run with more budget. A run that completes, fails, or ends with a refused deed ends in
the same way with more budget, with the same host state, variables and cursor, and what was added to the budget is
left over. Any other run has used up its budget. Where no run begins, no budget changes anything. -/
theorem more_budget_extends_run (game : Game σ) (s : Stage σ) {n m : Int} (more : n ≤ m) :
    (s.withBudget n).calls game <+: (s.withBudget m).calls game ∧
    (∀ cause, s.program.refusal? game.world s.host = some cause → ∀ budget,
      (s.withBudget budget).calls game = [] ∧
      (s.withBudget budget).run game = (.error { cause }, s.withBudget budget)) ∧
    (s.program.refusal? game.world s.host = none →
      ((observe ((s.withBudget n).run game)).ending ≠ .suspended ∨ (s.withBudget n).EndsRefused game →
        (s.withBudget m).calls game = (s.withBudget n).calls game ∧
        observe ((s.withBudget m).run game) =
          { observe ((s.withBudget n).run game) with
            left := (observe ((s.withBudget n).run game)).left + (m - n) }) ∧
      ((observe ((s.withBudget n).run game)).ending = .suspended → ¬ (s.withBudget n).EndsRefused game →
        (observe ((s.withBudget n).run game)).left ≤ 0)) := by
  obtain ⟨extra, rfl⟩ := Int.le.dest more
  rw [show n + extra - n = extra by omega]
  cases ready : s.program.refusal? game.world s.host with
  | some cause =>
    have silent : ∀ budget, (s.withBudget budget).calls game = [] := fun budget => calls_of_refusal ready
    refine ⟨?_, fun other same budget => ?_, nofun⟩
    · rw [silent, silent]
    · cases same
      exact ⟨silent budget, run_of_refusal ready⟩
  | none =>
    have observed : ∀ budget, observe ((s.withBudget budget).run game) = _ := fun budget => observe_recorded ready
    have called : ∀ budget, (s.withBudget budget).calls game = _ := fun budget => calls_eq ready
    have calm : ¬ HandlerCall.endsRefused s.recorded.host.2 = true := by simp [recorded, HandlerCall.endsRefused]
    have extended : ((s.withBudget n).recorded.answer game.recording).Extends (fun h h' => h.2 <+: h'.2)
        (fun h => HandlerCall.endsRefused h.2 = true) extra
        ((s.withBudget (n + extra)).recorded.answer game.recording) :=
      extends_answer game.ledger_recording s.recorded calm n extra
    rw [EndsRefused, observed, observed, called, called]
    generalize (s.withBudget n).recorded.answer game.recording = short at extended
    generalize (s.withBudget (n + extra)).recorded.answer game.recording = long at extended
    cases extended with
    | done calm => exact ⟨List.prefix_refl _, nofun, fun _ => ⟨fun _ => ⟨rfl, rfl⟩, nofun⟩⟩
    | failed f m => exact ⟨List.prefix_refl _, nofun, fun _ => ⟨fun _ => ⟨rfl, rfl⟩, nofun⟩⟩
    | refused refusal =>
      exact ⟨List.prefix_refl _, nofun, fun _ => ⟨fun _ => ⟨rfl, rfl⟩, fun _ spared => absurd refusal spared⟩⟩
    | dry calm exhausted further =>
      refine ⟨further, nofun, fun _ => ⟨?_, fun _ _ => of_decide_eq_true exhausted⟩⟩
      rintro (other | refusal)
      · exact absurd rfl other
      · exact absurd refusal calm

end Stage

/-- The sentry prints once a turn: with five units it prints twice before they are used up, and with nine four times,
the first two of which are the same. -/
theorem sentry_more_budget_extends_run :
    (5 : Int) ≤ 9 ∧ ((Sentry.stage.withBudget 5).calls soloGame).length = 2 ∧
      ((Sentry.stage.withBudget 9).calls soloGame).length = 4 ∧
      (Sentry.stage.withBudget 5).calls soloGame <+: (Sentry.stage.withBudget 9).calls soloGame ∧
      (Stage.observe ((Sentry.stage.withBudget 5).run soloGame)).left ≤ 0 := by
  have more : (5 : Int) ≤ 9 := by decide
  have spared : ¬ (Sentry.stage.withBudget 5).EndsRefused soloGame := by
    unfold Stage.EndsRefused
    decide +kernel
  obtain ⟨sooner, -, begun⟩ := Stage.more_budget_extends_run soloGame Sentry.stage more
  exact ⟨more, by decide +kernel, by decide +kernel, sooner, (begun rfl).2 rfl spared⟩

end WormLang
