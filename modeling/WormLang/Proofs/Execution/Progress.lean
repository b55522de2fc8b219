import WormLang.Proofs.Execution.Cursor
import WormLang.Proofs.Execution.Moment
import WormLang.Proofs.Execution.Arrival

/-!
Every run ends. Execution in single steps comes to the answer of the whole, and the number of steps is bounded by the
size of the tree and the units that are spent: a walk that seeks passes every statement at most once, and every turn of
a loop that is taken live is paid for. So the steps of a run are bounded by its budget and its tree alone, whatever
the conditions, the handler and the world say.
-/
namespace WormLang

open Answer

namespace Stmt

def size (s : Stmt) : Nat := s.walk.length

def sizes (body : List Stmt) : Nat := (body.map size).sum

theorem size_eq (s : Stmt) : s.size = 1 + sizes s.children := by
  unfold size sizes
  rw [walk_eq, List.length_cons, List.length_flatMap]
  exact Nat.add_comm _ _

@[simp] theorem sizes_nil : sizes [] = 0 := rfl

@[simp] theorem sizes_cons (s : Stmt) (rest : List Stmt) : sizes (s :: rest) = s.size + sizes rest := rfl

end Stmt

/-- Whether a stop on its way out leaves a conditional statement here. -/
def Duty.isLeave : Duty → Bool
  | leave _ => true
  | _ => false

namespace Setting

variable {σ : Type} {setting : Setting σ}

/-- Some steps lead from one moment to another. There are at most `n` of them, and `k` more for every unit of
budget that they spend. -/
def Arrives (setting : Setting σ) (n k : Nat) (now later : Moment σ) : Prop :=
  ∃ steps spent, setting.next^[steps] now = later ∧
    now.machine.run.budget = later.machine.run.budget + (spent : Nat) ∧ steps ≤ n + k * spent

namespace Arrives

variable {n l k k' : Nat} {now later last : Moment σ}

theorem refl (now : Moment σ) : setting.Arrives 0 k now now := ⟨0, 0, rfl, by simp, by simp⟩

theorem mono (arrives : setting.Arrives n k now later) (more : n ≤ l) (dearer : k ≤ k') :
    setting.Arrives l k' now later := by
  obtain ⟨steps, spent, reached, left, bound⟩ := arrives
  refine ⟨steps, spent, reached, left, ?_⟩
  have : k * spent ≤ k' * spent := Nat.mul_le_mul_right spent dearer
  omega

theorem trans (first : setting.Arrives n k now later) (second : setting.Arrives l k later last) :
    setting.Arrives (n + l) k now last := by
  obtain ⟨steps, spent, reached, left, bound⟩ := first
  obtain ⟨steps', spent', reached', left', bound'⟩ := second
  refine ⟨steps' + steps, spent + spent', ?_, ?_, ?_⟩
  · rw [Function.iterate_add_apply, reached, reached']
  · push_cast
    omega
  · rw [Nat.mul_add]
    omega

/-- A step that spends nothing. -/
theorem step (goes : setting.next now = later) (same : later.machine.run.budget = now.machine.run.budget)
    (rest : setting.Arrives n k later last) : setting.Arrives (n + 1) k now last := by
  have first : setting.Arrives 1 k now later := ⟨1, 0, goes, by simp [same], by simp⟩
  exact (first.trans rest).mono (by omega) le_rfl

/-- A step that spends nothing, and is the last one. -/
theorem last_step (goes : setting.next now = later) (same : later.machine.run.budget = now.machine.run.budget)
    (positive : 1 ≤ n) : setting.Arrives n k now later :=
  ((refl later).step goes same).mono positive le_rfl

/-- A step that spends a unit pays for itself and for the free steps of the next turn. -/
theorem pay (goes : setting.next now = later) (less : later.machine.run.budget = now.machine.run.budget - 1)
    (rest : setting.Arrives l k later last) (paid : l + 1 ≤ n + k) :
    setting.Arrives n k now last := by
  obtain ⟨steps, spent, reached, left, bound⟩ := rest
  refine ⟨steps + 1, spent + 1, ?_, ?_, ?_⟩
  · rw [Function.iterate_succ_apply, goes, reached]
  · push_cast
    omega
  · rw [Nat.mul_add]
    omega

variable {m : Machine σ} {pending : List Duty}

/-- What is left to do goes on behind an answer, or passes a stop or a fault on in one step. -/
theorem andThen {d : Duty} (inside : d.isLeave = false) {a : Answer σ} {next : Machine σ → Answer σ}
    (first : setting.Arrives n k now (.answered (d :: pending) a)) (positive : 1 ≤ l)
    (second : ∀ m, a = .ok true m →
      setting.Arrives l k ⟨.answer true, d :: pending, m⟩ (.answered pending (next m))) :
    setting.Arrives (n + l) k now (.answered pending (Answer.andThen a next)) := by
  refine first.trans ?_
  obtain ⟨m, rfl⟩ | ⟨m, rfl⟩ | ⟨f, m, rfl⟩ := a.cases_on
  · exact second m rfl
  · have stops : setting.next ⟨.answer false, d :: pending, m⟩ = ⟨.answer false, pending, m⟩ := by
      cases d <;> first | rfl | cases inside
    exact last_step stops rfl positive
  · exact last_step rfl rfl positive

theorem leaving {node : Stmt} {a : Answer σ}
    (inside : setting.Arrives n k now (.answered (.leave node :: pending) a)) :
    setting.Arrives (n + 1) k now (.answered pending (Answer.leaving node a)) := by
  refine inside.trans ?_
  obtain ⟨m, rfl⟩ | ⟨m, rfl⟩ | ⟨f, m, rfl⟩ := a.cases_on
  · exact last_step rfl rfl le_rfl
  · exact last_step rfl (RunState.budget_suspendAt m.run node) le_rfl
  · exact last_step rfl rfl le_rfl

/-- Both ways to go on after a test. -/
theorem either {c : Expr} {yes no : Machine σ → Moment σ} {yes' no' : Machine σ → Answer σ}
    (tests : setting.next now = .tested pending (setting.test c now.machine) yes no)
    (ifYes : ∀ m, setting.test c now.machine = .ok true m → (yes m).machine = m ∧
      setting.Arrives n k (yes m) (.answered pending (yes' m)))
    (ifNo : ∀ m, setting.test c now.machine = .ok false m → (no m).machine = m ∧
      setting.Arrives n k (no m) (.answered pending (no' m))) :
    setting.Arrives (n + 1) k now (.answered pending (Answer.either (setting.test c now.machine) yes' no')) := by
  have spared := Exec.SparesRun.test setting c now.machine
  rw [← test] at spared
  obtain ⟨m, ran⟩ | ⟨m, ran⟩ | ⟨f, m, ran⟩ := (setting.test c now.machine).cases_on
  · obtain ⟨here, goesOn⟩ := ifYes m ran
    rw [ran] at spared tests ⊢
    exact step tests (congrArg RunState.budget (congrArg Machine.run here |>.trans spared)) goesOn
  · obtain ⟨here, goesOn⟩ := ifNo m ran
    rw [ran] at spared tests ⊢
    exact step tests (congrArg RunState.budget (congrArg Machine.run here |>.trans spared)) goesOn
  · rw [ran] at spared tests ⊢
    exact last_step (tests : _ = Moment.answered pending (.error f m)) (congrArg RunState.budget spared) (by omega)

/-- A conditional statement is entered, unless the budget is used up, and left after what is inside. -/
theorem conditional {s : Stmt} {id : NodeId} (own : s.id? = some id)
    (inside : setting.Arrives n k ⟨.enter s, .leave s :: pending, m.entered id⟩
      (.answered (.leave s :: pending) (setting.interior s (m.entered id)))) :
    setting.Arrives (n + 2) k ⟨.come s, pending, m⟩ (.answered pending (setting.execute s m)) := by
  have comes : setting.next ⟨.come s, pending, m⟩ = _ := Moment.come_conditional own pending m
  cases paid : m.run.exhausted with
  | true =>
    rw [paid, if_pos rfl] at comes
    rw [setting.execute_of_exhausted own paid]
    exact last_step comes (RunState.budget_suspendAt m.run s) (by omega)
  | false =>
    rw [paid, if_neg (by simp)] at comes
    rw [setting.execute_of_paid own paid]
    have left := inside.leaving
    obtain ⟨-, same⟩ | ⟨-, -, same⟩ | ⟨-, -, same⟩ := m.entered_cases id
    all_goals rw [same] at comes left ⊢
    · exact pay comes rfl left (by omega)
    · exact pay comes rfl left (by omega)
    · exact step comes rfl left

end Arrives

open Arrives

variable {pending : List Duty}

/-- How far single steps get with a statement. -/
def Concludes (setting : Setting σ) (s : Stmt) : Prop :=
  ∀ (pending : List Duty) (m : Machine σ), setting.Arrives (6 * s.size - 1) (6 * s.size) ⟨.come s, pending, m⟩
    (.answered pending (setting.execute s m))

theorem arrives_rest {body : List Stmt} (inside : ∀ s ∈ body, setting.Concludes s) (m : Machine σ) :
    setting.Arrives (6 * Stmt.sizes body + 1) (6 * Stmt.sizes body) ⟨.answer true, .rest body :: pending, m⟩
      (.answered pending (setting.executeAll body m)) := by
  induction body generalizing m with
  | nil =>
    rw [executeAll_nil]
    exact last_step rfl rfl le_rfl
  | cons s rest ih =>
    have sized := s.size_eq
    have others := ih fun t member => inside t (List.mem_cons_of_mem _ member)
    rw [executeAll_cons, Stmt.sizes_cons]
    refine step rfl rfl (n := 6 * (s.size + Stmt.sizes rest)) ?_
    have first := (inside s List.mem_cons_self (.rest rest :: pending) m).mono le_rfl
      (show 6 * s.size ≤ 6 * (s.size + Stmt.sizes rest) by omega)
    refine (first.andThen rfl (l := 6 * Stmt.sizes rest + 1) (by omega) fun m _ => ?_).mono (by omega) le_rfl
    exact (others m).mono le_rfl (by omega)

/-- A turn of a while loop pays for the walk through its body. -/
theorem arrives_turns {c : Expr} {body : Stmt} (inside : setting.Concludes body) (fuel : Nat) (m : Machine σ)
    (enough : m.run.budget ≤ fuel) :
    setting.Arrives 2 (6 * body.size + 1) ⟨.answer true, .turns c body :: pending, m⟩
      (.answered pending (setting.turns c body fuel m)) := by
  have begins : setting.next ⟨.answer true, .turns c body :: pending, m⟩ =
      if m.run.exhausted then ⟨.answer false, pending, m⟩ else ⟨.turn c body, pending, m.onRun RunState.charge⟩ := rfl
  induction fuel generalizing m with
  | zero =>
    have used : m.run.exhausted = true := decide_eq_true (by simpa using enough)
    rw [used, if_pos rfl] at begins
    exact last_step begins rfl (by omega)
  | succ fuel ih =>
    rw [turns_succ]
    cases paid : m.run.exhausted with
    | true =>
      rw [paid, if_pos rfl] at begins
      exact last_step begins rfl (by omega)
    | false =>
      rw [paid, if_neg (by simp)] at begins
      have sized := body.size_eq
      -- The unit that a turn spends pays for its own test and walk, and for coming back to the next turn.
      refine pay (l := 6 * body.size + 2) begins rfl ?_ (by omega)
      refine either rfl (fun m' holds => ⟨rfl, ?_⟩) fun m' fails => ⟨rfl, ?_⟩
      · have first := (inside (.turns c body :: pending) m').mono le_rfl
          (show 6 * body.size ≤ 6 * body.size + 1 by omega)
        refine (first.andThen rfl (l := 2) (by omega) fun m'' done => ih m'' ?_ rfl).mono (by omega) le_rfl
        have less := setting.budget_of_done done
        rw [setting.run_of_test holds] at less
        have charged : (m.onRun RunState.charge).run.budget = m.run.budget - 1 := rfl
        push_cast at enough
        show m''.run.budget ≤ fuel
        exact less.trans (by show (m.onRun RunState.charge).run.budget ≤ fuel; omega)
      · exact (Arrives.refl _).mono (by omega) le_rfl

/-- A live turn of a foreach loop pays for the walk through its body. -/
theorem arrives_visits_live {name : String} {body : Stmt} (inside : setting.Concludes body) (entities : List EntityId)
    (sought : Bool) (m : Machine σ) (live : m.run.finished = true) :
    setting.Arrives 1 (6 * body.size + 1) ⟨.answer true, .visits name body entities sought :: pending, m⟩
      (.answered pending (setting.visits name body entities m)) := by
  have nobody : m.run.seeking = false := by simp [RunState.seeking, live]
  induction entities generalizing m sought with
  | nil =>
    exact last_step (by simp [next, Moment.goOn, nobody, Moment.answered]) rfl le_rfl
  | cons e rest ih =>
    have begins : setting.next ⟨.answer true, .visits name body (e :: rest) sought :: pending, m⟩ =
        if m.run.exhausted then ⟨.answer false, pending, m⟩
        else ⟨.visit name e body, .visits name body rest false :: pending, m.onRun RunState.charge⟩ := by
      simp [next, Moment.goOn, nobody]
    rw [visits_cons, nobody]
    cases paid : m.run.exhausted with
    | true =>
      rw [paid, if_pos rfl] at begins
      exact last_step begins rfl le_rfl
    | false =>
      rw [paid, if_neg (by simp)] at begins
      have sized := body.size_eq
      refine pay (l := 6 * body.size + 1) begins rfl ?_ (by omega)
      refine step (n := 6 * body.size) rfl rfl ?_
      have first := (inside (.visits name body rest false :: pending) ((m.onRun RunState.charge).bound name e)).mono
        le_rfl (show 6 * body.size ≤ 6 * body.size + 1 by omega)
      refine (first.andThen rfl (l := 1) le_rfl fun m' done => ?_).mono (by omega) le_rfl
      have kept := setting.keeps_finished.execute body ((m.onRun RunState.charge).bound name e) live
      rw [done] at kept
      exact ih false m' kept (by simp [RunState.seeking, show m'.run.finished = true from kept])

/-- The first turn of a foreach loop may seek; only a live one is followed by others. -/
theorem arrives_visits {name : String} {body : Stmt} (inside : setting.Concludes body) (entities : List EntityId)
    (m : Machine σ) :
    setting.Arrives (6 * body.size + 2) (6 * body.size + 1)
      ⟨.answer true, .visits name body entities false :: pending, m⟩
      (.answered pending (setting.visits name body entities m)) := by
  have sized := body.size_eq
  cases live : m.run.finished with
  | true => exact (arrives_visits_live inside entities false m live).mono (by omega) le_rfl
  | false =>
    have seeking : m.run.seeking = true := by simp [RunState.seeking, live]
    cases entities with
    | nil => exact last_step rfl rfl (by omega)
    | cons e rest =>
      have begins : setting.next ⟨.answer true, .visits name body (e :: rest) false :: pending, m⟩ =
          if m.run.exhausted then ⟨.answer false, pending, m⟩
          else ⟨.visit name e body, .visits name body rest true :: pending, m⟩ := by
        simp [next, Moment.goOn, seeking]
      rw [visits_cons, seeking]
      cases paid : m.run.exhausted with
      | true =>
        rw [paid, if_pos rfl] at begins
        exact last_step begins rfl (by omega)
      | false =>
        rw [paid, if_neg (by simp)] at begins
        -- No unit is spent on a turn that seeks: its walk is what the bound has over that of a live loop.
        refine step (n := 6 * body.size + 1) begins rfl ?_
        refine step (n := 6 * body.size) rfl rfl ?_
        have first := (inside (.visits name body rest true :: pending) (m.bound name e)).mono
          le_rfl (show 6 * body.size ≤ 6 * body.size + 1 by omega)
        refine (first.andThen rfl (l := 1) le_rfl fun m' done => ?_).mono (by omega) le_rfl
        cases found : m'.run.seeking with
        | true =>
          exact last_step (by simp [next, Moment.goOn, found, Moment.answered]) rfl le_rfl
        | false => exact arrives_visits_live inside rest true m' (finished_of_not_seeking (by simp [found]))

/-- A seeking run walks both branches of an if, a live one takes the branch that its test chooses. -/
theorem arrives_branch {id : NodeId} {at? : Option Position} {c : Expr} {yes no : Stmt} (ifYes : setting.Concludes yes)
    (ifNo : setting.Concludes no) (m : Machine σ) :
    setting.Arrives (6 * yes.size + 6 * no.size) (6 * yes.size + 6 * no.size)
      ⟨.enter (.branch id at? c yes no), pending, m⟩
      (.answered pending (setting.interior (.branch id at? c yes no) m)) := by
  have sizedYes := yes.size_eq
  have sizedNo := no.size_eq
  rw [interior]
  cases seeking : m.run.seeking with
  | true =>
    have begins : setting.next ⟨.enter (.branch id at? c yes no), pending, m⟩ =
        ⟨.come yes, .other no :: pending, m⟩ := by
      simp [next, enter, seeking]
    refine (step (n := 6 * yes.size - 1 + 6 * no.size) begins rfl ?_).mono (by omega) le_rfl
    have first := (ifYes (.other no :: pending) m).mono le_rfl
      (show 6 * yes.size ≤ 6 * yes.size + 6 * no.size by omega)
    refine first.andThen rfl (by omega) fun m' _ => ?_
    cases still : m'.run.seeking with
    | true =>
      have goes : setting.next ⟨.answer true, .other no :: pending, m'⟩ = ⟨.come no, pending, m'⟩ := by
        simp [next, Moment.goOn, still]
      have second := (ifNo pending m').mono le_rfl (show 6 * no.size ≤ 6 * yes.size + 6 * no.size by omega)
      exact (step goes rfl second).mono (by omega) le_rfl
    | false =>
      have goes : setting.next ⟨.answer true, .other no :: pending, m'⟩ = ⟨.answer true, pending, m'⟩ := by
        simp [next, Moment.goOn, still]
      exact last_step goes rfl (by omega)
  | false =>
    have begins : setting.next ⟨.enter (.branch id at? c yes no), pending, m⟩ = ⟨.choose c yes no, pending, m⟩ := by
      simp [next, enter, seeking]
    refine (step (n := 6 * yes.size + 6 * no.size - 5) begins rfl ?_).mono (by omega) le_rfl
    refine (either (n := 6 * yes.size + 6 * no.size - 6) rfl (fun m' _ => ⟨rfl, ?_⟩)
      fun m' _ => ⟨rfl, ?_⟩).mono (by omega) le_rfl
    · exact (ifYes pending m').mono (by omega) (by omega)
    · exact (ifNo pending m').mono (by omega) (by omega)

/-- A seeking run walks the body of a while loop before its turns. -/
theorem arrives_loop {id : NodeId} {at? : Option Position} {c : Expr} {body : Stmt} (inside : setting.Concludes body)
    (m : Machine σ) :
    setting.Arrives (6 * body.size + 3) (6 * body.size + 1) ⟨.enter (.loop id at? c body), pending, m⟩
      (.answered pending (setting.interior (.loop id at? c body) m)) := by
  have sizedBody := body.size_eq
  have turns : ∀ m' : Machine σ, setting.Arrives 2 (6 * body.size + 1) ⟨.answer true, .turns c body :: pending, m'⟩
      (.answered pending (setting.turns c body m'.run.budget.toNat m')) :=
    fun m' => arrives_turns inside _ m' (Int.self_le_toNat _)
  rw [interior]
  cases seeking : m.run.seeking with
  | true =>
    have begins : setting.next ⟨.enter (.loop id at? c body), pending, m⟩ =
        ⟨.come body, .walked c body :: pending, m⟩ := by
      simp [next, enter, seeking]
    refine step (n := 6 * body.size + 2) begins rfl ?_
    have first := (inside (.walked c body :: pending) m).mono le_rfl
      (show 6 * body.size ≤ 6 * body.size + 1 by omega)
    refine (first.andThen rfl (l := 3) (by omega) fun m' _ => ?_).mono (by omega) le_rfl
    cases still : m'.run.seeking with
    | true =>
      have goes : setting.next ⟨.answer true, .walked c body :: pending, m'⟩ = ⟨.answer true, pending, m'⟩ := by
        simp [next, Moment.goOn, still]
      exact last_step goes rfl (by omega)
    | false =>
      have goes : setting.next ⟨.answer true, .walked c body :: pending, m'⟩ =
          ⟨.answer true, .turns c body :: pending, m'⟩ := by
        simp [next, Moment.goOn, still]
      exact step goes rfl (turns m')
  | false =>
    have begins : setting.next ⟨.enter (.loop id at? c body), pending, m⟩ =
        ⟨.answer true, .turns c body :: pending, m⟩ := by
      simp [next, enter, seeking]
    exact (step begins rfl (turns m)).mono (by omega) le_rfl

theorem arrives_each {id : NodeId} {at? : Option Position} {kind : LoopKind} {name : String} {body : Stmt}
    (inside : setting.Concludes body) (m : Machine σ) :
    setting.Arrives (6 * body.size + 3) (6 * body.size + 1) ⟨.enter (.each id at? kind name body), pending, m⟩
      (.answered pending (setting.interior (.each id at? kind name body) m)) := by
  rw [interior]
  cases fetched : setting.members at? kind name m with
  | ok entities =>
    have begins : setting.next ⟨.enter (.each id at? kind name body), pending, m⟩ =
        ⟨.answer true, .visits name body entities false :: pending, m⟩ := by
      simp [next, enter, fetched]
    exact step begins rfl (arrives_visits inside entities m)
  | error f =>
    have begins : setting.next ⟨.enter (.each id at? kind name body), pending, m⟩ = ⟨.fault f, pending, m⟩ := by
      simp [next, enter, fetched]
    exact last_step begins rfl (by omega)

/-- How far single steps get inside a conditional statement. -/
theorem arrives_interior {s : Stmt} {id : NodeId} (own : s.id? = some id)
    (inside : ∀ t ∈ s.children, setting.Concludes t) (m : Machine σ) :
    setting.Arrives (6 * s.size - 3) (6 * s.size) ⟨.enter s, pending, m⟩
      (.answered pending (setting.interior s m)) := by
  have sized := s.size_eq
  cases s with
  | branch _ at? c yes no =>
    simp only [Stmt.children, Stmt.sizes_cons, Stmt.sizes_nil] at sized
    have ifYes := inside yes (by simp [Stmt.children])
    exact (arrives_branch ifYes (inside no (by simp [Stmt.children])) m).mono (by omega) (by omega)
  | loop _ at? c body =>
    simp only [Stmt.children, Stmt.sizes_cons, Stmt.sizes_nil] at sized
    exact (arrives_loop (inside body (by simp [Stmt.children])) m).mono (by omega) (by omega)
  | each _ at? kind name body =>
    simp only [Stmt.children, Stmt.sizes_cons, Stmt.sizes_nil] at sized
    exact (arrives_each (inside body (by simp [Stmt.children])) m).mono (by omega) (by omega)
  | sequence | assignment | print | action | placeholder => cases own

/-- A leaf takes at most two steps; if it takes effect, it pays for them. -/
theorem concludes_leaf {s : Stmt} (isLeaf : s.isLeaf = true) : setting.Concludes s := by
  intro pending m
  have sized := s.size_eq
  have comes : setting.next ⟨.come s, pending, m⟩ = _ := Moment.come_leaf isLeaf pending m
  rw [setting.execute_leaf isLeaf]
  cases paid : m.run.exhausted with
  | true =>
    rw [paid, if_pos rfl] at comes
    exact last_step comes rfl (by omega)
  | false =>
    cases seeking : m.run.seeking with
    | true =>
      rw [paid, seeking, if_neg (by simp), if_pos rfl] at comes
      exact last_step comes rfl (by omega)
    | false =>
      rw [paid, seeking, if_neg (by simp), if_neg (by simp)] at comes
      refine pay (l := 1) comes rfl ?_ (by omega)
      have spared := Exec.SparesRun.effect setting s (m.onRun RunState.charge)
      refine last_step rfl ?_ le_rfl
      cases ran : EStateM.run (setting.effect s) (m.onRun RunState.charge) <;>
        (rw [ran] at spared; exact congrArg RunState.budget spared)

/-- Single steps execute a statement. The induction is on the tree; inside a while loop it is on the turns, which the
budget bounds. -/
theorem concludes (s : Stmt) : setting.Concludes s := by
  induction s using Stmt.conditional_induction with
  | sequence at? body ih =>
    intro pending m
    have sized := Stmt.size_eq (.sequence at? body)
    rw [Stmt.children] at sized
    rw [execute_sequence]
    exact (step rfl rfl (arrives_rest ih m)).mono (by omega) (by omega)
  | conditional s id own ih =>
    intro pending m
    have sized := s.size_eq
    exact (conditional own (arrives_interior own ih (m.entered id))).mono (by omega) le_rfl
  | leaf s isLeaf => exact concludes_leaf isLeaf
  | placeholder fault =>
    intro pending m
    have sized := Stmt.size_eq (.placeholder fault)
    rw [execute_placeholder]
    exact last_step rfl rfl (by omega)

end Setting

namespace Stage

variable {σ : Type}

/-- What a run gives back and leaves behind, given its answer. -/
def concluded (s : Stage σ) : Answer σ → Except Fault Unit × Stage σ
  | .ok true m => (.ok (), s.absorb (completed m))
  | .ok false m => (.ok (), s.absorb (suspended m))
  | .error f m => (.error f, { s.absorb m with program := (s.absorb m).program.terminate })

/-- The moments of a run lead to its answer, also when the root is executed twice. -/
theorem arrives_answer (game : Game σ) (s : Stage σ) :
    (s.setting game).Arrives (12 * s.program.root.size) (6 * s.program.root.size) (s.moment game 0)
      (.answered [] (s.answer game)) := by
  have sized := s.program.root.size_eq
  have walk := (s.setting game).concludes s.program.root [.root s.program.root]
  refine ((walk s.started).andThen rfl (l := 6 * s.program.root.size + 1) (by omega) fun m _ => ?_).mono
    (by omega) le_rfl
  cases seeking : m.run.seeking with
  | true =>
    have again : (s.setting game).next ⟨.answer true, [.root s.program.root], m⟩ =
        ⟨.come s.program.root, [.root s.program.root], m.restarted⟩ := by
      simp [Setting.next, Moment.goOn, seeking]
    refine .step again rfl (n := 6 * s.program.root.size) ?_
    rw [if_pos rfl, ← andThen_done ((s.setting game).execute s.program.root m.restarted)]
    refine ((walk m.restarted).andThen rfl (l := 1) le_rfl fun m' done => ?_).mono (by omega) le_rfl
    -- A restarted run is live to its end, so the root is not executed a third time.
    have live := (s.setting game).execute_live (m := m.restarted) ⟨rfl, rfl⟩ s.program.root
    rw [done] at live
    exact .last_step (by simp [Setting.next, Moment.goOn, RunState.seeking, live.1, Moment.answered]) rfl le_rfl
  | false => exact .last_step (by simp [Setting.next, Moment.goOn, seeking, Moment.answered]) rfl (by omega)

/-- A run spends at most its budget. -/
theorem spent_le (game : Game σ) (s : Stage σ) {spent : Nat}
    (left : s.started.run.budget = (Exec.machineOf (s.answer game)).run.budget + (spent : Nat)) :
    spent ≤ s.program.maxStatements.toNat := by
  have floor : ∀ limit : Int, limit ≤ 0 → (s.setting game).Keeps (limit ≤ ·.run.budget) (limit ≤ ·.run.budget)
      (limit ≤ ·.run.budget) := by
    intro limit low
    refine @Setting.keeps_of_run σ (s.setting game) (limit ≤ ·.budget) (limit ≤ ·.budget) (limit ≤ ·.budget)
      (fun _ h => h) (fun _ h => h) (fun run _ paid => ?_) (fun _ h => h) fun run node h => ?_
    · have positive : ¬ run.budget ≤ 0 := of_decide_eq_false paid
      show limit ≤ run.budget - 1
      omega
    · rw [RunState.budget_suspendAt]
      exact h
  have kept := (floor (min 0 s.program.maxStatements) (min_le_left _ _)).execute s.program.root
  have within : (s.answer game).Within (min 0 s.program.maxStatements ≤ ·.run.budget)
      (min 0 s.program.maxStatements ≤ ·.run.budget) (min 0 s.program.maxStatements ≤ ·.run.budget) := by
    refine Meets.andThen (kept s.started (min_le_right _ _)) fun m h => ?_
    split
    · exact kept m.restarted h
    · exact h
  have bound := Exec.of_within within
  have start : s.started.run.budget = s.program.maxStatements := rfl
  omega

/-- The last moment of a run gives its answer, after a number of steps that the tree and the budget bound. -/
theorem exists_last (game : Game σ) (s : Stage σ) :
    ∃ last ≤ 6 * s.program.root.size * (s.program.maxStatements.toNat + 2),
      s.moment game last = .answered [] (s.answer game) := by
  obtain ⟨steps, spent, reached, left, bound⟩ := s.arrives_answer game
  refine ⟨steps, ?_, reached⟩
  have paid : spent ≤ s.program.maxStatements.toNat := by
    refine s.spent_le game (left.trans ?_)
    cases s.answer game <;> rfl
  have most : 6 * s.program.root.size * spent ≤ 6 * s.program.root.size * s.program.maxStatements.toNat :=
    Nat.mul_le_mul_left _ paid
  rw [Nat.mul_add]
  omega

theorem run_eq_concluded {game : Game σ} {s : Stage σ} (ready : s.program.refusal? game.world s.host = none) :
    s.run game = s.concluded (s.answer game) := by
  rw [run_eq game s ready]
  obtain ⟨m, ran⟩ | ⟨m, ran⟩ | ⟨f, m, ran⟩ := (s.answer game).cases_on
  all_goals
    rw [ran]
    rfl

/-- Every run ends. Whatever the program, its variables, its cursor and its budget are, and whatever the world and the
handler answer, a run is refused at once, or single steps come to an answer, which is what the run gives back. The
number of steps is bounded by the tree and the budget alone. -/
theorem run_ends (game : Game σ) (s : Stage σ) :
    (∃ cause, s.program.refusal? game.world s.host = some cause ∧ s.run game = (.error { cause }, s)) ∨
    s.program.refusal? game.world s.host = none ∧
      ∃ last ≤ 6 * s.program.root.size * (s.program.maxStatements.toNat + 2), ∃ answer,
        (s.moment game last).outcome? = some answer ∧ s.run game = s.concluded answer := by
  cases ready : s.program.refusal? game.world s.host with
  | some cause => exact .inl ⟨cause, rfl, run_of_refusal ready⟩
  | none =>
    obtain ⟨last, bound, reached⟩ := s.exists_last game
    refine .inr ⟨rfl, last, bound, s.answer game, ?_, run_eq_concluded ready⟩
    rw [reached, Moment.outcome?_answered]

end Stage

end WormLang
