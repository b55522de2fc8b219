import WormLang.CommandLine
import WormLang.Proofs.Execution.Lifecycle
import WormLang.Proofs.Soundness.Program
import WormLang.Proofs.Soundness.Sandbox

/-!
Faults of programs in the sandbox. A fault that knows a place in a program is the program's own, and the command that
tries a program reports it. In a natural world, with a sturdy worm and a recording handler, a program strays from that
in three ways only, each time with a number that is put to a use which does not take every double: a shot with a power
that has no whole part, a search in an infinite direction, and a turn so large that its sixtieths of a full turn cannot
be counted.
-/
namespace WormLang

open Answer

/-- How a statement can fail with a fault that is not the program's. -/
inductive Stmt.MayStray : Stmt → Cause → Prop
  | search {s : Stmt} {e inner : Expr} {at? : Option Position} (directly : e ∈ s.expressions)
    (among : .search at? inner ∈ e.walk) : MayStray s .mathDomain
  | infinite {at? : Option Position} {power : Expr} : MayStray (.action at? (.fire power)) .infinityToInteger
  | undefined {at? : Option Position} {power : Expr} : MayStray (.action at? (.fire power)) .nanToInteger
  | turn {at? : Option Position} {angle : Expr} : MayStray (.action at? (.turn angle)) .infinityToInteger

/-- How a statement has failed with a fault that is not the program's. All of its operands had the right types. -/
inductive Setting.Strays (setting : Setting Sandbox) (m : Machine Sandbox) : Stmt → Cause → Prop
  /-- A search in an infinite direction. The bearings of what is seen are never infinite, but that is not known of the
  function on doubles. -/
  | search {s : Stmt} {e inner : Expr} {at? : Option Position} {v : Value} {log log' : Log} {me : EntityId}
    {heading : Float} (directly : e ∈ s.expressions) (among : .search at? inner ∈ e.walk)
    (value : EStateM.run ((setting.env m).eval inner) log = .ok v log')
    (facing : setting.game.world.heading m.host me = .ok (.ok heading))
    (endless : Number.IsInfinite (heading + v.toNumber) ∨ ∃ y x, Number.IsInfinite (Float.atan2 y x)) :
    Strays setting m s .mathDomain
  /-- A shot with infinite power. -/
  | infinite {at? : Option Position} {power : Expr} {v : Value} {log log' : Log}
    (value : EStateM.run ((setting.env m).eval power) log = .ok v log') (size : Number.IsInfinite v.toNumber) :
    Strays setting m (.action at? (.fire power)) .infinityToInteger
  /-- A shot with a power that is no number. -/
  | undefined {at? : Option Position} {power : Expr} {v : Value} {log log' : Log}
    (value : EStateM.run ((setting.env m).eval power) log = .ok v log') (size : Number.parts v.toNumber = .nan) :
    Strays setting m (.action at? (.fire power)) .nanToInteger
  /-- A turn by an angle that is finite, but has too many sixtieths of a full turn. -/
  | turn {at? : Option Position} {angle : Expr} {v : Value} {log log' : Log} {before : Machine Sandbox}
    (value : EStateM.run ((setting.env before).eval angle) log = .ok v log') (finite : v.toNumber.isFinite = true)
    (size : Number.IsInfinite (60.0 * v.toNumber.abs / Angle.fullTurn)) :
    Strays setting m (.action at? (.turn angle)) .infinityToInteger

namespace Setting

variable {setting : Setting Sandbox} {m : Machine Sandbox} {s : Stmt} {me : EntityId}

theorem Strays.mayStray {cause : Cause} (strays : setting.Strays m s cause) : s.MayStray cause := by
  cases strays with
  | search directly among => exact .search directly among
  | infinite => exact .infinite
  | undefined => exact .undefined
  | turn => exact .turn

/-- In a natural world a statement fails by itself for want of a capability, or it strays. -/
theorem Raises.strays {cause : Cause} (raises : setting.Raises Sandbox.arena m s cause)
    (natural : m.host.arena.Natural) : cause.kind = .capability ∨ setting.Strays m s cause := by
  cases raises with
  | operator directly among raises =>
    cases raises with
    | query kind | sameTeam kind | blind kind => exact .inl kind
    | search value facing vain =>
      cases vain with
      | lacks lacks => exact .inl (natural.capability_of_lacks lacks)
      | endless endless => exact .inr (.search directly among value facing endless)
  | member lacks => exact .inl (natural.capability_of_lacks lacks)
  | infinite value size => exact .inr (.infinite value size)
  | undefined value size => exact .inr (.undefined value size)

/-- In a natural world no statement trips over what a host put on a being. -/
theorem Trips.not_natural {f : Fault} (trips : setting.Trips Sandbox.arena m s f) : ¬ m.host.arena.Natural := by
  intro natural
  have tight : ∀ id field d, m.host.arena.loose? id field ≠ some d := by
    intro id field d put
    cases put.symm.trans (natural.tight id field)
  cases trips with
  | operator directly among trips =>
    cases trips with
    | query misreads =>
      obtain ⟨-, put, -⟩ := misreads
      exact tight _ _ _ put
    | direction bound put unfit => exact tight _ _ _ put
    | position displaces =>
      obtain ⟨-, put, -⟩ := displaces
      exact tight _ _ _ put
  | print value renamed unfit => cases renamed.symm.trans (natural.renamed? _)

/-- With a recording handler a statement fails with a fault of the program, or it strays. -/
theorem Fails.strays {f : Fault} (fails : setting.Fails Sandbox.arena me (Sandbox.Homely me) m s f)
    (game : setting.game = Sandbox.game) (homely : m.host.Homely me) :
    f.kind.isLocated = true ∨ setting.Strays m s f.cause := by
  cases fails with
  | raises raises =>
    obtain kind | strays := raises.strays homely.arena.natural
    · exact .inl (by rw [Fault.kind, kind]; rfl)
    · exact .inr strays
  | trips trips => exact absurd homely.arena.natural trips.not_natural
  | @deed at? a deed f before occurred placed asks failed =>
    rw [game] at failed
    obtain ⟨angle, g, rfl, endless, performed⟩ | ⟨done, s', performed, -⟩ := occurred.perform_cases deed
    · obtain ⟨finite, size, cause⟩ := Angle.turnCost_error_iff.mp endless
      have same := Except.error.inj (congrArg Prod.fst (performed.symm.trans failed))
      rw [← same, cause]
      cases asks with
      | turn value => exact .inr (.turn value finite size)
    · cases congrArg Prod.fst (performed.symm.trans failed)

end Setting

theorem Program.kind_of_refusal {σ : Type} {p : Program} {world : World σ} {host : σ} {cause : Cause}
    (refused : p.refusal? world host = some cause) : cause.kind = .illegalState := by
  unfold refusal? at refused
  split at refused
  · cases refused
    rfl
  · split at refused
    · cases refused
      rfl
    · split at refused <;> cases refused
      rfl

namespace Stage

variable {p : Program} {me : EntityId} {s : Stage Sandbox}

/-- A run in the sandbox fails with a fault of the program, or one of its statements has strayed. -/
theorem InOrder.strays (inOrder : s.InOrder p me (Sandbox.Homely me)) (typed : p.root.WellTyped p.globals)
    (checked : p.root.Checked p.globals) {f : Fault} (failed : (s.run Sandbox.game).1 = .error f) :
    f.kind.isLocated = true ∨ ∃ m, s.answer Sandbox.game = .error f m ∧
      ∃ t ∈ p.root.walk, (s.setting Sandbox.game).Strays m t f.cause := by
  obtain refused | ⟨m, ended, safe, t, inside, fails⟩ :=
    inOrder.fault (Sandbox.orderly_homely me) typed checked failed
  · left
    rw [Fault.kind, Program.kind_of_refusal refused]
    rfl
  · obtain located | strays := fails.strays rfl safe.occurs
    · exact .inl located
    · exact .inr ⟨m, ended, t, inside, strays⟩

end Stage

namespace CommandLine

/-- What the trial of a program tells: that it went well, that a run failed with a fault of the program, which is in the
last line, or a fault that is not the program's, with which one of its statements may stray. -/
inductive Report.Tells (p : Program) : Report → Prop
  | well {lines : List String} : Tells p { lines }
  | failure {lines : List String} {turn : Nat} {f : Fault} (located : f.kind.isLocated = true) :
    Tells p {
      lines := lines ++ ["turn " ++ toString turn ++ ": " ++ f.kind.name ++ " " ++ f.text]
      ending := .exit 1 "" }
  | stray {lines : List String} {f : Fault} {t : Stmt} (inside : t ∈ p.root.walk) (strays : t.MayStray f.cause) :
    Tells p { lines, ending := .fault f }

theorem Report.Tells.behind {p : Program} {r : Report} (tells : r.Tells p) (before : List String) :
    Report.Tells p { r with lines := before ++ r.lines } := by
  cases tells with
  | well => exact .well
  | failure located =>
    rw [← List.append_assoc]
    exact .failure located
  | stray inside strays => exact .stray inside strays

variable {p : Program} {s : Stage Sandbox}

/-- A turn can begin, and the program is in order then. -/
theorem exists_startTurn (inOrder : s.InOrder p trialWorm (Sandbox.Homely trialWorm)) :
    ∃ s', startTurn s = .ok s' ∧ s'.InOrder p trialWorm (Sandbox.Homely trialWorm) := by
  obtain ⟨root, bound, fits, ⟨records, keeper⟩, home⟩ := inOrder
  obtain ⟨arena, started, home', -⟩ := home.exists_startTurn
  refine ⟨{ s with host := { arena, keeper := .recording {} }, log := #[] }, ?_, root, bound, fits, ⟨{}, rfl⟩, home'⟩
  unfold startTurn
  rw [started, keeper]
  rfl

theorem tells_runTurns (typed : p.root.WellTyped p.globals) (checked : p.root.Checked p.globals) (verbose : Bool)
    (turn count : Nat) (inOrder : s.InOrder p trialWorm (Sandbox.Homely trialWorm)) :
    (runTurns verbose turn s count).Tells p := by
  induction count generalizing turn s with
  | zero => exact .well
  | succ count ih =>
    obtain ⟨s', started, inOrder'⟩ := exists_startTurn inOrder
    have after := inOrder'.run (Sandbox.orderly_homely trialWorm) typed checked
    have failing := fun f => inOrder'.strays typed checked (f := f)
    unfold runTurns
    rw [started]
    dsimp only
    cases ran : Stage.run Sandbox.game s' with
    | mk answer later =>
      rw [ran] at after failing
      cases answer with
      | ok => exact (ih (turn + 1) after).behind _
      | error f =>
        dsimp only
        split
        · next located => exact .failure located
        · next foreign =>
          obtain located | ⟨m, -, t, inside, strays⟩ := failing f rfl
          · exact absurd located foreign
          · exact .stray inside strays.mayStray

theorem exists_trialArena {points : Float} (finite : points.isFinite = true) :
    ∃ arena, trialArena points = .ok arena ∧ arena.Homely trialWorm := by
  obtain ⟨d, north⟩ : ∃ d, Angle.normalize 0.0 = .ok d := by
    cases direction : Angle.normalize 0.0 with
    | ok d => exact ⟨d, rfl⟩
    | error f =>
      obtain ⟨negative, size⟩ := (Angle.normalize_error direction).2
      cases size
  obtain ⟨w, made⟩ : ∃ w, Worm.make 0.0 0.0 0.0 0.5 100.0 points none "self" = .ok w := by
    rw [Worm.make_eq, north]
    exact ⟨_, rfl⟩
  refine ⟨{ beings := #[.worm w], members := [trialWorm] }, ?_, ⟨rfl, rfl, ?_⟩, w, rfl, .make finite made⟩
  · unfold trialArena
    rw [made]
    rfl
  · intro id placed
    cases List.mem_singleton.mp (List.contains_iff_mem.mp placed)
    exact .inl ⟨w, rfl⟩

/-- The trial of a program with finite action points tells of every fault of the program. -/
theorem tells_runReport {source : String} {file : Option String} {handler? : Option HandlerId}
    {budget : Except Fault Int} {bound : Program} (parsed : Program.parse source file handler? budget = .ok p)
    (binds : p.bind (some trialWorm) none = .ok bound) (verbose : Bool) (turns : Int) {points : Float}
    (finite : points.isFinite = true) : (runReport verbose turns points p).Tells p := by
  obtain ⟨arena, made, home⟩ := exists_trialArena finite
  unfold runReport
  rw [made, binds]
  exact tells_runTurns (Program.wellTyped_of_parse parsed) (Program.checked_of_parse parsed) verbose 1 turns.toNat
    (Stage.inOrder_of_bind parsed binds ⟨⟨{}, rfl⟩, home⟩ #[])

end CommandLine

namespace Sandbox

/-- A host gives the worm its points back, then runs the program, turn after turn. -/
def turns (me : EntityId) : Nat → List (HostStep Sandbox)
  | 0 => []
  | count + 1 => .world (startTurn me) :: .run :: turns me count

theorem lawful_startTurn (me : EntityId) : (HostStep.world (startTurn me)).Lawful (Homely me) :=
  fun _ homely => homely.startTurn

theorem lawful_turns (me : EntityId) (count : Nat) : ∀ step ∈ turns me count, step.Lawful (Homely me) := by
  induction count with
  | zero => simp [turns]
  | succ count ih =>
    intro step member
    obtain rfl | rfl | later := by simpa [turns] using member
    · exact lawful_startTurn me
    · trivial
    · exact ih step later

end Sandbox

/-- A program that comes out of its text, bound to a sturdy worm among worms and food with a recording handler, fails
with faults of the program in every run of any lawful steps of its host, which turns are, except that one of its
statements may stray. The command that tries it alone in the sandbox reports such a failure, and ends with nothing else
than what a statement has strayed with. -/
theorem Stage.located_or_strays {source : String} {file : Option String} {handler? : Option HandlerId}
    {budget : Except Fault Int} {p : Program} (parsed : Program.parse source file handler? budget = .ok p) :
    (∀ (me : EntityId) (given? : Option HandlerId) (bound : Program), p.bind (some me) given? = .ok bound →
      ∀ host : Sandbox, host.Homely me → ∀ (log : Log) (steps : List (HostStep Sandbox)),
      (∀ step ∈ steps, step.Lawful (Sandbox.Homely me)) → ∀ s : Stage Sandbox,
      s = steps.foldl (HostStep.apply Sandbox.game) { program := bound, host, log } →
      ∀ f, (s.run Sandbox.game).1 = .error f →
      f.kind.isLocated = true ∨ ∃ m, s.answer Sandbox.game = .error f m ∧
        ∃ t ∈ p.root.walk, (s.setting Sandbox.game).Strays m t f.cause) ∧
    ∀ bound : Program, p.bind (some CommandLine.trialWorm) none = .ok bound → ∀ (verbose : Bool) (turns : Int)
      (points : Float), points.isFinite = true → (CommandLine.runReport verbose turns points p).Tells p := by
  have typed := Program.wellTyped_of_parse parsed
  have checked := Program.checked_of_parse parsed
  refine ⟨fun me given? bound binds host homely log steps lawful s same f failed => ?_,
    fun bound binds verbose turns points finite => CommandLine.tells_runReport parsed binds verbose turns finite⟩
  have start := inOrder_of_bind parsed binds homely log
  subst same
  exact (start.after (Sandbox.orderly_homely me) typed checked lawful).strays typed checked failed

namespace Marksman

/-- A program that fires with infinite power from its second turn on. -/
def source : String := "bool later; if later then \x7b fire 1 / 0; \x7d later := true;"

def program : Program := (Program.parse source none (some Sandbox.handler) (.ok 9)).toOption.getD default

theorem parse_source : Program.parse source none (some Sandbox.handler) (.ok 9) = .ok program :=
  ok_getD_of_isSome (by decide +kernel)

def bound : Program := { program with context := { entity? := some ⟨0⟩ }, handler? := some ⟨0⟩ }

theorem bind_program : program.bind (some ⟨0⟩) none = .ok bound := by
  have unbound : program.context.entity? = none := by decide +kernel
  have handled : program.handler? = some Sandbox.handler := by decide +kernel
  exact Program.bind_ok_iff.mpr ⟨unbound, _, _, rfl, handled, rfl⟩

def worm : Worm := { (default : Worm) with actionPoints := 10.0, maxActionPoints := 10.0 }

def sandbox : Sandbox where
  arena := { beings := #[.worm worm], members := [⟨0⟩] }

theorem homely_sandbox : sandbox.Homely ⟨0⟩ := by
  refine ⟨⟨{}, rfl⟩, ⟨rfl, rfl, fun id placed => ?_⟩, worm, rfl, by decide, by decide, 0.0, ?_⟩
  · cases List.mem_singleton.mp (List.contains_iff_mem.mp placed)
    exact .inl ⟨_, rfl⟩
  · exact ok_of_toOption (by decide +kernel)

/-- What the host has done when the second turn begins. -/
def steps : List (HostStep Sandbox) := Sandbox.turns ⟨0⟩ 1 ++ [.world (Sandbox.startTurn ⟨0⟩)]

theorem lawful_steps : ∀ step ∈ steps, step.Lawful (Sandbox.Homely ⟨0⟩) := by
  intro step member
  obtain turned | last := List.mem_append.mp member
  · exact Sandbox.lawful_turns ⟨0⟩ 1 step turned
  · rw [List.mem_singleton.mp last]
    exact Sandbox.lawful_startTurn ⟨0⟩

def after : Stage Sandbox := steps.foldl (HostStep.apply Sandbox.game) { program := bound, host := sandbox }

theorem run_after : (after.run Sandbox.game).1 = .error { cause := .infinityToInteger } := by
  decide +kernel

end Marksman

/-- The second turn of the marksman strays with its shot, and with nothing else. -/
theorem marksman_strays :
    Program.parse Marksman.source none (some Sandbox.handler) (.ok 9) = .ok Marksman.program ∧
      Marksman.program.bind (some ⟨0⟩) none = .ok Marksman.bound ∧
      (Marksman.after.run Sandbox.game).1 = .error { cause := .infinityToInteger } ∧
      (∃ m, Marksman.after.answer Sandbox.game = .error { cause := .infinityToInteger } m ∧
        ∃ t ∈ Marksman.program.root.walk, (Marksman.after.setting Sandbox.game).Strays m t .infinityToInteger) ∧
      (CommandLine.runReport false 2 10.0 Marksman.program).Tells Marksman.program := by
  obtain ⟨runs, tried⟩ := Stage.located_or_strays Marksman.parse_source
  refine ⟨Marksman.parse_source, Marksman.bind_program, Marksman.run_after, ?_,
    tried Marksman.bound Marksman.bind_program false 2 10.0 (by decide)⟩
  obtain located | strays := runs ⟨0⟩ none Marksman.bound Marksman.bind_program Marksman.sandbox
    Marksman.homely_sandbox #[] Marksman.steps Marksman.lawful_steps Marksman.after rfl _ Marksman.run_after
  · cases located
  · exact strays

/-- A run in the sandbox may fail with a fault that is not the program's: the second turn of the marksman does, though
its worm is alone at a finite place, with finitely many action points. -/
theorem shot_strays :
    ¬ ∀ (source : String) (file : Option String) (handler? : Option HandlerId) (budget : Except Fault Int)
      (p : Program), Program.parse source file handler? budget = .ok p →
      ∀ (me : EntityId) (given? : Option HandlerId) (bound : Program), p.bind (some me) given? = .ok bound →
      ∀ host : Sandbox, host.Homely me →
      (∀ id, host.arena.isPlaced id = true → ∀ x y, (host.arena.being id).number? .x = some x →
        (host.arena.being id).number? .y = some y → x.isFinite = true ∧ y.isFinite = true) →
      (∀ w, host.arena.being me = .worm w → 0.0 ≤ w.actionPoints) →
      ∀ (count : Nat) (s : Stage Sandbox),
      s = (Sandbox.turns me count ++ [HostStep.world (Sandbox.startTurn me)]).foldl (HostStep.apply Sandbox.game)
        { program := bound, host } →
      ∀ f, (s.run Sandbox.game).1 = .error f → f.kind.isLocated = true := by
  intro contained
  have located := contained _ _ _ _ _ Marksman.parse_source ⟨0⟩ none Marksman.bound Marksman.bind_program
    Marksman.sandbox Marksman.homely_sandbox ?_ ?_ 1 Marksman.after rfl _ Marksman.run_after
  · cases located
  · intro id placed x y atX atY
    cases List.mem_singleton.mp (List.contains_iff_mem.mp placed)
    cases atX
    cases atY
    exact ⟨by decide, by decide⟩
  · intro w same
    cases same
    decide

end WormLang
