import WormLang.Sandbox.Arena

/-!
Faults of host data. Where a host put data in the place of a field, reading it can fail, since the data need not have
the form of that field. Such a fault has no place in a program: it tells of a conversion, an index or an operation that
the data does not have. Only a number that is to be stored as a value is refused with a fault of the program.
-/
namespace WormLang

/-- What fails, if it fails, with a fault of some kinds. -/
def FailsAs {α : Type} (kinds : FaultKind → Prop) (x : Except Fault α) : Prop := ∀ f, x = .error f → kinds f.kind

namespace FailsAs

variable {α β : Type} {kinds wider : FaultKind → Prop}

theorem ok (a : α) : FailsAs kinds (.ok a : Except Fault α) := fun _ same => by cases same

theorem error {f : Fault} (kind : kinds f.kind) : FailsAs kinds (.error f : Except Fault α) := fun _ same => by
  cases same
  exact kind

theorem mono {x : Except Fault α} (fails : FailsAs kinds x) (among : ∀ kind, kinds kind → wider kind) :
    FailsAs wider x := fun f failed => among _ (fails f failed)

theorem bind {x : Except Fault α} {next : α → Except Fault β} (first : FailsAs kinds x)
    (second : ∀ a, FailsAs kinds (next a)) : FailsAs kinds (x >>= next) := by
  cases x with
  | ok a => exact second a
  | error f => exact error (first f rfl)

theorem foldlM {step : β → α → Except Fault β} (each : ∀ b a, FailsAs kinds (step b a)) (items : List α) (b : β) :
    FailsAs kinds (items.foldlM step b) := by
  induction items generalizing b with
  | nil => exact ok b
  | cons a rest ih =>
    rw [List.foldlM_cons]
    exact (each b a).bind ih

end FailsAs

/-- What fails, if it fails, with a fault that knows no place in a program. -/
def Unlocated {α : Type} (x : Except Fault α) : Prop := FailsAs (·.isLocated = false) x

theorem Quantity.unlocated_toDouble (q : Quantity) : Unlocated q.toDouble := by
  cases q with
  | whole n =>
    simp only [toDouble]
    cases Number.ofInt? n with
    | some x => exact .ok x
    | none => exact .error rfl
  | double x => exact .ok x

namespace Datum

variable (owner : Datum → String) (d : Datum)

theorem unlocated_toDouble : Unlocated (d.toDouble owner) := by
  unfold toDouble
  split
  · split
    · exact .ok _
    · exact .error rfl
  · exact Quantity.unlocated_toDouble _
  · exact .error rfl

theorem unlocated_pair : Unlocated (d.pair owner) := by
  unfold pair
  split
  · exact .ok _
  · exact .error (by split <;> rfl)
  · exact .error rfl

/-- Data that is no point is refused as data. -/
theorem unlocated_toPoint : Unlocated (d.toPoint owner) :=
  (unlocated_pair owner d).bind fun _ => (unlocated_toDouble owner _).bind fun _ =>
    (unlocated_toDouble owner _).bind fun _ => .ok _

/-- Data that nothing can be added to is refused as data. -/
theorem unlocated_summand : Unlocated (d.summand owner) := by
  unfold summand
  split
  · exact Quantity.unlocated_toDouble _
  · exact .error rfl
  · exact .error rfl

theorem unlocated_part (i : Nat) : Unlocated (d.part owner i) := by
  unfold part
  split
  · split
    · exact .ok _
    · exact .error rfl
  · exact .error rfl

end Datum

/-- What is read as a number fails as a value that cannot be stored, or as host data. -/
def Unreadable {α : Type} (x : Except Fault α) : Prop :=
  FailsAs (fun kind => kind = .valueType ∨ kind.isLocated = false) x

theorem Unlocated.unreadable {α : Type} {x : Except Fault α} (unlocated : Unlocated x) : Unreadable x :=
  unlocated.mono fun _ => .inr

/-- Data that is no number is refused as a value, and a number that is too large as data. -/
theorem Value.unreadable_ofDatum (names : Names) (d : Datum) : Unreadable (ofDatum names .number d) := by
  cases d with
  | float x => exact .ok _
  | int n => exact (Quantity.unlocated_toDouble _).unreadable.bind fun _ => .ok _
  | _ => exact .error (.inl rfl)

/-- A query fails on a field as storing a value does, or because the field has no such part. -/
theorem Query.unreadable_readOff (q : Query) (names : Names) (d : Datum) : Unreadable (q.readOff names d) := by
  have stored : ∀ item, Unreadable (Value.ofDatum names .number item >>= fun v => pure v.toNumber) := fun item =>
    (Value.unreadable_ofDatum names item).bind fun _ => .ok _
  cases q with
  | x | y => exact (Datum.unlocated_part _ d _).unreadable.bind stored
  | _ => exact stored d

/-- The name of a being that is no text is refused as data. -/
theorem Arena.unlocated_textOf (a : Arena) (id : EntityId) : Unlocated (a.textOf id) := by
  unfold textOf
  split
  · exact .ok _
  · exact .error rfl
  · exact .ok _

end WormLang
