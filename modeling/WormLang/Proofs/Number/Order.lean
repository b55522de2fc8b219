import WormLang.Proofs.Number.Size

/-!
The order of doubles. Doubles that are numbers lie in a line: the negative infinity, the negative numbers with the
larger exponents and mantissas first, both zeros at one place, the positive numbers, the infinity. Comparing two of
them compares their places, so that less and at most have the laws of a linear order wherever no nan is about.
-/
namespace WormLang.Number

open Float.Model (UnpackedFloat)

/-- The place of a double in the line, by its sign, its exponent and its mantissa. -/
def rank : UnpackedFloat → ℤ ×ₗ ℤ ×ₗ ℤ
  | .infinity .negative => toLex (-2, toLex (0, 0))
  | .finite .negative m e _ => toLex (-1, toLex (-e, -m))
  | .zero _ | .notANumber => toLex (0, toLex (0, 0))
  | .finite .positive m e _ => toLex (1, toLex (e, m))
  | .infinity .positive => toLex (2, toLex (0, 0))

/-- Comparing two doubles that are numbers compares their places. -/
theorem exists_compare {u v : UnpackedFloat} (first : u ≠ .notANumber) (second : v ≠ .notANumber) :
    ∃ o, u.compare v = some o ∧ (o = .lt ↔ rank u < rank v) ∧ (o = .gt ↔ rank v < rank u) := by
  have lexicographic : ∀ (e e' : Int) (m m' : Nat),
      ((compare e e').then (compare m m') = .lt ↔ e < e' ∨ e = e' ∧ m < m') ∧
        ((compare e e').then (compare m m') = .gt ↔ e' < e ∨ e = e' ∧ m' < m) := by
    intro e e' m m'
    rw [Ordering.then_eq_lt, Ordering.then_eq_gt, Int.compare_eq_lt, Int.compare_eq_gt, Int.compare_eq_eq,
      Nat.compare_eq_lt, Nat.compare_eq_gt]
    exact ⟨Iff.rfl, Iff.rfl⟩
  cases u with
  | notANumber => exact absurd rfl first
  | infinity s =>
    cases v with
    | notANumber => exact absurd rfl second
    | infinity s' => cases s <;> cases s' <;> exact ⟨_, rfl, by decide⟩
    | zero => cases s <;> exact ⟨_, rfl, by simp [rank, Prod.Lex.toLex_lt_toLex]⟩
    | finite s' => cases s <;> cases s' <;> exact ⟨_, rfl, by simp [rank, Prod.Lex.toLex_lt_toLex]⟩
  | zero =>
    cases v with
    | notANumber => exact absurd rfl second
    | zero => exact ⟨_, rfl, by simp [rank]⟩
    | infinity s' | finite s' => cases s' <;> exact ⟨_, rfl, by simp [rank, Prod.Lex.toLex_lt_toLex]⟩
  | finite s m e =>
    cases v with
    | notANumber => exact absurd rfl second
    | infinity s' => cases s <;> cases s' <;> exact ⟨_, rfl, by simp [rank, Prod.Lex.toLex_lt_toLex]⟩
    | zero => cases s <;> exact ⟨_, rfl, by simp [rank, Prod.Lex.toLex_lt_toLex]⟩
    | finite s' m' e' =>
      obtain ⟨less, greater⟩ := lexicographic e e' m m'
      cases s <;> cases s'
      · refine ⟨_, rfl, ?_, ?_⟩
        · rw [Ordering.swap_eq_lt, greater]
          simp [rank, Prod.Lex.toLex_lt_toLex]
        · rw [Ordering.swap_eq_gt, less]
          simp [rank, Prod.Lex.toLex_lt_toLex, eq_comm]
      · exact ⟨_, rfl, by simp [rank, Prod.Lex.toLex_lt_toLex]⟩
      · exact ⟨_, rfl, by simp [rank, Prod.Lex.toLex_lt_toLex]⟩
      · refine ⟨_, rfl, ?_, ?_⟩
        · rw [less]
          simp [rank, Prod.Lex.toLex_lt_toLex]
        · rw [greater]
          simp [rank, Prod.Lex.toLex_lt_toLex, eq_comm]

theorem compare_none {u v : UnpackedFloat} (undefined : u = .notANumber ∨ v = .notANumber) : u.compare v = none := by
  obtain rfl | rfl := undefined
  · rfl
  · cases u <;> rfl

variable {x y z : Float}

theorem le_iff : x ≤ y ↔ ∃ o, x.toModel.unpack.compare y.toModel.unpack = some o ∧ o.isLE := by
  show decide (x.toModel ≤ y.toModel) = true ↔ _
  rw [decide_eq_true_iff]
  show (x.toModel.unpack.compare y.toModel.unpack).any (·.isLE) = true ↔ _
  rw [Option.any_eq_true]

def Defined (x : Float) : Prop := x.toModel.unpack ≠ .notANumber

theorem defined_of_isNaN (number : x.isNaN = false) : Defined x := by
  intro undefined
  replace number : x.toModel.unpack.isNaN = false := number
  rw [undefined] at number
  cases number

/-- Less is less in the line. -/
theorem lt_iff_rank :
    x < y ↔ Defined x ∧ Defined y ∧ rank x.toModel.unpack < rank y.toModel.unpack := by
  rw [lt_iff]
  constructor
  · intro less
    have first : Defined x := fun undefined => by simp [compare_none (.inl undefined)] at less
    have second : Defined y := fun undefined => by simp [compare_none (.inr undefined)] at less
    obtain ⟨o, compared, below, -⟩ := exists_compare first second
    exact ⟨first, second, below.mp (Option.some.inj (compared.symm.trans less))⟩
  · rintro ⟨first, second, less⟩
    obtain ⟨o, compared, below, -⟩ := exists_compare first second
    rw [compared, below.mpr less]

/-- At most is at most in the line. -/
theorem le_iff_rank :
    x ≤ y ↔ Defined x ∧ Defined y ∧ rank x.toModel.unpack ≤ rank y.toModel.unpack := by
  rw [le_iff]
  constructor
  · rintro ⟨o, compared, atMost⟩
    have first : Defined x := fun undefined => by simp [compare_none (.inl undefined)] at compared
    have second : Defined y := fun undefined => by simp [compare_none (.inr undefined)] at compared
    obtain ⟨o', same, -, above⟩ := exists_compare first second
    obtain rfl : o' = o := Option.some.inj (same.symm.trans compared)
    refine ⟨first, second, not_lt.mp fun less => ?_⟩
    rw [above.mpr less] at atMost
    cases atMost
  · rintro ⟨first, second, atMost⟩
    obtain ⟨o, compared, -, above⟩ := exists_compare first second
    refine ⟨o, compared, ?_⟩
    rw [← Ordering.ne_gt_iff_isLE]
    exact fun greater => absurd (above.mp greater) (not_lt.mpr atMost)

theorem le_of_lt (less : x < y) : x ≤ y := by
  rw [lt_iff_rank] at less
  obtain ⟨first, second, rank⟩ := less
  rw [le_iff_rank]
  exact ⟨first, second, rank.le⟩

theorem le_refl (defined : Defined x) : x ≤ x := by
  rw [le_iff_rank]
  exact ⟨defined, defined, le_rfl⟩

theorem lt_of_lt_of_le (less : x < y) (atMost : y ≤ z) : x < z := by
  rw [lt_iff_rank] at less ⊢
  rw [le_iff_rank] at atMost
  obtain ⟨first, -, rank⟩ := less
  obtain ⟨-, last, rank'⟩ := atMost
  exact ⟨first, last, rank.trans_le rank'⟩

theorem not_lt_of_le (atMost : x ≤ y) : ¬ y < x := by
  rw [le_iff_rank] at atMost
  rw [lt_iff_rank]
  exact fun less => absurd less.2.2 (not_lt.mpr atMost.2.2)

/-- Of two numbers, the one that is not at most the other is more. -/
theorem lt_of_not_le (first : Defined x) (second : Defined y) (above : ¬ x ≤ y) : y < x := by
  rw [le_iff_rank] at above
  rw [lt_iff_rank]
  exact ⟨second, first, not_le.mp fun atMost => above ⟨first, second, atMost⟩⟩

/-- All doubles lie between the infinities. -/
theorem rank_between (u : UnpackedFloat) :
    rank (.infinity .negative) ≤ rank u ∧ rank u ≤ rank (.infinity .positive) := by
  cases u with
  | notANumber | zero => simp [rank, Prod.Lex.toLex_le_toLex]
  | infinity s | finite s => cases s <;> simp [rank, Prod.Lex.toLex_le_toLex]

/-- What lies between two doubles is finite. -/
theorem isFinite_of_lt_of_lt (low : x < y) (high : y < z) : y.isFinite = true := by
  rw [lt_iff_rank] at low high
  obtain ⟨-, number, above⟩ := low
  obtain ⟨-, -, below⟩ := high
  show y.toModel.unpack.isFinite = true
  cases size : y.toModel.unpack with
  | notANumber => exact absurd size number
  | infinity s =>
    rw [size] at above below
    cases s with
    | negative => exact absurd above (not_lt.mpr (rank_between _).1)
    | positive => exact absurd below (not_lt.mpr (rank_between _).2)
  | zero | finite => rfl

end WormLang.Number
