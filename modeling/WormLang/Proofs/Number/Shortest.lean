import WormLang.Proofs.Number.Rounding

/-!
Shortest decimals. Grids of multiples of a power of ten are tried, finer ones later; a multiple that is taken rounds to
the double. Seventeen digits are enough: the multiples of the last grid lie more closely than the interval is wide, so
that one of the two around the double is in it.
-/
namespace WormLang.Number

variable {m : Nat} {q p : ℤ}

/-! ### Grids -/

theorem fraction_div (m : Nat) (q : ℤ) : ((fraction m q).1 : ℚ) / (fraction m q).2 = m * 2 ^ q := by
  unfold fraction
  split
  · next whole =>
    obtain ⟨k, rfl⟩ := Int.eq_ofNat_of_zero_le whole
    simp
  · next less =>
    obtain ⟨k, rfl⟩ := Int.exists_eq_neg_ofNat (Int.not_le.mp less).le
    simp [div_eq_mul_inv]

/-- The unit of a grid: a quarter of the last binary digit over the power of ten. -/
theorem gridUnit_div (q p : ℤ) :
    0 < (gridUnit q p).2 ∧ ((gridUnit q p).1 : ℚ) / (gridUnit q p).2 = 2 ^ (q - 2) / 10 ^ p := by
  have power : ∀ k, ((Nat.pow 10 k : ℕ) : ℚ) = 10 ^ k := fun k => Nat.cast_pow 10 k
  have value := fraction_div 1 (q - 2)
  have denominator := fraction_den_pos 1 (q - 2)
  rw [Nat.cast_one, one_mul] at value
  unfold gridUnit
  dsimp only
  split
  · next whole =>
    obtain ⟨k, rfl⟩ := Int.eq_ofNat_of_zero_le whole
    refine ⟨Nat.mul_pos denominator (Nat.pow_pos (by decide)), ?_⟩
    rw [Nat.cast_mul, power, ← div_div, value, Int.toNat_natCast, zpow_natCast]
  · next less =>
    obtain ⟨k, rfl⟩ := Int.exists_eq_neg_ofNat (Int.not_le.mp less).le
    refine ⟨denominator, ?_⟩
    rw [Nat.cast_mul, power, mul_div_right_comm, value, neg_neg, Int.toNat_natCast, zpow_neg, zpow_natCast,
      div_inv_eq_mul]

/-- Quarters of the last binary digit compare with multiples of a power of ten as natural numbers do. -/
theorem grid_lt_iff (a c : Nat) :
    (a * (gridUnit q p).1 < c * (gridUnit q p).2 ↔ (a : ℚ) * 2 ^ (q - 2) < c * 10 ^ p) ∧
      (c * (gridUnit q p).2 < a * (gridUnit q p).1 ↔ (c : ℚ) * 10 ^ p < a * 2 ^ (q - 2)) := by
  obtain ⟨denominator, unit⟩ := gridUnit_div q p
  have ten := ten_zpow_pos p
  generalize (gridUnit q p).1 = n at unit ⊢
  generalize (gridUnit q p).2 = d at denominator unit ⊢
  have positive : (0 : ℚ) < d := by exact_mod_cast denominator
  rw [div_eq_div_iff positive.ne' ten.ne'] at unit
  have left : (a : ℚ) * 2 ^ (q - 2) * d = a * n * 10 ^ p := by rw [mul_assoc, ← unit, mul_assoc]
  have right : (c : ℚ) * 10 ^ p * d = c * d * 10 ^ p := mul_right_comm _ _ _
  rw [← mul_lt_mul_iff_of_pos_right positive, left, right, mul_lt_mul_iff_of_pos_right ten,
    ← mul_lt_mul_iff_of_pos_right (b := (c : ℚ) * 10 ^ p) positive, left, right, mul_lt_mul_iff_of_pos_right ten]
  exact ⟨by exact_mod_cast Iff.rfl, by exact_mod_cast Iff.rfl⟩

theorem grid_le_iff (a c : Nat) :
    (a * (gridUnit q p).1 ≤ c * (gridUnit q p).2 ↔ (a : ℚ) * 2 ^ (q - 2) ≤ c * 10 ^ p) ∧
      (c * (gridUnit q p).2 ≤ a * (gridUnit q p).1 ↔ (c : ℚ) * 10 ^ p ≤ a * 2 ^ (q - 2)) := by
  obtain ⟨less, more⟩ := grid_lt_iff (q := q) (p := p) a c
  exact ⟨by rw [← not_lt, more, not_lt], by rw [← not_lt, less, not_lt]⟩

/-- What is tested of a multiple of a power of ten is whether it rounds to the double. -/
theorem readsBack_iff (c : Nat) : readsBack m q p c = true ↔ Rounds m q (c * 10 ^ p) := by
  have less := (grid_lt_iff (q := q) (p := p) (lowerEnd m q) c).1
  have more := (grid_lt_iff (q := q) (p := p) (upperEnd m) c).2
  have least := (grid_le_iff (q := q) (p := p) (lowerEnd m q) c).1
  have most := (grid_le_iff (q := q) (p := p) (upperEnd m) c).2
  unfold readsBack Rounds UpTo
  dsimp only
  split
  · next even =>
    rw [Bool.and_eq_true, decide_eq_true_iff, decide_eq_true_iff, least, most, le_iff_lt_or_eq, le_iff_lt_or_eq]
    simp [even]
  · next odd =>
    rw [Bool.and_eq_true, decide_eq_true_iff, decide_eq_true_iff, less, more]
    simp [odd]

/-- The double itself, in quarters of its last digit. -/
theorem quarters (m : Nat) (q : ℤ) : ((4 * m : ℕ) : ℚ) * 2 ^ (q - 2) = m * 2 ^ q := by
  rw [zpow_sub₀ (by norm_num)]
  push_cast
  field_simp

/-- The multiples beside a double. -/
theorem neighbours (m : Nat) (q p : ℤ) :
    ((4 * m * (gridUnit q p).1 / (gridUnit q p).2 : ℕ) : ℚ) * 10 ^ p ≤ m * 2 ^ q ∧
      (m * 2 ^ q : ℚ) < ((4 * m * (gridUnit q p).1 / (gridUnit q p).2 + 1 : ℕ) : ℚ) * 10 ^ p := by
  have denominator := (gridUnit_div q p).1
  rw [← quarters, ← (grid_le_iff _ _).2, ← (grid_lt_iff _ _).1]
  exact ⟨Nat.div_mul_le_self _ _, Nat.lt_mul_of_div_lt (Nat.lt_succ_self _) denominator⟩

/-! ### One grid -/

/-- A multiple that is taken rounds to the double. -/
theorem rounds_of_readsBackOn {c : Nat} (taken : readsBackOn m q p = some c) : 0 < c ∧ Rounds m q (c * 10 ^ p) := by
  rw [← readsBack_iff]
  unfold readsBackOn at taken
  dsimp only at taken
  generalize low : 4 * m * (gridUnit q p).1 / (gridUnit q p).2 = l at taken
  have lower : (readsBack m q p l && l != 0) = true → 0 < l ∧ readsBack m q p l = true := by
    intro both
    rw [Bool.and_eq_true, bne_iff_ne] at both
    exact ⟨Nat.pos_of_ne_zero both.2, both.1⟩
  have upper : readsBack m q p (l + 1) = true → 0 < l + 1 ∧ readsBack m q p (l + 1) = true :=
    fun reads => ⟨Nat.succ_pos l, reads⟩
  split at taken
  · cases taken
  · next both _ =>
    cases taken
    exact lower both
  · next reads =>
    cases taken
    exact upper reads
  · next both reads =>
    split_ifs at taken <;> cases taken
    · exact lower both
    · exact upper reads
    · exact lower both
    · exact upper reads

theorem lowerEnd_lt (positive : 0 < m) (q : ℤ) : lowerEnd m q < 4 * m := by
  unfold lowerEnd
  split <;> omega

/-- A double rounds to itself. -/
theorem rounds_self (positive : 0 < m) (q : ℤ) : Rounds m q (m * 2 ^ q) := by
  have unit := two_zpow_pos (q - 2)
  rw [← quarters]
  refine ⟨.inl ?_, .inl ?_⟩
  · exact mul_lt_mul_of_pos_right (Nat.cast_lt.mpr (lowerEnd_lt positive q)) unit
  · exact mul_lt_mul_of_pos_right (Nat.cast_lt.mpr (by unfold upperEnd; omega)) unit

/-- The interval of a double is wider than its last place of seventeen, in quarters of its last binary digit. -/
theorem lowerEnd_add_lt (canonical : Canonical m q) : 4 * m + 10 ^ 16 * lowerEnd m q < 10 ^ 16 * upperEnd m := by
  have positive := canonical.positive
  have small := canonical.small
  have carry : Nat.pow 2 52 = 2 ^ 52 := rfl
  unfold lowerEnd upperEnd
  split <;> omega

/-- One of the multiples beside a double rounds to it if they lie as closely as seventeen digits do. -/
theorem readsBack_neighbour (canonical : Canonical m q) (close : (10 : ℚ) ^ p * 10 ^ 16 ≤ m * 2 ^ q) :
    readsBack m q p (4 * m * (gridUnit q p).1 / (gridUnit q p).2) = true ∨
      readsBack m q p (4 * m * (gridUnit q p).1 / (gridUnit q p).2 + 1) = true := by
  obtain ⟨below, above⟩ := neighbours m q p
  have unit := two_zpow_pos (q - 2)
  have width : ((4 * m : ℕ) : ℚ) * 2 ^ (q - 2) + 10 ^ 16 * (lowerEnd m q * 2 ^ (q - 2)) <
      10 ^ 16 * (upperEnd m * 2 ^ (q - 2)) := by
    have wide : ((4 * m : ℕ) : ℚ) + 10 ^ 16 * lowerEnd m q < 10 ^ 16 * upperEnd m := by
      exact_mod_cast lowerEnd_add_lt canonical
    have scaled := mul_lt_mul_of_pos_right wide unit
    linarith
  obtain ⟨lower, upper⟩ := rounds_self canonical.positive q
  rw [readsBack_iff, readsBack_iff]
  rw [← quarters] at close
  generalize 4 * m * (gridUnit q p).1 / (gridUnit q p).2 = l at below above
  by_contra neither
  rw [not_or] at neither
  -- Then the interval lies between the two, and is no wider than the grid.
  have low : (l : ℚ) * 10 ^ p ≤ lowerEnd m q * 2 ^ (q - 2) :=
    not_lt.mp fun less => neither.1 ⟨.inl less, .le_trans below upper⟩
  have high : (upperEnd m : ℚ) * 2 ^ (q - 2) ≤ (l + 1 : ℕ) * 10 ^ p :=
    not_lt.mp fun less => neither.2 ⟨lower.trans_le above.le, .inl less⟩
  push_cast at high
  linarith

/-- So seventeen digits are enough. -/
theorem readsBackOn_ne_none (canonical : Canonical m q) (close : (10 : ℚ) ^ p * 10 ^ 16 ≤ m * 2 ^ q) :
    readsBackOn m q p ≠ none := by
  have reads := readsBack_neighbour canonical close
  have above := (neighbours m q p).2
  have grid := ten_zpow_pos p
  have some : 4 * m * (gridUnit q p).1 / (gridUnit q p).2 ≠ 0 := by
    intro zero
    rw [zero, Nat.zero_add, Nat.cast_one, one_mul] at above
    linarith
  intro none
  unfold readsBackOn at none
  dsimp only at none
  generalize 4 * m * (gridUnit q p).1 / (gridUnit q p).2 = l at reads some none
  split at none
  · next low high =>
    rw [high, Bool.false_eq_true, or_false] at reads
    simp [reads, some] at low
  · cases none
  · cases none
  · split_ifs at none

/-! ### All grids -/

/-- The decimal point of a double is guessed from its binary digits, not too high. -/
theorem guess_le {b t : ℤ} (least : -1074 ≤ b) (greatest : b ≤ 1023) (guess : 100000 * t ≤ 30103 * b) :
    (10 : ℚ) ^ t ≤ 100 * 2 ^ b := by
  have positive := two_zpow_pos b
  obtain whole | less := le_or_gt 0 t
  · refine (pow_le_pow_iff_left₀ (ten_zpow_pos t).le (by positivity) (by decide : 3 ≠ 0)).mp ?_
    obtain ⟨k, rfl⟩ := Int.eq_ofNat_of_zero_le whole
    calc ((10 : ℚ) ^ (k : ℤ)) ^ 3 = (10 ^ 3) ^ k := by rw [zpow_natCast, pow_right_comm]
      _ ≤ (2 ^ 10) ^ k := pow_le_pow_left₀ (by norm_num) (by norm_num) k
      _ = 2 ^ (10 * k : ℤ) := by rw [← pow_mul, ← zpow_natCast, Nat.cast_mul]; rfl
      _ ≤ 2 ^ (b * 3 + 10) := zpow_le_zpow_right₀ (by norm_num) (by omega)
      _ = (2 ^ b) ^ 3 * 2 ^ 10 := by rw [zpow_add₀ (by norm_num), zpow_mul]; rfl
      _ ≤ (100 * 2 ^ b) ^ 3 := by
        rw [mul_pow, mul_comm]
        exact mul_le_mul_of_nonneg_right (by norm_num) (pow_pos positive 3).le
  · refine (pow_le_pow_iff_left₀ (ten_zpow_pos t).le (by positivity) (by decide : 13 ≠ 0)).mp ?_
    obtain ⟨k, rfl⟩ := Int.exists_eq_neg_ofNat less.le
    calc ((10 : ℚ) ^ (-(k : ℤ))) ^ 13 = ((10 ^ 13) ^ k)⁻¹ := by rw [zpow_neg, inv_pow, zpow_natCast, pow_right_comm]
      _ ≤ ((2 ^ 43) ^ k)⁻¹ := by
        refine inv_anti₀ (by positivity) ?_
        exact pow_le_pow_left₀ (by norm_num) (by norm_num) k
      _ = 2 ^ (-(43 * k) : ℤ) := by rw [← pow_mul, zpow_neg, ← zpow_natCast, Nat.cast_mul]; rfl
      _ ≤ 2 ^ (b * 13 + 60) := zpow_le_zpow_right₀ (by norm_num) (by omega)
      _ = (2 ^ b) ^ 13 * 2 ^ 60 := by rw [zpow_add₀ (by norm_num), zpow_mul]; rfl
      _ ≤ (100 * 2 ^ b) ^ 13 := by
        rw [mul_pow, mul_comm]
        exact mul_le_mul_of_nonneg_right (by norm_num) (pow_pos positive 13).le

/-- Whether a double is below a power of ten. -/
theorem below_iff (m : Nat) (q k : ℤ) :
    4 * m * (gridUnit q k).1 < (gridUnit q k).2 ↔ (m * 2 ^ q : ℚ) < 10 ^ k := by
  have less := (grid_lt_iff (q := q) (p := k) (4 * m) 1).1
  rwa [Nat.one_mul, Nat.cast_one, one_mul, quarters] at less

/-- The decimal point of a double does not stand too far to the right. -/
theorem decimalPoint_le (canonical : Canonical m q) : (10 : ℚ) ^ (decimalPoint m q - 1) ≤ m * 2 ^ q := by
  have atGuess : (10 : ℚ) ^ (((q + bitLength m - 1) * 30103).fdiv 100000 - 1 - 1) ≤ m * 2 ^ q := by
    have length : bitLength m ≤ 53 := bitLength_le canonical.small
    have some : 0 < bitLength m := by
      unfold bitLength
      rw [if_neg canonical.positive.ne']
      omega
    have least := canonical.least
    have greatest := canonical.greatest
    have digit := (bitLength_bounds canonical.positive).1
    have floor : 100000 * ((q + bitLength m - 1) * 30103).fdiv 100000 ≤ 30103 * (q + bitLength m - 1) := by
      rw [Int.fdiv_eq_ediv_of_nonneg _ (by decide)]
      omega
    have small := guess_le (by omega) (by omega) floor
    generalize ((q + bitLength m - 1) * 30103).fdiv 100000 = t at small ⊢
    calc (10 : ℚ) ^ (t - 1 - 1) = 10 ^ t / 100 := by
          rw [sub_sub, zpow_sub₀ (by norm_num)]
          norm_num
      _ ≤ 2 ^ (q + bitLength m - 1) := by
        rw [div_le_iff₀ (by norm_num)]
        linarith
      _ = 2 ^ ((bitLength m : ℤ) - 1) * 2 ^ q := by
        rw [← zpow_add₀ (by norm_num)]
        congr 1
        omega
      _ ≤ m * 2 ^ q := mul_le_mul_of_nonneg_right digit (two_zpow_pos q).le
  unfold decimalPoint
  dsimp only
  generalize ((q + bitLength m - 1) * 30103).fdiv 100000 - 1 = g at atGuess ⊢
  simp only [below_iff, decide_eq_true_eq]
  split_ifs with first second third
  · exact atGuess
  · rw [add_sub_cancel_right]
    exact not_lt.mp first
  · rw [show g + 2 - 1 = g + 1 by ring]
    exact not_lt.mp second
  · rw [show g + 3 - 1 = g + 2 by ring]
    exact not_lt.mp third

/-- If one of the grids that are tried has a multiple that rounds to a double, so does what is found. -/
theorem rounds_shortestFrom {steps : Nat} (found : ∃ k < steps, readsBackOn m q (p - k) ≠ none) :
    0 < (shortestFrom m q steps p).digits ∧
      Rounds m q ((shortestFrom m q steps p).digits * 10 ^ (shortestFrom m q steps p).exponent) := by
  induction steps generalizing p with
  | zero =>
    obtain ⟨k, less, -⟩ := found
    exact absurd less (Nat.not_lt_zero k)
  | succ steps ih =>
    obtain ⟨k, less, reads⟩ := found
    rw [shortestFrom]
    split
    · next digits taken => exact rounds_of_readsBackOn taken
    · next none =>
      cases k with
      | zero =>
        rw [Nat.cast_zero, sub_zero] at reads
        exact absurd none reads
      | succ k =>
        refine ih ⟨k, by omega, ?_⟩
        rwa [sub_sub, add_comm 1, ← Nat.cast_succ]

/-- The shortest decimal of a double rounds to it. -/
theorem rounds_shortest (canonical : Canonical m q) :
    0 < (shortest m q).digits ∧ Rounds m q ((shortest m q).digits * 10 ^ (shortest m q).exponent) := by
  refine rounds_shortestFrom ⟨16, by decide, readsBackOn_ne_none canonical ?_⟩
  calc (10 : ℚ) ^ (decimalPoint m q - 1 - (16 : ℕ)) * 10 ^ 16 = 10 ^ (decimalPoint m q - 1) := by
        rw [zpow_sub₀ (by norm_num), zpow_natCast, div_mul_cancel₀ _ (by norm_num)]
    _ ≤ m * 2 ^ q := decimalPoint_le canonical

end WormLang.Number
