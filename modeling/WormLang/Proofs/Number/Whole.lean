import WormLang.Number.Quantity
import WormLang.Proofs.Number.Size

/-!
Doubles that are whole numbers. Up to `2 ^ 53` every whole number is one, and taking one from another is exact: the
difference has no more than 53 binary digits, so that rounding only moves its digits to where a mantissa has them.
-/
namespace WormLang.Number

open Float.Model (Format UnpackedFloat)
open Float.Model.UnpackedFloat

/-- A full mantissa, with zeros behind it, has 53 digits in front of them. -/
theorem log2_mul_two_pow {m : Nat} (full : 2 ^ 52 ≤ m) (small : m < 2 ^ 53) (k : Nat) : (m * 2 ^ k).log2 = 52 + k := by
  have positive : 0 < m := Nat.lt_of_lt_of_le (by decide) full
  have shifted := log2_shiftLeft positive k
  rwa [Nat.shiftLeft_eq, (Nat.log2_eq_iff positive.ne').mpr ⟨full, small⟩] at shifted

/-- A double that is a whole number; minus zero is zero. -/
def IsWhole (n : Nat) (x : Float) : Prop := Quantity.compareWhole n x = some .eq

instance (n : Nat) (x : Float) : Decidable (IsWhole n x) := inferInstanceAs (Decidable (_ = some Ordering.eq))

/-- The digits of a whole number as a mantissa with 53 of them: the number is `m · 2 ^ (j - 52)`. -/
structure Digits (n m j : Nat) : Prop where
  full : 2 ^ 52 ≤ m
  small : m < 2 ^ 53
  value : n * 2 ^ 52 = m * 2 ^ j

namespace Digits

variable {n m j : Nat}

theorem positive (digits : Digits n m j) : 0 < m := Nat.lt_of_lt_of_le (by decide) digits.full

theorem number_positive (digits : Digits n m j) : 0 < n := by
  have product : 0 < m * 2 ^ j := Nat.mul_pos digits.positive (Nat.two_pow_pos j)
  rw [← digits.value] at product
  exact Nat.pos_of_mul_pos_right product

theorem log2_mul (digits : Digits n m j) (k : Nat) : (m * 2 ^ k).log2 = 52 + k :=
  log2_mul_two_pow digits.full digits.small k

theorem log2_number (digits : Digits n m j) : n.log2 = j := by
  have shifted := log2_shiftLeft digits.number_positive 52
  rw [Nat.shiftLeft_eq, digits.value, digits.log2_mul] at shifted
  omega

end Digits

/-- Small whole numbers have digits. -/
theorem exists_digits {n : Nat} (positive : 0 < n) (small : n ≤ 2 ^ 53) : ∃ m j, Digits n m j ∧ j ≤ 53 := by
  obtain rfl | below := Nat.eq_or_lt_of_le small
  · exact ⟨2 ^ 52, 53, ⟨by decide, by decide, by decide⟩, by decide⟩
  · have log : n.log2 ≤ 52 := Nat.le_of_lt_succ ((Nat.log2_lt positive.ne').mpr below)
    have shifted := log2_shiftLeft positive (52 - n.log2)
    rw [Nat.shiftLeft_eq, Nat.add_sub_cancel' log,
      Nat.log2_eq_iff (Nat.mul_pos positive (Nat.two_pow_pos _)).ne'] at shifted
    refine ⟨n * 2 ^ (52 - n.log2), n.log2, ⟨shifted.1, shifted.2, ?_⟩, by omega⟩
    rw [Nat.mul_assoc, ← Nat.pow_add, Nat.sub_add_cancel log]

/-- A number of the logical model that is a whole number. -/
inductive Holds : Nat → UnpackedFloat → Prop
  | zero (s : Sign) : Holds 0 (.zero s)
  | finite {n m j : Nat} (digits : Digits n m j) : Holds n (.finite .positive m ((j : Int) - 52) digits.positive)

theorem fraction_den_pos (m : Nat) (q : Int) : 0 < (fraction m q).2 := by
  unfold fraction
  split
  · exact Nat.one_pos
  · exact Nat.two_pow_pos _

theorem fraction_num_pos {m : Nat} (positive : 0 < m) (q : Int) : 0 < (fraction m q).1 := by
  unfold fraction
  split
  · exact Nat.mul_pos positive (Nat.two_pow_pos _)
  · exact positive

theorem fraction_num_zero (q : Int) : (fraction 0 q).1 = 0 := by
  unfold fraction
  split
  · exact Nat.zero_mul _
  · rfl

/-- A fraction with a mantissa and an exponent is a whole number if its digits are. -/
theorem fraction_eq_iff {n m j : Nat} :
    n * (fraction m ((j : Int) - 52)).2 = (fraction m ((j : Int) - 52)).1 ↔ n * 2 ^ 52 = m * 2 ^ j := by
  unfold fraction
  split
  · next large =>
    have exponent : ((j : Int) - 52).toNat = j - 52 := by omega
    have split : (2 : Nat) ^ j = Nat.pow 2 (j - 52) * 2 ^ 52 := by
      show 2 ^ j = 2 ^ (j - 52) * 2 ^ 52
      rw [← Nat.pow_add]
      congr 1
      omega
    rw [exponent, split, ← Nat.mul_assoc, Nat.mul_left_inj (by decide), Nat.mul_one]
  · next small =>
    have exponent : (-((j : Int) - 52)).toNat = 52 - j := by omega
    have split : (2 : Nat) ^ 52 = Nat.pow 2 (52 - j) * 2 ^ j := by
      show 2 ^ 52 = 2 ^ (52 - j) * 2 ^ j
      rw [← Nat.pow_add]
      congr 1
      omega
    rw [exponent, split, ← Nat.mul_assoc, Nat.mul_left_inj (Nat.two_pow_pos j).ne']

/-- A positive fraction that is a whole number has digits. -/
theorem digits_of_fraction {n m : Nat} {q : Int} (bounds : 2 ^ 52 ≤ m ∨ q = -1074) (small : m < 2 ^ 53)
    (positive : 0 < m) (whole : n * (fraction m q).2 = (fraction m q).1) : ∃ j : Nat, q = j - 52 ∧ Digits n m j := by
  have least : -53 < q := by
    by_contra low
    have exponent : 53 ≤ (-q).toNat := by omega
    unfold fraction at whole
    rw [if_neg (by omega)] at whole
    have divides : 2 ^ 53 ∣ m := (Nat.pow_dvd_pow 2 exponent).trans ⟨n, by rw [Nat.mul_comm]; exact whole.symm⟩
    exact absurd (Nat.le_of_dvd positive divides) (by omega)
  obtain ⟨j, rfl⟩ : ∃ j : Nat, q = j - 52 := ⟨(q + 52).toNat, by omega⟩
  exact ⟨j, rfl, by omega, small, fraction_eq_iff.mp whole⟩

/-- A double is a whole number if and only if the logical model says so. -/
theorem isWhole_iff {n : Nat} {x : Float} : IsWhole n x ↔ Holds n x.toModel.unpack := by
  unfold IsWhole Quantity.compareWhole
  rw [unpack_eq]
  cases size : parts x with
  | nan => exact ⟨nofun, nofun⟩
  | infinite negative => cases negative <;> exact ⟨nofun, nofun⟩
  | finite negative m q =>
    dsimp only [Parts.unpacked]
    rw [Option.some_inj, compare_eq_iff_eq]
    have denominator := fraction_den_pos m q
    split
    · next positive =>
      obtain ⟨small, -, -, bounds⟩ := bounds_of_parts size
      have numerator := fraction_num_pos positive q
      cases negative with
      | true =>
        refine ⟨fun whole => ?_, nofun⟩
        have below : signed true (fraction m q).1 = -((fraction m q).1 : Int) := rfl
        have above : (0 : Int) ≤ n * ((fraction m q).2 : Int) := by positivity
        omega
      | false =>
        have same : (n * ((fraction m q).2 : Int) = signed false (fraction m q).1) ↔
            n * (fraction m q).2 = (fraction m q).1 := by
          show _ = ((fraction m q).1 : Int) ↔ _
          norm_cast
        rw [same]
        constructor
        · intro whole
          obtain ⟨j, rfl, digits⟩ := digits_of_fraction bounds small positive whole
          exact .finite digits
        · intro holds
          cases holds with
          | finite digits => exact fraction_eq_iff.mpr digits.value
    · next zero =>
      obtain rfl : m = 0 := by omega
      have nothing : signed negative 0 = 0 := by cases negative <;> rfl
      rw [fraction_num_zero, nothing]
      constructor
      · intro whole
        obtain rfl : n = 0 := by
          have := Int.mul_eq_zero.mp whole
          omega
        exact .zero _
      · rintro ⟨⟩
        simp

theorem isWhole_zero : IsWhole 0 0.0 := isWhole_iff.mpr (.zero .positive)

/-! ### Comparing -/

theorem compare_mul_right {a b k : Nat} (positive : 0 < k) : compare (a * k) (b * k) = compare a b := by
  rcases Nat.lt_trichotomy a b with less | rfl | more
  · rw [Nat.compare_eq_lt.mpr less, Nat.compare_eq_lt.mpr (Nat.mul_lt_mul_of_pos_right less positive)]
  · rw [compare_eq_iff_eq.mpr rfl, compare_eq_iff_eq.mpr rfl]
  · rw [Nat.compare_eq_gt.mpr more, Nat.compare_eq_gt.mpr (Nat.mul_lt_mul_of_pos_right more positive)]

/-- Digits are compared from the exponent on. -/
theorem Digits.compare_eq {a b m n i j : Nat} (first : Digits a m i) (second : Digits b n j) :
    (compare ((i : Int) - 52) ((j : Int) - 52)).then (compare m n) = compare a b := by
  have below : ∀ {a b m n i j : Nat}, Digits a m i → Digits b n j → i < j → a < b := by
    intro a b m n i j first second less
    rw [← first.log2_number, ← second.log2_number] at less
    calc
      a < 2 ^ (a.log2 + 1) := Nat.lt_log2_self
      _ ≤ 2 ^ b.log2 := Nat.pow_le_pow_right (by decide) less
      _ ≤ b := Nat.log2_self_le second.number_positive.ne'
  rcases Nat.lt_trichotomy i j with less | rfl | more
  · rw [Int.compare_eq_lt.mpr (by omega), Nat.compare_eq_lt.mpr (below first second less)]
    rfl
  · have scaled : compare (a * 2 ^ 52) (b * 2 ^ 52) = compare (m * 2 ^ i) (n * 2 ^ i) := by
      rw [first.value, second.value]
    rw [compare_mul_right (by decide), compare_mul_right (Nat.two_pow_pos i)] at scaled
    rw [compare_eq_iff_eq.mpr rfl, scaled]
    rfl
  · rw [Int.compare_eq_gt.mpr (by omega), Nat.compare_eq_gt.mpr (below second first more)]
    rfl

theorem Holds.compare_eq {a b : Nat} {u v : UnpackedFloat} (first : Holds a u) (second : Holds b v) :
    u.compare v = some (compare a b) := by
  cases first with
  | zero =>
    cases second with
    | zero => rfl
    | finite digits =>
      rw [Nat.compare_eq_lt.mpr digits.number_positive]
      rfl
  | finite digits =>
    cases second with
    | zero =>
      rw [Nat.compare_eq_gt.mpr digits.number_positive]
      rfl
    | finite digits' => exact congrArg some (digits.compare_eq digits')

section

variable {a b : Nat} {x y : Float} (first : IsWhole a x) (second : IsWhole b y)

include first second

theorem IsWhole.lt_iff : x < y ↔ a < b := by
  rw [Number.lt_iff, (isWhole_iff.mp first).compare_eq (isWhole_iff.mp second), Option.some_inj, Nat.compare_eq_lt]

theorem IsWhole.le_iff : x ≤ y ↔ a ≤ b := by
  have compared := (isWhole_iff.mp first).compare_eq (isWhole_iff.mp second)
  show decide (x.toModel ≤ y.toModel) = true ↔ _
  rw [decide_eq_true_iff]
  show (x.toModel.unpack.compare y.toModel.unpack).any (·.isLE) = true ↔ _
  rw [compared, ← Nat.isLE_compare]
  rfl

/-- A whole number within limits is left alone. -/
theorem IsWhole.clamp (within : a ≤ b) : IsWhole a (larger 0.0 (smaller x y)) := by
  have zero : IsWhole 0 0.0 := isWhole_zero
  unfold smaller
  rw [if_neg (by rw [second.lt_iff first]; omega)]
  unfold larger
  split
  · exact first
  · next low =>
    replace low : ¬ (0.0 : Float) < x := low
    rw [zero.lt_iff first] at low
    obtain rfl : a = 0 := by omega
    exact zero

end

/-! ### Rounding -/

theorem sign_unpackSign_packComponents (s : Sign) (exponent : BitVec 11) (mantissa : BitVec 52) :
    Sign.ofBitVec (unpackSign (packComponents Format.binary64 s exponent mantissa)) = s := by
  simp only [unpackSign, packComponents, BitVec.extractLsb]
  rw [BitVec.extractLsb'_append_eq_of_le (by decide), BitVec.extractLsb'_append_eq_of_le (by decide)]
  cases s <;> rfl

/-- A mantissa with 53 digits is unpacked as it was packed. -/
theorem unpack_pack_normal (s : Sign) {m : Nat} {e : Int} (positive : 0 < m) (full : 2 ^ 52 ≤ m) (small : m < 2 ^ 53)
    (least : -1074 ≤ e) (greatest : e ≤ 971) :
    (Float.Model.pack (.finite s m e positive)).unpack = .finite s m e positive := by
  have digits : m.log2 = 52 := by simpa using log2_mul_two_pow full small 0
  have field := toNat_field greatest
  have rest : (BitVec.ofNat 52 m).toNat = m % 2 ^ 52 := BitVec.toNat_ofNat ..
  have mantissa := toNat_one_append (BitVec.ofNat 52 m)
  show unpack Format.binary64 (pack Format.binary64 (.finite s m e positive)) = _
  rw [pack_finite, if_neg (by omega), if_pos (by omega)]
  unfold unpack
  dsimp only
  simp only [unpackMantissa_packComponents, unpackExponent_packComponents, sign_unpackSign_packComponents]
  rw [if_neg, if_neg]
  · congr 1
    · omega
    · show ((BitVec.ofNat 11 (e + 1023 + 52).toNat).toNat : Int) - (1023 + 52) = e
      omega
  · intro empty
    rw [empty] at field
    simp at field
    omega
  · intro full
    rw [full] at field
    simp at field
    omega

theorem shiftRight_exact (m k : Nat) :
    ExtendedMantissa.ofMantissaAndAccuracy (m * 2 ^ k) .exact >>> k = ⟨m, false, false⟩ := by
  show k.repeat ExtendedMantissa.shiftRightOne ⟨m * 2 ^ k, false, false⟩ = _
  have shifted : ∀ i ≤ k, i.repeat ExtendedMantissa.shiftRightOne ⟨m * 2 ^ k, false, false⟩ =
      ⟨m * 2 ^ (k - i), false, false⟩ := by
    intro i
    induction i with
    | zero => intro _; rfl
    | succ i ih =>
      intro le
      have step : m * 2 ^ (k - i) = m * 2 ^ (k - (i + 1)) * 2 := by
        rw [Nat.mul_assoc, ← Nat.pow_succ]
        congr 2
        omega
      show ExtendedMantissa.shiftRightOne (i.repeat ExtendedMantissa.shiftRightOne _) = _
      rw [ih (by omega), step]
      simp [ExtendedMantissa.shiftRightOne]
  simpa using shifted k le_rfl

/-- Rounding takes away zeros behind the digits of a mantissa, and nothing else. -/
theorem roundWithAccuracy_exact (s : Sign) {m : Nat} {e : Int} (positive : 0 < m) (full : 2 ^ 52 ≤ m)
    (small : m < 2 ^ 53) (least : -1074 ≤ e) (k : Nat) :
    roundWithAccuracy Format.binary64 s (m * 2 ^ k) (e - k) .exact = .finite s m e positive := by
  have shift : ∀ i : Nat,
      shiftToTargetExponent Format.binary64 (m * 2 ^ i) (e - i) .exact = (⟨m, false, false⟩, e) := by
    intro i
    have digits := log2_mul_two_pow full small i
    have aim : target (m * 2 ^ i) (e - i) = e := by
      unfold target
      omega
    have distance : (e - (e - i)).toNat = i := by omega
    show (ExtendedMantissa.ofMantissaAndAccuracy (m * 2 ^ i) .exact >>>
      (target (m * 2 ^ i) (e - i) - (e - i)).toNat, (e - i) + ((target (m * 2 ^ i) (e - i) - (e - i)).toNat : Int)) = _
    rw [aim, distance, shiftRight_exact, Int.sub_add_cancel]
  have again : shiftToTargetExponent Format.binary64 m e .exact = (⟨m, false, false⟩, e) := by simpa using shift 0
  have kept : (⟨m, false, false⟩ : ExtendedMantissa).roundedMantissa = m := rfl
  unfold roundWithAccuracy
  rw [shift k]
  dsimp only
  rw [kept, again]
  exact dif_neg positive.ne'

/-- Rounding keeps a number that has digits, wherever its mantissa stands. -/
theorem Digits.round_eq {n m j : Nat} (digits : Digits n m j) (s : Sign) {d i : Nat} (same : d * 2 ^ i = n * 2 ^ 52) :
    UnpackedFloat.round Format.binary64 s d ((i : Int) - 52) = .finite s m ((j : Int) - 52) digits.positive := by
  rw [digits.value] at same
  have logs : d.log2 + i = 52 + j := by
    have positive : 0 < d := by
      have product : 0 < m * 2 ^ j := Nat.mul_pos digits.positive (Nat.two_pow_pos j)
      rw [← same] at product
      exact Nat.pos_of_mul_pos_right product
    have shifted := log2_shiftLeft positive i
    rw [Nat.shiftLeft_eq, same, digits.log2_mul] at shifted
    exact shifted.symm
  have aim : target d ((i : Int) - 52) = (j : Int) - 52 := by
    unfold target
    omega
  show roundWithAccuracy Format.binary64 s (d <<< ((i : Int) - 52 - target d ((i : Int) - 52)).toNat)
    ((i : Int) - 52 - ((i : Int) - 52 - target d ((i : Int) - 52)).toNat) .exact = _
  rw [aim]
  have exact := roundWithAccuracy_exact s digits.positive digits.full digits.small (e := (j : Int) - 52) (by omega)
  obtain less | more := Nat.le_total i j
  · have place : (i : Int) - 52 = (j : Int) - 52 - (j - i : Nat) := by omega
    have mantissa : d = m * 2 ^ (j - i) := by
      refine Nat.eq_of_mul_eq_mul_right (Nat.two_pow_pos i) ?_
      rw [same, Nat.mul_assoc, ← Nat.pow_add, Nat.sub_add_cancel less]
    have still : ((i : Int) - 52 - ((j : Int) - 52)).toNat = 0 := by omega
    rw [still, Nat.shiftLeft_zero, mantissa]
    simpa [place] using exact (j - i)
  · have mantissa : d * 2 ^ (i - j) = m := by
      refine Nat.eq_of_mul_eq_mul_right (Nat.two_pow_pos j) ?_
      rw [Nat.mul_assoc, ← Nat.pow_add, Nat.sub_add_cancel more, same]
    have far : ((i : Int) - 52 - ((j : Int) - 52)).toNat = i - j := by omega
    have place : (i : Int) - 52 - (i - j : Nat) = (j : Int) - 52 := by omega
    rw [far, Nat.shiftLeft_eq, mantissa, place]
    simpa using exact 0

/-! ### Differences -/

/-- A mantissa that is moved to a lower exponent. -/
theorem Digits.shiftLeft {n m j k : Nat} (digits : Digits n m j) (le : k ≤ j) :
    (m <<< ((j : Int) - 52 - ((k : Int) - 52)).toNat) * 2 ^ k = n * 2 ^ 52 := by
  have distance : ((j : Int) - 52 - ((k : Int) - 52)).toNat = j - k := by omega
  rw [distance, Nat.shiftLeft_eq, Nat.mul_assoc, ← Nat.pow_add, Nat.sub_add_cancel le, digits.value]

/-- A difference of small whole numbers is exact. -/
theorem Holds.sub {a b : Nat} {u v : UnpackedFloat} (first : Holds a u) (second : Holds b v) (le : b ≤ a)
    (small : a ≤ 2 ^ 53) : Holds (a - b) (Float.Model.UnpackedFloat.sub Format.binary64 u v) := by
  cases first with
  | zero s =>
    cases second with
    | zero s' =>
      unfold Float.Model.UnpackedFloat.sub
      dsimp only
      split <;> exact .zero _
    | finite digits => exact absurd digits.number_positive (by omega)
  | @finite _ m i digits =>
    cases second with
    | zero => exact .finite digits
    | @finite _ m' i' digits' =>
      have lower : min ((i : Int) - 52) ((i' : Int) - 52) = ((min i i' : Nat) : Int) - 52 := by omega
      show Holds (a - b) (UnpackedFloat.normalize Format.binary64
        ((m <<< ((i : Int) - 52 - min ((i : Int) - 52) ((i' : Int) - 52)).toNat : Nat) -
          (m' <<< ((i' : Int) - 52 - min ((i : Int) - 52) ((i' : Int) - 52)).toNat : Nat))
        (min ((i : Int) - 52) ((i' : Int) - 52)) .positive)
      rw [lower]
      have value := digits.shiftLeft (Nat.min_le_left i i')
      have value' := digits'.shiftLeft (Nat.min_le_right i i')
      generalize (m <<< _ : Nat) = d at value ⊢
      generalize (m' <<< _ : Nat) = d' at value' ⊢
      generalize min i i' = k at value value' ⊢
      obtain rfl | less := Nat.eq_or_lt_of_le le
      · obtain rfl : d' = d := Nat.eq_of_mul_eq_mul_right (Nat.two_pow_pos k) (value'.trans value.symm)
        rw [Nat.sub_self, Int.sub_self]
        exact .zero _
      · have difference : (d - d') * 2 ^ k = (a - b) * 2 ^ 52 := by rw [Nat.sub_mul, Nat.sub_mul, value, value']
        have above : d' < d := by
          refine Nat.lt_of_mul_lt_mul_right (a := 2 ^ k) ?_
          rw [value, value']
          exact Nat.mul_lt_mul_of_pos_right less (by decide)
        obtain ⟨m'', j, digits'', -⟩ := exists_digits (Nat.sub_pos_of_lt less) (by omega)
        have order : compare ((d : Int) - d') 0 = .gt := Int.compare_eq_gt.mpr (by omega)
        have size : ((d : Int) - d').toNat = d - d' := by omega
        unfold UnpackedFloat.normalize
        rw [order]
        dsimp only
        rw [size, digits''.round_eq _ difference]
        exact .finite digits''

theorem Holds.unpack_pack {n : Nat} {u : UnpackedFloat} (holds : Holds n u) (small : n ≤ 2 ^ 53) :
    Holds n (Float.Model.pack u).unpack := by
  cases holds with
  | zero s => cases s <;> exact .zero _
  | @finite _ m j digits =>
    have log : j ≤ 53 := by
      rw [← digits.log2_number]
      exact Nat.le_of_lt_succ ((Nat.log2_lt digits.number_positive.ne').mpr (by omega))
    rw [unpack_pack_normal _ _ digits.full digits.small (by omega) (by omega)]
    exact .finite digits

theorem IsWhole.sub {a b : Nat} {x y : Float} (first : IsWhole a x) (second : IsWhole b y) (le : b ≤ a)
    (small : a ≤ 2 ^ 53) : IsWhole (a - b) (x - y) :=
  isWhole_iff.mpr (((isWhole_iff.mp first).sub (isWhole_iff.mp second) le small).unpack_pack (by omega))

/-! ### Whole numbers as doubles -/

/-- Bits are a sign, a field for the exponent, and a field for the digits. -/
theorem fields_of_toNat {b : BitVec Format.binary64.numBits} {negative : Bool} {field fraction : Nat}
    (fits : field < 2048) (digits : fraction < 2 ^ 52)
    (size : b.toNat = (if negative then 2 ^ 63 else 0) + field * 2 ^ 52 + fraction) :
    Sign.ofBitVec (unpackSign b) = signOf negative ∧ (unpackExponent b).toNat = field ∧
      (unpackMantissa b).toNat = fraction := by
  have bit : Nat.pow 2 63 = 2 ^ 63 := rfl
  have first : decide (Nat.pow 2 63 ≤ b.toNat) = negative := by
    cases negative <;> simp at size ⊢ <;> omega
  rw [ofBitVec_unpackSign, first, toNat_unpackExponent, toNat_unpackMantissa, size]
  refine ⟨rfl, ?_, ?_⟩ <;> split <;> omega

/-- Bits whose field for the exponent is neither empty nor full are those of a number with a full mantissa. -/
theorem unpack_normal {b : BitVec Format.binary64.numBits} {negative : Bool} {field fraction : Nat} (normal : 0 < field)
    (finite : field < 2047) (digits : fraction < 2 ^ 52)
    (size : b.toNat = (if negative then 2 ^ 63 else 0) + field * 2 ^ 52 + fraction) :
    unpack Format.binary64 b =
      .finite (signOf negative) (fraction + 2 ^ 52) ((field : Int) - 1075) (Nat.add_pos_right _ (by decide)) := by
  obtain ⟨sign, exponent, mantissa⟩ := fields_of_toNat (by omega) digits size
  have whole := toNat_one_append (unpackMantissa b)
  unfold unpack
  dsimp only
  rw [if_neg, if_neg, sign]
  · congr 1
    · omega
    · show ((unpackExponent b).toNat : Int) - (1023 + 52) = _
      omega
  · intro empty
    rw [empty] at exponent
    simp at exponent
    omega
  · intro full
    rw [full] at exponent
    simp at exponent
    omega

theorem unpack_ofBits {negative : Bool} {n field fraction : Nat} (normal : 0 < field) (finite : field < 2047)
    (digits : fraction < 2 ^ 52) (fields : n = (if negative then 2 ^ 63 else 0) + field * 2 ^ 52 + fraction) :
    (Float.ofBits (UInt64.ofNat n)).toModel.unpack =
      .finite (signOf negative) (fraction + 2 ^ 52) ((field : Int) - 1075) (Nat.add_pos_right _ (by decide)) := by
  have bits : (UInt64.ofNat n).toBitVec.toNat = n := Nat.mod_eq_of_lt (by split at fields <;> omega)
  have packed : (Float.ofBits (UInt64.ofNat n)).toModel.unpack =
      (Float.Model.pack (unpack Format.binary64 (UInt64.ofNat n).toBitVec)).unpack := rfl
  rw [packed, unpack_normal normal finite digits (bits.trans fields),
    unpack_pack_normal _ _ (by omega) (by omega) (by omega) (by omega)]

/-- A double with a full mantissa is unpacked as its fields say. -/
theorem unpack_ofFields (negative : Bool) {field fraction : Nat} (normal : 0 < field) (finite : field < 2047)
    (digits : fraction < 2 ^ 52) :
    (ofFields negative field fraction).toModel.unpack =
      .finite (signOf negative) (fraction + 2 ^ 52) ((field : Int) - 1075) (Nat.add_pos_right _ (by decide)) := by
  have unit : Nat.pow 2 52 = 2 ^ 52 := rfl
  have bit : Nat.pow 2 63 = 2 ^ 63 := rfl
  unfold ofFields
  rw [unit, bit]
  exact unpack_ofBits normal finite digits rfl

theorem roundDiv_mul (m : Nat) {d : Nat} (positive : 0 < d) : roundDiv (m * d) d = m := by
  unfold roundDiv
  simp [Nat.mul_div_cancel _ positive, positive]

/-- A whole number that has digits is rounded to itself. -/
theorem Digits.isWhole_nearest {n m j : Nat} (digits : Digits n m j) (fits : j ≤ 1023) :
    IsWhole n (nearest false n 0) := by
  have length : bitLength n = j + 1 := by
    unfold bitLength
    rw [if_neg digits.number_positive.ne', digits.log2_number]
  have exponent : max ((0 : Int) + (j + 1 : Nat) - 53) leastExponent = (j : Int) - 52 := by
    show max ((0 : Int) + (j + 1 : Nat) - 53) (-1074) = _
    omega
  have mantissa : (if (j : Int) - 52 ≤ 0 then n * Nat.pow 2 (0 - ((j : Int) - 52)).toNat
      else roundDiv n (Nat.pow 2 ((j : Int) - 52 - 0).toNat)) = m := by
    split
    · next low =>
      have shift : (0 - ((j : Int) - 52)).toNat = 52 - j := by omega
      refine Nat.eq_of_mul_eq_mul_right (Nat.two_pow_pos j) ?_
      rw [shift]
      show n * 2 ^ (52 - j) * 2 ^ j = _
      rw [Nat.mul_assoc, ← Nat.pow_add, Nat.sub_add_cancel (by omega), digits.value]
    · next high =>
      have shift : ((j : Int) - 52 - 0).toNat = j - 52 := by omega
      have value : n = m * 2 ^ (j - 52) := by
        refine Nat.eq_of_mul_eq_mul_right (Nat.two_pow_pos 52) ?_
        rw [digits.value, Nat.mul_assoc, ← Nat.pow_add, Nat.sub_add_cancel (by omega)]
      rw [shift, value]
      exact roundDiv_mul m (Nat.two_pow_pos _)
  have full : 2 ^ 52 ≤ m := digits.full
  have small : m < 2 ^ 53 := digits.small
  have unit : Nat.pow 2 52 = 2 ^ 52 := rfl
  have carry : Nat.pow 2 53 = 2 ^ 53 := rfl
  have limit : greatestExponent = 971 := rfl
  have exact : nearest false n 0 = ofFields false ((j : Int) - 52 + 1075).toNat (m - 2 ^ 52) := by
    unfold nearest assemble
    rw [length, exponent]
    dsimp only
    rw [mantissa, if_neg (show ¬ m = Nat.pow 2 53 by omega)]
    dsimp only
    rw [if_neg (by omega), if_neg (by omega), unit]
  have unpacked : (nearest false n 0).toModel.unpack = .finite .positive m ((j : Int) - 52) digits.positive := by
    rw [exact, unpack_ofFields false (by omega) (by omega) (by omega), finite.injEq]
    exact ⟨rfl, by omega, by omega⟩
  rw [isWhole_iff, unpacked]
  exact .finite digits

/-- A ceiling is zero, or it has digits: a double with a fraction is below `2 ^ 52`. -/
theorem digits_of_ceiling {x : Float} {n : Int} (rounds : ceiling x = .ok n) :
    n.toNat = 0 ∨ ∃ m j, Digits n.toNat m j ∧ j ≤ 1023 := by
  unfold ceiling at rounds
  cases size : parts x with
  | nan | infinite =>
    rw [size] at rounds
    cases rounds
  | finite negative m q =>
    obtain ⟨small, least, greatest, bounds⟩ := bounds_of_parts size
    rw [size] at rounds
    have same : -Int.fdiv (signed (!negative) (fraction m q).1) (fraction m q).2 = n := Except.ok.inj rounds
    have denominator : (0 : Int) < (fraction m q).2 := by exact_mod_cast fraction_den_pos m q
    rw [Int.fdiv_eq_ediv_of_nonneg _ denominator.le] at same
    cases negative with
    | true =>
      left
      have below : (0 : Int) ≤ signed (!true) (fraction m q).1 / (fraction m q).2 :=
        Int.ediv_nonneg (Int.natCast_nonneg _) denominator.le
      omega
    | false =>
      replace same : -(-((fraction m q).1 : Int) / (fraction m q).2) = n := same
      by_cases whole : 0 ≤ q
      · have integer : fraction m q = (m * 2 ^ q.toNat, 1) := if_pos whole
        rw [integer, Nat.cast_one, Int.ediv_one, Int.neg_neg] at same
        have value : n.toNat = m * 2 ^ q.toNat := by omega
        obtain rfl | positive := Nat.eq_zero_or_pos m
        · exact .inl (by simpa using value)
        · refine .inr ⟨m, q.toNat + 52, ⟨by omega, small, ?_⟩, by omega⟩
          rw [value, Nat.mul_assoc, ← Nat.pow_add]
      · have numerator : (fraction m q).1 = m := by
          unfold fraction
          rw [if_neg whole]
        have above : -(m : Int) ≤ -((fraction m q).1 : Int) / (fraction m q).2 := by
          rw [Int.le_ediv_iff_mul_le denominator, numerator]
          nlinarith
        obtain zero | positive := Nat.eq_zero_or_pos n.toNat
        · exact .inl zero
        · obtain ⟨m', j, digits, fits⟩ := exists_digits positive (by omega)
          exact .inr ⟨m', j, digits, by omega⟩

/-- A whole number that is not too large for a double is a finite one. -/
theorem isFinite_ofInt? {n : ℤ} {x : Float} (whole : ofInt? n = some x) : x.isFinite = true := by
  unfold ofInt? at whole
  dsimp only at whole
  split at whole
  · cases whole
  · next bounded =>
    cases whole
    exact isFinite_nearest (Bool.eq_false_iff.mpr bounded)

end WormLang.Number
