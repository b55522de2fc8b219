import WormLang.Builder.OfTree
import WormLang.Proofs.Grammar.Terminals
import WormLang.Proofs.Number.Shortest

/-!
Number literals. Every text of a number is read as a double that is not negative. The text of a double that is finite
and not negative is again a text of a number, in one of three notations: a whole number in full, or the digits of the
shortest decimal with the point set or with an exponent. Whatever the notation, the text stands for a decimal that
rounds to the double, and is read as this double. An infinite double has no text that is one of a number.
-/
namespace WormLang.Number

open Grammar (Mantissa Exponent Terminal)

/-! ### Digits -/

theorem digitsValue_eq (ds : List Char) : digitsValue ds = Nat.ofDigitChars 10 ds 0 := Nat.ofDigitChars_eq_foldl.symm

theorem digitsValue_append (ds es : List Char) :
    digitsValue (ds ++ es) = digitsValue ds * 10 ^ es.length + digitsValue es := by
  rw [digitsValue_eq, digitsValue_eq, digitsValue_eq, Nat.ofDigitChars_append, Nat.ofDigitChars_eq_ofDigitChars_zero,
    Nat.mul_comm]

theorem digitsValue_digitsOf (n : Nat) : digitsValue (digitsOf n) = n := by
  rw [digitsValue_eq]
  exact Nat.ofDigitChars_ten_toDigits

theorem digitsValue_zeros (k : Nat) : digitsValue (List.replicate k '0') = 0 := by
  rw [digitsValue_eq, Nat.ofDigitChars_replicate_zero, Nat.mul_zero]

theorem isDigit_of_mem_digitsOf {n : Nat} {c : Char} (member : c ∈ digitsOf n) : c.isDigit = true :=
  Nat.isDigit_of_mem_toDigits (by decide) (by decide) member

theorem isDigit_of_mem_zeros {k : Nat} {c : Char} (member : c ∈ List.replicate k '0') : c.isDigit = true := by
  rw [List.eq_of_mem_replicate member]
  rfl

theorem digitsOf_ne_nil (n : Nat) : digitsOf n ≠ [] := Nat.toDigits_ne_nil

/-- The zeros at the end of digits are all that is dropped. -/
theorem exists_trailingZeros (ds : List Char) : ∃ k, ds = dropTrailingZeros ds ++ List.replicate k '0' := by
  refine ⟨(ds.reverse.takeWhile (· == '0')).length, ?_⟩
  have zeros : ds.reverse.takeWhile (· == '0') = List.replicate (ds.reverse.takeWhile (· == '0')).length '0' :=
    List.eq_replicate_iff.mpr ⟨rfl, fun c member => by simpa using List.mem_takeWhile_imp member⟩
  have whole := congrArg List.reverse (List.takeWhile_append_dropWhile (p := (· == '0')) (l := ds.reverse))
  rw [List.reverse_reverse, List.reverse_append, zeros, List.reverse_replicate] at whole
  exact whole.symm

/-! ### Reading -/

/-- A text is that of a number, and is read as the double nearest to a decimal. -/
structure Denotes (cs : List Char) (digits : Nat) (e : ℤ) : Prop where
  number : Terminal.Text .number cs
  reads : readDecimal? cs = some (ofDecimal digits e)

theorem takeWhile_digits {w rest : List Char} (digits : ∀ c ∈ w, c.isDigit = true)
    (stops : ∀ c ∈ rest.head?, c.isDigit = false) :
    (w ++ rest).takeWhile Char.isDigit = w ∧ (w ++ rest).dropWhile Char.isDigit = rest := by
  rw [List.takeWhile_append_of_pos digits, List.dropWhile_append_of_pos digits]
  cases rest with
  | nil => exact ⟨List.append_nil w, rfl⟩
  | cons c rest =>
    have stop : ¬ c.isDigit = true := by simp [stops c rfl]
    rw [List.takeWhile_cons_of_neg stop, List.dropWhile_cons_of_neg stop]
    exact ⟨List.append_nil w, rfl⟩

theorem isDigits_iff {w : List Char} : isDigits w = true ↔ Grammar.Digits w := by
  unfold isDigits Grammar.Digits
  rw [Bool.and_eq_true, List.all_eq_true]
  simp

/-- An exponent starts with its letter. -/
theorem head?_exponent {v : List Char} (exponent : Exponent v) :
    ∀ c ∈ v.head?, c.isDigit = false ∧ c ≠ '.' := by
  intro c first
  cases exponent with
  | none => cases first
  | plain letter | signed letter =>
    cases first
    obtain rfl | rfl := letter <;> decide

/-- Every exponent is read. -/
theorem exists_readExponent {v : List Char} (exponent : Exponent v) : ∃ e, readExponent? v = some e := by
  cases exponent with
  | none => exact ⟨0, rfl⟩
  | @plain c w letter digits =>
    have mark : (c != 'e' && c != 'E') = false := by obtain rfl | rfl := letter <;> rfl
    unfold readExponent?
    dsimp only
    rw [mark, if_neg (by decide)]
    split
    · next ds => exact absurd (digits.2 '+' List.mem_cons_self) (by decide)
    · next ds => exact absurd (digits.2 '-' List.mem_cons_self) (by decide)
    · exact ⟨_, if_pos (isDigits_iff.mpr digits)⟩
  | @signed c sign w letter signs digits =>
    have mark : (c != 'e' && c != 'E') = false := by obtain rfl | rfl := letter <;> rfl
    unfold readExponent?
    dsimp only
    rw [mark, if_neg (by decide)]
    obtain rfl | rfl := signs
    · exact ⟨_, if_pos (isDigits_iff.mpr digits)⟩
    · exact ⟨_, if_pos (isDigits_iff.mpr digits)⟩

theorem readDecimal?_eq {w p v rest : List Char} {e : ℤ} (whole : ∀ c ∈ w, c.isDigit = true)
    (stops : ∀ c ∈ rest.head?, c.isDigit = false) (places : readPlaces rest = (p, v))
    (present : (w.isEmpty && p.isEmpty) = false) (read : readExponent? v = some e) :
    readDecimal? (w ++ rest) = some (ofDecimal (digitsValue (w ++ p)) (e - p.length)) := by
  obtain ⟨taken, left⟩ := takeWhile_digits whole stops
  unfold readDecimal?
  rw [taken, left]
  dsimp only
  rw [places]
  dsimp only
  rw [present, if_neg (by decide), read]
  rfl

/-- Digits, and perhaps an exponent. -/
theorem denotes_whole {w v : List Char} {e : ℤ} (whole : Grammar.Digits w) (exponent : Exponent v)
    (read : readExponent? v = some e) : Denotes (w ++ v) (digitsValue w) e := by
  have pointless : readPlaces v = ([], v) := by
    unfold readPlaces
    split
    · exact absurd rfl (head?_exponent exponent '.' rfl).2
    · rfl
  have present : (w.isEmpty && ([] : List Char).isEmpty) = false := by simp [whole.1]
  have reads := readDecimal?_eq whole.2 (fun c first => (head?_exponent exponent c first).1) pointless present read
  rw [List.append_nil, List.length_nil, Nat.cast_zero, sub_zero] at reads
  exact ⟨.number (.whole whole) exponent, reads⟩

/-- Digits behind a point, perhaps digits in front of it, and perhaps an exponent. -/
theorem denotes_point {w p v : List Char} {e : ℤ} (mantissa : Mantissa (w ++ '.' :: p))
    (whole : ∀ c ∈ w, c.isDigit = true) (places : Grammar.Digits p) (exponent : Exponent v)
    (read : readExponent? v = some e) :
    Denotes (w ++ '.' :: (p ++ v)) (digitsValue (w ++ p)) (e - p.length) := by
  have text := Terminal.Text.number mantissa exponent
  rw [List.append_assoc, List.cons_append] at text
  have behind : readPlaces ('.' :: (p ++ v)) = (p, v) := by
    obtain ⟨taken, rest⟩ := takeWhile_digits places.2 fun c first => (head?_exponent exponent c first).1
    show ((p ++ v).takeWhile Char.isDigit, (p ++ v).dropWhile Char.isDigit) = _
    rw [taken, rest]
  refine ⟨text, readDecimal?_eq whole (fun c first => ?_) behind (by simp [places.1]) read⟩
  cases first
  rfl

/-- Every text of a number is read. -/
theorem exists_denotes {cs : List Char} (text : Terminal.Text .number cs) : ∃ digits e, Denotes cs digits e := by
  cases text with
  | number mantissa exponent =>
    obtain ⟨e, read⟩ := exists_readExponent exponent
    cases mantissa with
    | whole digits => exact ⟨_, _, denotes_whole digits exponent read⟩
    | both digits places =>
      rw [List.append_assoc, List.cons_append]
      exact ⟨_, _, denotes_point (.both digits places) digits.2 places exponent read⟩
    | places places => exact ⟨_, _, denotes_point (w := []) (.places places) (by simp) places exponent read⟩

/-! ### Writing -/

/-- A text denotes a decimal that is worth a rational. -/
def Worth (cs : List Char) (v : ℚ) : Prop := ∃ digits e, Denotes cs digits e ∧ (digits * 10 ^ e : ℚ) = v

theorem grammar_digits_digitsOf (n : Nat) : Grammar.Digits (digitsOf n) :=
  ⟨digitsOf_ne_nil n, fun _ => isDigit_of_mem_digitsOf⟩

/-- The exponent that is written is read again. -/
theorem exponentText_spec (e : ℤ) : Exponent (exponentText e) ∧ readExponent? (exponentText e) = some e := by
  have shown : ∀ ds, ds = (if (digitsOf e.natAbs).length < 2 then '0' :: digitsOf e.natAbs else digitsOf e.natAbs) →
      Grammar.Digits ds ∧ digitsValue ds = e.natAbs := by
    rintro ds rfl
    split
    · refine ⟨⟨List.cons_ne_nil _ _, fun c member => ?_⟩, ?_⟩
      · obtain rfl | member := List.mem_cons.mp member
        · rfl
        · exact isDigit_of_mem_digitsOf member
      · have zero : digitsValue ['0'] = 0 := rfl
        have whole := digitsValue_append ['0'] (digitsOf e.natAbs)
        rwa [zero, Nat.zero_mul, Nat.zero_add, digitsValue_digitsOf] at whole
    · exact ⟨grammar_digits_digitsOf _, digitsValue_digitsOf _⟩
  unfold exponentText
  dsimp only
  obtain ⟨digits, value⟩ := shown _ rfl
  generalize (if (digitsOf e.natAbs).length < 2 then _ else _) = ds at digits value ⊢
  have all : isDigits ds = true := isDigits_iff.mpr digits
  by_cases negative : e < 0
  · rw [if_pos negative]
    refine ⟨.signed (.inl rfl) (.inr rfl) digits, ?_⟩
    show (if isDigits ds then some (-(digitsValue ds : ℤ)) else none) = _
    rw [if_pos all, value]
    exact congrArg some (by omega)
  · rw [if_neg negative]
    refine ⟨.signed (.inl rfl) (.inl rfl) digits, ?_⟩
    show (if isDigits ds then some (digitsValue ds : ℤ) else none) = _
    rw [if_pos all, value]
    exact congrArg some (by omega)

variable {ds : List Char} {point : ℤ}

/-- Digits in scientific notation. -/
theorem worth_scientific (digits : Grammar.Digits ds) (point : ℤ) :
    Worth (scientific ds point) (digitsValue ds * 10 ^ (point - ds.length)) := by
  obtain ⟨exponent, read⟩ := exponentText_spec (point - 1)
  match ds, digits with
  | [], digits => exact absurd rfl digits.1
  | [first], digits => exact ⟨_, _, denotes_whole digits exponent read, rfl⟩
  | first :: second :: rest, ⟨_, all⟩ =>
    have single : Grammar.Digits [first] := ⟨List.cons_ne_nil _ _, fun c member => all c (by simp_all)⟩
    have places : Grammar.Digits (second :: rest) :=
      ⟨List.cons_ne_nil _ _, fun c member => all c (List.mem_cons_of_mem _ member)⟩
    refine ⟨_, _, denotes_point (.both single places) single.2 places exponent read, ?_⟩
    simp only [List.length_cons, List.singleton_append]
    push_cast
    congr 2
    ring

/-- Digits with a point between them. -/
theorem worth_point {w p : List Char} (whole : Grammar.Digits w) (places : Grammar.Digits p) :
    Worth (w ++ '.' :: p) (digitsValue (w ++ p) * 10 ^ (-(p.length : ℤ))) := by
  have denotes := denotes_point (.both whole places) whole.2 places .none rfl
  rw [List.append_nil, zero_sub] at denotes
  exact ⟨_, _, denotes, rfl⟩

theorem digits_zero : Grammar.Digits ['0'] := ⟨List.cons_ne_nil _ _, by simp⟩

/-- Zeros may stand on either side of digits. -/
theorem digits_of_forall {cs : List Char} (among : ∀ c ∈ cs, c ∈ ds ∨ c = '0') (some : cs ≠ [])
    (digits : Grammar.Digits ds) : Grammar.Digits cs := by
  refine ⟨some, fun c member => ?_⟩
  obtain given | rfl := among c member
  · exact digits.2 c given
  · rfl

/-- Digits behind the point, with zeros before them. -/
theorem worth_behind (digits : Grammar.Digits ds) (k : ℕ) :
    Worth ('0' :: '.' :: (List.replicate k '0' ++ ds)) (digitsValue ds * 10 ^ (-(k : ℤ) - ds.length)) := by
  have places : Grammar.Digits (List.replicate k '0' ++ ds) := by
    refine digits_of_forall (fun c member => ?_) (List.append_ne_nil_of_right_ne_nil _ digits.1) digits
    obtain filled | given := List.mem_append.mp member
    · exact .inr (List.eq_of_mem_replicate filled)
    · exact .inl given
  have value : digitsValue (['0'] ++ (List.replicate k '0' ++ ds)) = digitsValue ds := by
    have nothing : digitsValue (['0'] ++ List.replicate k '0') = 0 := digitsValue_zeros (k + 1)
    rw [← List.append_assoc, digitsValue_append, nothing, Nat.zero_mul, Nat.zero_add]
  have place : -((k + ds.length : ℕ) : ℤ) = -(k : ℤ) - ds.length := by omega
  have worth := worth_point digits_zero places
  rwa [value, List.length_append, List.length_replicate, place] at worth

/-- Digits before the point, with zeros behind them up to it. -/
theorem worth_before (digits : Grammar.Digits ds) (k : ℕ) :
    Worth (ds ++ List.replicate k '0' ++ ['.', '0']) (digitsValue ds * 10 ^ (k : ℤ)) := by
  have whole : Grammar.Digits (ds ++ List.replicate k '0') := by
    refine digits_of_forall (fun c member => ?_) (List.append_ne_nil_of_left_ne_nil digits.1 _) digits
    obtain given | filled := List.mem_append.mp member
    · exact .inl given
    · exact .inr (List.eq_of_mem_replicate filled)
  have value : digitsValue (ds ++ List.replicate k '0' ++ ['0']) = digitsValue ds * 10 ^ (k + 1) := by
    rw [List.append_assoc, ← List.replicate_succ', digitsValue_append, digitsValue_zeros, List.length_replicate,
      Nat.add_zero]
  have worth := worth_point whole digits_zero
  rw [value] at worth
  refine (congrArg (Worth _) ?_).mp worth
  rw [Nat.cast_mul, Nat.cast_pow, mul_assoc, ← zpow_natCast, Nat.cast_ofNat, ← zpow_add₀ (by norm_num)]
  congr 2
  simp only [List.length_singleton]
  omega

/-- Digits on both sides of the point. -/
theorem worth_between (digits : Grammar.Digits ds) {k : ℕ} (positive : 0 < k) (less : k < ds.length) :
    Worth (ds.take k ++ '.' :: ds.drop k) (digitsValue ds * 10 ^ ((k : ℤ) - ds.length)) := by
  have whole : Grammar.Digits (ds.take k) := by
    refine digits_of_forall (fun c member => .inl (List.mem_of_mem_take member)) ?_ digits
    exact List.ne_nil_of_length_pos (by rw [List.length_take]; omega)
  have places : Grammar.Digits (ds.drop k) := by
    refine digits_of_forall (fun c member => .inl (List.mem_of_mem_drop member)) ?_ digits
    exact List.ne_nil_of_length_pos (by rw [List.length_drop]; omega)
  have place : -((ds.length - k : ℕ) : ℤ) = (k : ℤ) - ds.length := by omega
  have worth := worth_point whole places
  rwa [List.take_append_drop, List.length_drop, place] at worth

/-- Digits in positional notation, with a point in any case. -/
theorem worth_positional {layout : Layout} (keepZero : layout.keepZero = true) (digits : Grammar.Digits ds)
    (point : ℤ) : Worth (positional layout ds point) (digitsValue ds * 10 ^ (point - ds.length)) := by
  unfold positional
  split
  · next low =>
    have place : -((-point).toNat : ℤ) = point := by omega
    have worth := worth_behind digits (-point).toNat
    rwa [place] at worth
  · next high =>
    have width : (point.toNat : ℤ) = point := by omega
    dsimp only
    split
    · next all =>
      have short : ds.length ≤ point.toNat := List.drop_eq_nil_iff.mp all
      have place : ((point.toNat - ds.length : ℕ) : ℤ) = point - ds.length := by omega
      have worth := worth_before digits (point.toNat - ds.length)
      rw [List.take_of_length_le short]
      rwa [place] at worth
    · next rest more =>
      have long : point.toNat < ds.length := Nat.not_le.mp fun short => more (List.drop_eq_nil_iff.mpr short)
      have unfilled : point.toNat - ds.length = 0 := Nat.sub_eq_zero_of_le long.le
      have worth := worth_between digits (by omega) long
      rw [unfilled, List.replicate_zero, List.append_nil]
      rwa [width] at worth

/-- A decimal that is not zero is written as a text that is worth it. -/
theorem worth_write {layout : Layout} (keepZero : layout.keepZero = true) {d : Decimal} (positive : 0 < d.digits) :
    Worth (layout.write d) (d.digits * 10 ^ d.exponent) := by
  obtain ⟨k, whole⟩ := exists_trailingZeros (digitsOf d.digits)
  have value : d.digits = digitsValue (dropTrailingZeros (digitsOf d.digits)) * 10 ^ k := by
    have read := digitsValue_digitsOf d.digits
    rw [whole, digitsValue_append, digitsValue_zeros, List.length_replicate, Nat.add_zero] at read
    exact read.symm
  have length : (digitsOf d.digits).length = (dropTrailingZeros (digitsOf d.digits)).length + k := by
    have counted := congrArg List.length whole
    rwa [List.length_append, List.length_replicate] at counted
  have digits : Grammar.Digits (dropTrailingZeros (digitsOf d.digits)) := by
    constructor
    · intro nothing
      have zero : digitsValue [] = 0 := rfl
      rw [nothing, zero, Nat.zero_mul] at value
      omega
    · intro c member
      refine isDigit_of_mem_digitsOf (n := d.digits) ?_
      rw [whole]
      exact List.mem_append_left _ member
  have same : (d.digits * 10 ^ d.exponent : ℚ) = digitsValue (dropTrailingZeros (digitsOf d.digits)) *
      10 ^ (d.exponent + (digitsOf d.digits).length - (dropTrailingZeros (digitsOf d.digits)).length) := by
    have cast : (d.digits : ℚ) = digitsValue (dropTrailingZeros (digitsOf d.digits)) * 10 ^ k := by exact_mod_cast value
    rw [cast, mul_assoc, ← zpow_natCast, ← zpow_add₀ (by norm_num)]
    congr 2
    omega
  rw [same]
  unfold Layout.write
  dsimp only
  split
  · exact worth_positional keepZero digits _
  · exact worth_scientific digits _

/-- A count of last places is written as a text that is worth it. -/
theorem worth_setPoint (count : Nat) {places : Nat} (some : 0 < places) :
    Worth (setPoint count places) (count * 10 ^ (-(places : ℤ))) := by
  unfold setPoint
  dsimp only
  have filled : Grammar.Digits (List.replicate (places + 1 - (digitsOf count).length) '0' ++ digitsOf count) := by
    refine ⟨List.append_ne_nil_of_right_ne_nil _ (digitsOf_ne_nil count), fun c member => ?_⟩
    obtain zero | digit := List.mem_append.mp member
    · exact isDigit_of_mem_zeros zero
    · exact isDigit_of_mem_digitsOf digit
  have value : digitsValue (List.replicate (places + 1 - (digitsOf count).length) '0' ++ digitsOf count) = count := by
    rw [digitsValue_append, digitsValue_zeros, Nat.zero_mul, Nat.zero_add, digitsValue_digitsOf]
  have long : places < (List.replicate (places + 1 - (digitsOf count).length) '0' ++ digitsOf count).length := by
    rw [List.length_append, List.length_replicate]
    omega
  generalize List.replicate (places + 1 - (digitsOf count).length) '0' ++ digitsOf count = ds at filled value long ⊢
  have worth := worth_point (w := ds.take (ds.length - places)) (p := ds.drop (ds.length - places))
    ⟨List.ne_nil_of_length_pos (by rw [List.length_take]; omega),
      fun c member => filled.2 c (List.mem_of_mem_take member)⟩
    ⟨List.ne_nil_of_length_pos (by rw [List.length_drop]; omega),
      fun c member => filled.2 c (List.mem_of_mem_drop member)⟩
  rw [List.take_append_drop, value, List.length_drop, Nat.sub_sub_self long.le] at worth
  exact worth

/-! ### The text of a double -/

variable {m : Nat} {q : ℤ} {x : Float}

/-- A text that is worth something that rounds to a double is read as this double. -/
theorem Worth.reads {cs : List Char} {v : ℚ} (worth : Worth cs v) (size : parts x = .finite false m q)
    (positive : 0 < m) (rounds : Rounds m q v) : Terminal.Text .number cs ∧ readDecimal? cs = some x := by
  obtain ⟨digits, e, denotes, rfl⟩ := worth
  exact ⟨denotes.number, denotes.reads.trans (congrArg some (ofDecimal_of_rounds size positive rounds))⟩

/-- A text that is worth nothing is read as zero. -/
theorem Worth.reads_zero {cs : List Char} (worth : Worth cs 0) (size : parts x = .finite false 0 q) :
    Terminal.Text .number cs ∧ readDecimal? cs = some x := by
  obtain ⟨digits, e, denotes, nothing⟩ := worth
  have zero : digits = 0 := by
    have either := mul_eq_zero.mp nothing
    exact_mod_cast either.resolve_right (ten_zpow_pos e).ne'
  obtain rfl : q = -1074 := by
    obtain ⟨-, -, -, full⟩ := bounds_of_parts size
    omega
  have same : ofDecimal digits e = x := by
    have none : parts (0.0 : Float) = .finite false 0 (-1074) := by decide
    rw [zero]
    exact eq_of_parts none size
  exact ⟨denotes.number, denotes.reads.trans (congrArg some same)⟩

/-- A whole number is written in full. -/
theorem worth_fixedText (size : parts x = .finite false m q) (whole : isWhole x = true) :
    Worth (fixedText 1 x).toList (m * 2 ^ q) := by
  have divides : (fraction m q).2 ∣ (fraction m q).1 := by
    unfold isWhole at whole
    rw [size] at whole
    dsimp only at whole
    unfold fraction
    split
    · exact one_dvd _
    · next less =>
      rw [if_neg less] at whole
      exact Nat.dvd_of_mod_eq_zero (beq_iff_eq.mp whole)
  obtain ⟨n, numerator⟩ := divides
  have denominator : 0 < (fraction m q).2 := fraction_den_pos m q
  have value : (m * 2 ^ q : ℚ) = n := by
    rw [← fraction_div, numerator, Nat.cast_mul, mul_div_cancel_left₀]
    exact_mod_cast denominator.ne'
  have count : roundPlaces m q 1 = n * 10 := by
    show roundDiv ((fraction m q).1 * 10) (fraction m q).2 = n * 10
    rw [numerator, Nat.mul_assoc, Nat.mul_comm, roundDiv_mul _ denominator]
  have text : (fixedText 1 x).toList = setPoint (n * 10) 1 := by
    unfold fixedText
    rw [size]
    dsimp only
    rw [count, String.toList_ofList]
    rfl
  have worth := worth_setPoint (n * 10) (show 0 < 1 by decide)
  rw [text, value]
  refine (congrArg (Worth _) ?_).mp worth
  push_cast
  rw [zpow_neg, zpow_one, mul_inv_cancel_right₀ (by norm_num)]

/-- The text of a finite double that is not negative is one of a number, and is read as the double. -/
theorem displayText_reads (size : parts x = .finite false m q) :
    Terminal.Text .number (displayText x).toList ∧ readDecimal? (displayText x).toList = some x := by
  unfold displayText
  split
  · next whole =>
    have worth := worth_fixedText size whole
    obtain rfl | positive := Nat.eq_zero_or_pos m
    · rw [Nat.cast_zero, zero_mul] at worth
      exact worth.reads_zero size
    · exact worth.reads size positive (rounds_self positive q)
  · next broken =>
    have positive : 0 < m := by
      refine Nat.pos_of_ne_zero fun zero => broken ?_
      unfold isWhole
      rw [size, zero]
      dsimp only
      split <;> simp
    obtain ⟨some, rounds⟩ := rounds_shortest (canonical_of_parts size positive)
    have text : (text x).toList = message.write (shortest m q) := by
      unfold Number.text
      rw [size]
      dsimp only
      rw [if_neg positive.ne', String.toList_ofList]
      rfl
    rw [text]
    exact (worth_write rfl some).reads size positive rounds

/-- The text of what is infinite is not one of a number. -/
theorem displayText_infinite (infinite : parts x = .infinite false) :
    displayText x = "inf" ∧ ¬ Terminal.Text .number "inf".toList := by
  refine ⟨?_, fun text => ?_⟩
  · unfold displayText isWhole text
    rw [infinite]
    rfl
  · obtain ⟨digits, e, denotes⟩ := exists_denotes text
    have unread : readDecimal? "inf".toList = none := by decide
    rw [denotes.reads] at unread
    cases unread

end WormLang.Number

namespace WormLang

open Grammar (Terminal)
open Number (readDecimal? displayText)

/-- Every text of a number is read as a double, of which a literal is built. The text of this literal is again a text
of a number that is read as the same double, exactly if the double is finite; otherwise it is the name of infinity. -/
theorem ExprTree.build_number_survives {text : String} (number : Terminal.Text .number text.toList) (extent : Extent)
    (file : Option String) (b : Builder) :
    ∃ x shown, readDecimal? text.toList = some x ∧
      ((ExprTree.number extent text).build file).run b = (.number (extent.position file) x, b) ∧
      (Expr.number (extent.position file) x).unparse = .ok shown ∧
      ((Terminal.Text .number shown.toList ∧ readDecimal? shown.toList = some x) ↔ x.isFinite = true) ∧
      (x.isFinite = false → shown = "inf") := by
  obtain ⟨digits, e, denotes⟩ := Number.exists_denotes number
  have value : literalValue text = Number.ofDecimal digits e := by
    unfold literalValue
    rw [denotes.reads]
    rfl
  refine ⟨Number.ofDecimal digits e, displayText (Number.ofDecimal digits e), denotes.reads, ?_, rfl, ?_⟩
  · rw [← value]
    rfl
  · have status : ∀ x : Float, x.isFinite = (Number.parts x).unpacked.isFinite := fun x =>
      congrArg Float.Model.UnpackedFloat.isFinite (Number.unpack_eq x)
    obtain infinite | ⟨m, q, size⟩ := Number.unsigned_ofDecimal digits e
    · obtain ⟨shown, none⟩ := Number.displayText_infinite infinite
      have endless : (Number.ofDecimal digits e).isFinite = false := by
        rw [status, infinite]
        rfl
      rw [shown, endless]
      exact ⟨⟨fun survives => absurd survives.1 none, nofun⟩, fun _ => rfl⟩
    · have ends : (Number.ofDecimal digits e).isFinite = true := by
        rw [status, size]
        unfold Number.Parts.unpacked
        dsimp only
        split <;> rfl
      rw [ends]
      exact ⟨⟨fun _ => rfl, fun _ => Number.displayText_reads size⟩, nofun⟩

namespace Pinch

def extent : Extent := { start := { line := 1, column := 7 }, stop := { line := 1, column := 14 } }

theorem text : Terminal.Text .number "2.50e-7".toList :=
  .number (w := ['2', '.', '5', '0']) (v := ['e', '-', '7'])
    (.both (w := ['2']) (v := ['5', '0']) ⟨by simp, by simp⟩ ⟨by simp, by simp⟩)
    (.signed (.inl rfl) (.inr rfl) ⟨by simp, by simp⟩)

theorem finite : (readDecimal? "2.50e-7".toList).map Float.isFinite = some true := by decide +kernel

theorem shown : (readDecimal? "2.50e-7".toList).map displayText = some "2.5e-07" := by decide +kernel

end Pinch

theorem pinch_survives : Terminal.Text .number "2.50e-7".toList ∧
    ∃ x, readDecimal? "2.50e-7".toList = some x ∧
      ((ExprTree.number Pinch.extent "2.50e-7").build none).run {} = (.number (Pinch.extent.position none) x, {}) ∧
      (Expr.number (Pinch.extent.position none) x).unparse = .ok "2.5e-07" ∧
      Terminal.Text .number "2.5e-07".toList ∧ readDecimal? "2.5e-07".toList = some x := by
  obtain ⟨x, shown, read, built, unparsed, survives, -⟩ :=
    ExprTree.build_number_survives Pinch.text Pinch.extent none {}
  have finite := Pinch.finite
  have written := Pinch.shown
  rw [read] at finite written
  obtain rfl : shown = "2.5e-07" := (Except.ok.inj unparsed).symm.trans (Option.some.inj written)
  obtain ⟨number, again⟩ := survives.mpr (Option.some.inj finite)
  exact ⟨Pinch.text, x, read, built, unparsed, number, again⟩

/-- A literal that is too large for a double does not survive. -/
theorem huge_literal_lost : Terminal.Text .number "1e999".toList ∧
    (Expr.number none (literalValue "1e999")).unparse = .ok "inf" ∧ ¬ Terminal.Text .number "inf".toList := by
  have text : Terminal.Text .number "1e999".toList :=
    .number (w := ['1']) (v := ['e', '9', '9', '9']) (.whole ⟨by simp, by simp⟩) (.plain (.inl rfl) ⟨by simp, by simp⟩)
  have infinite : Number.parts (literalValue "1e999") = .infinite false := by decide +kernel
  obtain ⟨shown, none⟩ := Number.displayText_infinite infinite
  exact ⟨text, congrArg Except.ok shown, none⟩

end WormLang
