/-
# FarmLedger.Proofs.Number.Whole — the whole part of a rounded quotient

A quotient that is hardly less than a whole number is rounded to that number, and cutting off the
fraction of the double then leaves one more than the quotient has (`RoundsUp`). That is the only
way in which the whole part of the double differs from that of the quotient
(`truncate_ofQuotient`), and small quotients are not subject to it (`not_roundsUp`).

A finite double is told from its bits by `unitsOfBits`. Rounding reaches an even number from half
the distance to the number before it (`even_le_halfEven`), and one is an even number of the steps
in which the doubles follow each other, so which whole numbers the double reaches can be told from
the quotient.
-/
import FarmLedger.Proofs.Number.Quotient
import Mathlib.Tactic.Ring

namespace FarmLedger.Number

/-! ## Rounding -/

section Rounding

variable {num den : Nat}

theorem halfEven_cases (num den : Nat) :
    (halfEven num den = num / den ∧ 2 * (num % den) ≤ den ∧
        (2 * (num % den) = den → num / den % 2 = 0)) ∨
      (halfEven num den = num / den + 1 ∧ den ≤ 2 * (num % den) ∧
        (2 * (num % den) = den → num / den % 2 = 1)) := by
  unfold halfEven
  simp only
  generalize num / den = floor
  by_cases below : 2 * (num % den) < den
  · rw [if_pos below]
    omega
  · rw [if_neg below]
    by_cases above : den < 2 * (num % den)
    · rw [if_pos above]
      omega
    · rw [if_neg above]
      omega

/-- A common factor does not count. -/
theorem halfEven_mul_right {factor : Nat} (positive : 0 < factor) :
    halfEven (num * factor) (den * factor) = halfEven num den := by
  have scaled (rest : Nat) : 2 * (rest * factor) = 2 * rest * factor := (Nat.mul_assoc ..).symm
  simp only [halfEven, Nat.mul_div_mul_right _ _ positive, Nat.mul_mod_mul_right, scaled,
    Nat.mul_lt_mul_right positive]

/-- An even number is reached from half the distance to the number before it. -/
theorem even_le_halfEven {q : Nat} (even : q % 2 = 0) (positive : 0 < den) :
    q ≤ halfEven num den ↔ 2 * (q * den) ≤ 2 * num + den := by
  have parts : num / den * den + num % den = num := Nat.div_add_mod' num den
  have below : num % den < den := Nat.mod_lt num positive
  have rounded := halfEven_cases num den
  generalize num / den = floor at parts rounded
  generalize num % den = rest at parts below rounded
  rcases Nat.lt_trichotomy q (floor + 1) with low | rfl | high
  · have : q * den ≤ floor * den := Nat.mul_le_mul_right den (Nat.le_of_lt_succ low)
    exact iff_of_true (by omega) (by omega)
  · -- the number before an even one is odd, so a half goes up
    rw [Nat.succ_mul floor]
    omega
  · have : (floor + 1 + 1) * den ≤ q * den := Nat.mul_le_mul_right den high
    rw [Nat.succ_mul, Nat.succ_mul] at this
    exact iff_of_false (by omega) (by omega)

end Rounding

/-! ## Bits -/

/-- How many units the finite double with these bits is, its sign apart. -/
def unitsOfBits (bits : Nat) : Nat :=
  if bits / 2 ^ 52 = 0 then bits else (2 ^ 52 + bits % 2 ^ 52) * 2 ^ (bits / 2 ^ 52 - 1)

/-- The bits of a finite double are its own. -/
theorem toNat_toBits_ofSignAndBits (negative : Bool) {bits : Nat} (finite : bits < 2047 * 2 ^ 52) :
    (ofSignAndBits negative bits).toBits.toNat = (if negative then 2 ^ 63 else 0) + bits := by
  generalize whole : (if negative then 2 ^ 63 else 0) + bits = word
  have parts : word = 2 ^ 63 + bits ∨ word = bits := by
    cases negative with
    | false => exact .inr (whole.symm.trans (Nat.zero_add _))
    | true => exact .inl whole.symm
  have toNat : (UInt64.ofNat word).toBitVec.toNat = word :=
    UInt64.toNat_ofNat_of_lt' (by show word < 2 ^ 64; omega)
  have valid : Float.Model.Format.binary64.Valid (UInt64.ofNat word).toBitVec := by
    refine ⟨fun top _ => ?_⟩
    have exponent : word / 2 ^ 52 % 2 ^ 11 = 2047 := by
      rw [← toNat, ← toNat_unpackExponent, top]
      rfl
    omega
  have same : (Float.ofBits (UInt64.ofNat word)).toBits.toBitVec = (UInt64.ofNat word).toBitVec :=
    Float.Model.UnpackedFloat.pack_unpack_of_valid valid
  unfold ofSignAndBits
  rw [show (if negative then Nat.pow 2 63 else 0) + bits = word from whole]
  exact (congrArg BitVec.toNat same).trans toNat

theorem units_ofSignAndBits (negative : Bool) {bits : Nat} (finite : bits < 2047 * 2 ^ 52) :
    units (ofSignAndBits negative bits) =
      if negative then -(unitsOfBits bits : Int) else unitsOfBits bits := by
  have word := toNat_toBits_ofSignAndBits negative finite
  generalize ofSignAndBits negative bits = x at word
  have sign : isNegative x = negative := by
    show (x.toBits.toNat / 2 ^ 63 == 1) = negative
    rw [word]
    cases negative with
    | false => exact beq_eq_false_iff_ne.2 (by simp only [Bool.false_eq_true, if_false]; omega)
    | true => exact beq_iff_eq.2 (by simp only [if_true]; omega)
  have field : x.toBits.toNat / 2 ^ 52 % 2048 = bits / 2 ^ 52 := by
    rw [word]
    cases negative <;> simp only [Bool.false_eq_true, if_false, if_true] <;> omega
  have fraction : x.toBits.toNat % 2 ^ 52 = bits % 2 ^ 52 := by
    rw [word]
    cases negative <;> simp only [Bool.false_eq_true, if_false, if_true] <;> omega
  have notTop : bits / 2 ^ 52 ≠ 2047 := by omega
  unfold units reading
  simp only [show Nat.pow 2 52 = 2 ^ 52 from rfl, field, fraction, sign, if_neg notTop, unitsOfBits]
  by_cases small : bits / 2 ^ 52 = 0
  · have own : bits % 2 ^ 52 = bits := Nat.mod_eq_of_lt (by omega)
    rw [if_pos small, if_pos small, own]
    show (if negative then -((bits : Int) * 1) else (bits : Int) * 1) = _
    rw [Int.mul_one]
  · have exponent : ((bits / 2 ^ 52 : Nat) - 1075 + 1074 : Int).toNat = bits / 2 ^ 52 - 1 := by
      omega
    rw [if_neg small, if_neg small]
    simp only [exponent, ← Int.natCast_mul]
    rfl

/-! ## The nearest double -/

/-- How far the doubles around so many units are apart, as a power of two. -/
def spacing (floor : Nat) : Nat :=
  floor.log2 - 52

/-- In steps of the spacing, 2⁵³ units and more are numbers of 53 binary digits. -/
theorem div_spacing {floor : Nat} (large : 2 ^ 53 ≤ floor) :
    2 ^ 52 ≤ floor / 2 ^ spacing floor ∧ floor / 2 ^ spacing floor < 2 ^ 53 := by
  have nonzero : floor ≠ 0 := by omega
  have long : 53 ≤ floor.log2 := (Nat.le_log2 nonzero).2 large
  have length : 52 + spacing floor = floor.log2 := Nat.add_sub_of_le (by omega)
  constructor
  · rw [Nat.le_div_iff_mul_le (Nat.two_pow_pos _), ← Nat.pow_add, length]
    exact Nat.log2_self_le nonzero
  · rw [Nat.div_lt_iff_lt_mul (Nat.two_pow_pos _), ← Nat.pow_add,
      show 53 + spacing floor = floor.log2 + 1 by omega]
    exact Nat.lt_log2_self

/-- Steps up to 2⁵³ are found in the bits; the last of them is the first one of the next power. -/
theorem unitsOfBits_steps {shift steps : Nat} (low : 2 ^ 52 ≤ steps) (high : steps ≤ 2 ^ 53) :
    unitsOfBits (shift * 2 ^ 52 + steps) = steps * 2 ^ shift := by
  unfold unitsOfBits
  rcases Nat.lt_or_eq_of_le high with inside | rfl
  · have field : (shift * 2 ^ 52 + steps) / 2 ^ 52 = shift + 1 := by omega
    have fraction : 2 ^ 52 + (shift * 2 ^ 52 + steps) % 2 ^ 52 = steps := by omega
    rw [field, if_neg (Nat.succ_ne_zero _), fraction]
    rfl
  · have field : (shift * 2 ^ 52 + 2 ^ 53) / 2 ^ 52 = shift + 2 := by omega
    have fraction : 2 ^ 52 + (shift * 2 ^ 52 + 2 ^ 53) % 2 ^ 52 = 2 ^ 52 := by omega
    rw [field, if_neg (Nat.succ_ne_zero _), fraction, show shift + 2 - 1 = shift + 1 from rfl,
      Nat.pow_succ 2 shift]
    omega

/-- From 2⁵³ units on, a quotient is rounded to the spacing of the doubles around it. -/
theorem unitsOfBits_nearestBits {num den : Nat} (large : 2 ^ 53 ≤ num / den)
    (reach : spacing (num / den) ≤ 2044) :
    nearestBits num den < 2047 * 2 ^ 52 ∧
      unitsOfBits (nearestBits num den) =
        halfEven num (den * 2 ^ spacing (num / den)) * 2 ^ spacing (num / den) := by
  have steps := div_spacing large
  rw [Nat.div_div_eq_div_mul] at steps
  have rounded := halfEven_cases num (den * 2 ^ spacing (num / den))
  have bits : nearestBits num den = min (spacing (num / den) * 2 ^ 52 +
      halfEven num (den * 2 ^ spacing (num / den))) (2047 * 2 ^ 52) := if_neg (Nat.not_lt.2 large)
  rw [bits, Nat.min_eq_left (by omega)]
  exact ⟨by omega, unitsOfBits_steps (by omega) (by omega)⟩

/-! ## The whole part -/

section Whole

variable {num den : Nat}

/-- How many binary places the doubles around a quotient have after the point. -/
def binaryPlaces (num den : Nat) : Nat :=
  1074 - spacing (num * 2 ^ 1074 / den)

theorem log2_lt_of_lt {n digits : Nat} (some_ : 0 < digits) (short : n < 2 ^ digits) :
    n.log2 < digits := by
  by_cases zero : n = 0
  · rw [zero]
    exact some_
  · exact (Nat.log2_lt zero).2 short

/-- A power of two is so many binary digits. -/
theorem log2_mul_two_pow_div (shift : Nat) (positive : 0 < den) (whole : num / den ≠ 0) :
    (num * 2 ^ shift / den).log2 = (num / den).log2 + shift := by
  have low : 2 ^ ((num / den).log2 + shift) ≤ num * 2 ^ shift / den := by
    rw [Nat.le_div_iff_mul_le positive, Nat.pow_add, Nat.mul_right_comm]
    refine Nat.mul_le_mul_right _ (Nat.le_trans ?_ (Nat.div_mul_le_self num den))
    exact Nat.mul_le_mul_right _ (Nat.log2_self_le whole)
  have high : num * 2 ^ shift / den < 2 ^ ((num / den).log2 + shift + 1) := by
    rw [Nat.div_lt_iff_lt_mul positive, Nat.add_right_comm, Nat.pow_add, Nat.mul_right_comm]
    refine Nat.mul_lt_mul_of_pos_right ?_ (Nat.two_pow_pos _)
    exact (Nat.div_lt_iff_lt_mul positive).1 Nat.lt_log2_self
  have nonzero : num * 2 ^ shift / den ≠ 0 :=
    Nat.ne_of_gt (Nat.lt_of_lt_of_le (Nat.two_pow_pos _) low)
  exact (Nat.log2_eq_iff nonzero).2 ⟨low, high⟩

theorem log2_mul_two_pow_div_lt (shift : Nat) (some_ : 0 < shift) (positive : 0 < den)
    (part : num / den = 0) : (num * 2 ^ shift / den).log2 < shift := by
  have below : num < den := Nat.lt_of_div_eq_zero positive part
  refine log2_lt_of_lt some_ ?_
  rw [Nat.div_lt_iff_lt_mul positive, Nat.mul_comm]
  exact Nat.mul_lt_mul_of_pos_left below (Nat.two_pow_pos _)

theorem binaryPlaces_of_whole (positive : 0 < den) (whole : num / den ≠ 0)
    (long : (num / den).log2 ≤ 52) : binaryPlaces num den = 52 - (num / den).log2 := by
  unfold binaryPlaces spacing
  rw [log2_mul_two_pow_div 1074 positive whole]
  omega

theorem binaryPlaces_of_part (positive : 0 < den) (part : num / den = 0) :
    53 ≤ binaryPlaces num den := by
  have short := log2_mul_two_pow_div_lt 1074 (by decide) positive part
  unfold binaryPlaces spacing
  omega

/-- The doubles around a quotient below 2⁵² have a binary place after the point. -/
theorem binaryPlaces_pos (positive : 0 < den) (long : (num / den).log2 < 52) :
    0 < binaryPlaces num den := by
  by_cases part : num / den = 0
  · exact Nat.lt_of_lt_of_le (by decide) (binaryPlaces_of_part positive part)
  · rw [binaryPlaces_of_whole positive part (Nat.le_of_lt long)]
    omega

theorem le_mul_two_pow_div (shift : Nat) (nonzero : num ≠ 0) (positive : 0 < den)
    (fine : den < 2 ^ 53) (far : 106 ≤ shift) : 2 ^ 53 ≤ num * 2 ^ shift / den := by
  rw [Nat.le_div_iff_mul_le positive]
  calc 2 ^ 53 * den ≤ 2 ^ 53 * 2 ^ 53 := Nat.mul_le_mul_left _ (Nat.le_of_lt fine)
    _ = 2 ^ 106 := rfl
    _ ≤ 2 ^ shift := Nat.pow_le_pow_right (by decide) far
    _ ≤ num * 2 ^ shift := Nat.le_mul_of_pos_left _ (Nat.pos_of_ne_zero nonzero)

/-- The whole part of a quotient that is rounded to the binary places of the doubles around it. -/
def wholePart (num den : Nat) : Nat :=
  halfEven (num * 2 ^ binaryPlaces num den) den / 2 ^ binaryPlaces num den

/-- Without its sign and its fraction, the double nearest to a quotient is the quotient rounded to
the binary places of the doubles around it. -/
theorem wholePart_eq (nonzero : num ≠ 0) (positive : 0 < den) (fine : den < 2 ^ 53)
    (long : (num / den).log2 < 52) :
    nearestBits (num * 2 ^ 1074) den < 2047 * 2 ^ 52 ∧
      unitsOfBits (nearestBits (num * 2 ^ 1074) den) / 2 ^ 1074 = wholePart num den := by
  have places := binaryPlaces_pos positive long
  have large := le_mul_two_pow_div 1074 nonzero positive fine (by decide)
  unfold wholePart
  unfold binaryPlaces at places ⊢
  generalize shifted : spacing (num * 2 ^ 1074 / den) = shift at places ⊢
  have unit : 2 ^ (1074 - shift) * 2 ^ shift = 2 ^ 1074 := pow_sub_mul_pow 2 (by omega)
  obtain ⟨finite, rounded⟩ := unitsOfBits_nearestBits large (by omega)
  rw [shifted, ← unit, ← Nat.mul_assoc, halfEven_mul_right (Nat.two_pow_pos _)] at rounded
  rw [← unit, ← Nat.mul_assoc] at finite ⊢
  exact ⟨finite, by rw [rounded, Nat.mul_div_mul_right _ _ (Nat.two_pow_pos _)]⟩

/-- The whole numbers that the double nearest to a quotient reaches. -/
theorem le_wholePart_iff {j : Nat} (positive : 0 < den) (long : (num / den).log2 < 52) :
    j ≤ wholePart num den ↔
      2 ^ (binaryPlaces num den + 1) * (j * den) ≤
        2 ^ (binaryPlaces num den + 1) * num + den := by
  obtain ⟨places, same⟩ := Nat.exists_eq_add_one_of_ne_zero
    (Nat.ne_of_gt (binaryPlaces_pos positive long))
  rw [wholePart, same]
  have even : j * 2 ^ (places + 1) % 2 = 0 := by
    rw [Nat.pow_succ, ← Nat.mul_assoc, Nat.mul_mod_left]
  rw [Nat.le_div_iff_mul_le (Nat.two_pow_pos _), even_le_halfEven even positive]
  have left : 2 * (j * 2 ^ (places + 1) * den) = 2 ^ (places + 1 + 1) * (j * den) := by ring
  have right : 2 * (num * 2 ^ (places + 1)) = 2 ^ (places + 1 + 1) * num := by ring
  rw [left, right]

/-- What a quotient lacks to the next whole number is at most half the distance of the doubles
there. -/
def RoundsUp (num den : Nat) : Prop :=
  2 ^ (53 - (num / den).log2) * (den - num % den) ≤ den

instance : Decidable (RoundsUp num den) :=
  inferInstanceAs (Decidable (_ ≤ _))

/-- In small quotients what is missing to a whole number is more than that. -/
theorem not_roundsUp (positive : 0 < den) (small : den < 2 ^ (53 - (num / den).log2)) :
    ¬ RoundsUp num den := by
  have missing : 1 ≤ den - num % den := Nat.sub_pos_of_lt (Nat.mod_lt num positive)
  exact Nat.not_le_of_lt (Nat.lt_of_lt_of_le small (Nat.le_mul_of_pos_right _ missing))

/-- At the places of its doubles a quotient reaches the next whole number if it lacks so little. -/
theorem roundsUp_iff (positive : 0 < den) (fine : den < 2 ^ 53) (long : (num / den).log2 < 52) :
    2 ^ (binaryPlaces num den + 1) * (den - num % den) ≤ den ↔ RoundsUp num den := by
  by_cases part : num / den = 0
  · have missing : 1 ≤ den - num % den := Nat.sub_pos_of_lt (Nat.mod_lt num positive)
    have places : 2 ^ 53 ≤ 2 ^ (binaryPlaces num den + 1) :=
      Nat.pow_le_pow_right (by decide)
        (Nat.le_succ_of_le (binaryPlaces_of_part positive part))
    refine iff_of_false (Nat.not_le_of_lt ?_) (not_roundsUp positive (by rw [part]; exact fine))
    exact Nat.lt_of_lt_of_le (Nat.lt_of_lt_of_le fine places) (Nat.le_mul_of_pos_right _ missing)
  · have places : binaryPlaces num den + 1 = 53 - (num / den).log2 := by
      rw [binaryPlaces_of_whole positive part (Nat.le_of_lt long)]
      omega
    rw [places, RoundsUp]

theorem le_wholePart (positive : 0 < den) (long : (num / den).log2 < 52) :
    num / den ≤ wholePart num den := by
  have own : num / den * den ≤ num := Nat.div_mul_le_self num den
  exact (le_wholePart_iff positive long).2
    (Nat.le_trans (Nat.mul_le_mul_left _ own) (Nat.le_add_right _ _))

/-- The next whole number is reached if the quotient lacks so little to it. -/
theorem succ_le_wholePart_iff (positive : 0 < den) (fine : den < 2 ^ 53)
    (long : (num / den).log2 < 52) : num / den + 1 ≤ wholePart num den ↔ RoundsUp num den := by
  have parts : num / den * den + num % den = num := Nat.div_add_mod' num den
  have below : num % den < den := Nat.mod_lt num positive
  have missing : (num / den + 1) * den = num + (den - num % den) := by
    rw [Nat.succ_mul]
    omega
  rw [le_wholePart_iff positive long, ← roundsUp_iff positive fine long, missing, Nat.mul_add,
    Nat.add_le_add_iff_left]

/-- The one after it is never reached. -/
theorem wholePart_lt (positive : 0 < den) (long : (num / den).log2 < 52) :
    wholePart num den < num / den + 2 := by
  have parts : num / den * den + num % den = num := Nat.div_add_mod' num den
  have below : num % den < den := Nat.mod_lt num positive
  rw [← Nat.not_le, le_wholePart_iff positive long, Nat.not_le]
  have one : 0 < 2 ^ (binaryPlaces num den + 1) := Nat.two_pow_pos _
  generalize 2 ^ (binaryPlaces num den + 1) = scale at one
  have beyond : num + den < (num / den + 2) * den := by
    rw [Nat.succ_mul, Nat.succ_mul]
    omega
  calc scale * num + den ≤ scale * num + scale * den :=
        Nat.add_le_add_left (Nat.le_mul_of_pos_left _ one) _
    _ = scale * (num + den) := (Nat.mul_add ..).symm
    _ < scale * ((num / den + 2) * den) := Nat.mul_lt_mul_of_pos_left beyond one

/-- The whole part of the rounded quotient is that of the quotient, or the next whole number. -/
theorem wholePart_eq_add (positive : 0 < den) (fine : den < 2 ^ 53)
    (long : (num / den).log2 < 52) :
    wholePart num den = num / den + if RoundsUp num den then 1 else 0 := by
  have own := le_wholePart positive long
  have next := succ_le_wholePart_iff positive fine long
  have last := wholePart_lt positive long
  split
  · next up =>
    have := next.2 up
    omega
  · next stays =>
    have := mt next.1 stays
    omega

theorem nearestBits_zero (positive : 0 < den) : nearestBits 0 den = 0 := by
  have exact_ : halfEven 0 den = 0 := by simp [halfEven, positive]
  simp [nearestBits, exact_]

/-- Without its sign and its fraction, the double nearest to a quotient is the whole part of the
quotient, or the next whole number. -/
theorem wholePart_nearestBits (positive : 0 < den) (fine : den < 2 ^ 53)
    (long : (num / den).log2 < 52) :
    nearestBits (num * 2 ^ 1074) den < 2047 * 2 ^ 52 ∧
      unitsOfBits (nearestBits (num * 2 ^ 1074) den) / 2 ^ 1074 =
        num / den + if RoundsUp num den then 1 else 0 := by
  by_cases nonzero : num = 0
  · subst nonzero
    have small : ¬ RoundsUp 0 den := not_roundsUp positive (by rw [Nat.zero_div]; exact fine)
    have none_ : unitsOfBits 0 = 0 := rfl
    rw [Nat.zero_mul, nearestBits_zero positive, none_, Nat.zero_div, Nat.zero_div, if_neg small]
    exact ⟨by decide, rfl⟩
  · rw [← wholePart_eq_add positive fine long]
    exact wholePart_eq nonzero positive fine long

end Whole

theorem tdiv_signed (negative : Bool) (size one : Nat) :
    (if negative then -(size : Int) else size).tdiv one =
      if negative then -((size / one : Nat) : Int) else (size / one : Nat) := by
  cases negative with
  | false => rfl
  | true => exact Int.neg_tdiv ..

theorem truncate_ofSignAndBits (negative : Bool) {bits : Nat} (finite : bits < 2047 * 2 ^ 52) :
    truncate (ofSignAndBits negative bits) =
      if negative then -((unitsOfBits bits / 2 ^ 1074 : Nat) : Int)
      else (unitsOfBits bits / 2 ^ 1074 : Nat) := by
  unfold truncate
  generalize 1074 = places
  rw [units_ofSignAndBits negative finite]
  exact tdiv_signed negative _ _

/-- **The whole part of the double of a quotient.** It is that of the quotient, unless this is
rounded up; then it is the next whole number away from zero. -/
theorem truncate_ofQuotient {num : Int} {den : Nat} (positive : 0 < den) (fine : den < 2 ^ 53)
    (long : (num.natAbs / den).log2 < 52) :
    truncate (ofQuotient num den) =
      num.tdiv den + if RoundsUp num.natAbs den then num.sign else 0 := by
  obtain ⟨finite, whole⟩ := wholePart_nearestBits positive fine long
  simp only [ofQuotient, Nat.pow_eq, truncate_ofSignAndBits _ finite, whole, decide_eq_true_eq]
  rcases Int.lt_trichotomy num 0 with negative | rfl | nonnegative
  · have quotient : num.tdiv den = -((num.natAbs / den : Nat) : Int) := by
      rw [Int.ofNat_tdiv, ← Int.neg_tdiv, Int.ofNat_natAbs_of_nonpos (Int.le_of_lt negative),
        Int.neg_neg]
    rw [if_pos negative, quotient, Int.sign_eq_neg_one_of_neg negative]
    split <;> omega
  · have small : ¬ RoundsUp (Int.natAbs 0) den :=
      not_roundsUp positive (by rw [Int.natAbs_zero, Nat.zero_div]; exact fine)
    rw [if_neg (Int.lt_irrefl 0), if_neg small, if_neg small, Int.natAbs_zero, Nat.zero_div,
      Int.zero_tdiv]
    rfl
  · have quotient : num.tdiv den = ((num.natAbs / den : Nat) : Int) := by
      rw [Int.ofNat_tdiv, Int.natAbs_of_nonneg (Int.le_of_lt nonnegative)]
    rw [if_neg (Int.not_lt.2 (Int.le_of_lt nonnegative)), quotient,
      Int.sign_eq_one_of_pos nonnegative]
    split <;> omega

end FarmLedger.Number
