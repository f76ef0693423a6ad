/-
# FarmLedger.Proofs.Number.Quotient — the mean of numbers is a number

A mean is a sum divided by a count, and a quotient is no number only if one of its parts is none,
or if both are zeros or both infinite (`not_isNaN_div`). The sum of numbers is a number: the double
nearest to a count of units has no bits beyond those of infinity (`not_isNaN_sum`). The count of
some items is not zero, because rounding does not lose the leading bit of a significand
(`full_ofNat`). It may be infinite where a list is longer than the greatest double, and then there
is no mean to speak of (`HasMean`).

A significand of full length has its leading bit in place, and so has every significand that is at
least as long when it is rounded (`full_round`), packed and unpacked (`full_pack`).
-/
import FarmLedger.Proofs.Except
import FarmLedger.Proofs.Number.Mean

namespace FarmLedger.Number

open Float.Model Float.Model.UnpackedFloat

/-! ## Packing -/

/-- What is no number shows in the bits. -/
theorem isNaN_unpack_iff (b : BitVec Format.binary64.numBits) :
    (UnpackedFloat.unpack .binary64 b).isNaN = true ↔
      unpackExponent b = -1#11 ∧ unpackMantissa b ≠ 0#52 := by
  unfold UnpackedFloat.unpack
  simp only
  split
  · next top =>
    split
    · next zero => exact ⟨nofun, fun both => absurd zero both.2⟩
    · next nonzero => exact ⟨fun _ => ⟨top, nonzero⟩, fun _ => rfl⟩
  · next notTop =>
    refine ⟨fun none_ => ?_, fun both => absurd both.1 notTop⟩
    split at none_
    · split at none_ <;> cases none_
    · cases none_

/-- Numbers are packed as numbers. -/
theorem not_isNaN_pack {u : UnpackedFloat} (number : u.isNaN = false) :
    (Float.Model.pack u).unpack.isNaN = false := by
  rw [Bool.eq_false_iff]
  intro none_
  obtain ⟨top, nonzero⟩ := (isNaN_unpack_iff _).1 none_
  change unpackExponent (UnpackedFloat.pack .binary64 u) = _ at top
  change unpackMantissa (UnpackedFloat.pack .binary64 u) ≠ _ at nonzero
  cases u with
  | notANumber => cases number
  | infinity s => exact nonzero unpackMantissa_packComponents
  | zero s => exact nonzero unpackMantissa_packComponents
  | finite s m e pos =>
    unfold UnpackedFloat.pack at top nonzero
    simp only at top nonzero
    split at top
    · next big =>
      rw [if_pos big] at nonzero
      exact nonzero unpackMantissa_packComponents
    · next small =>
      generalize (e + (Format.exponentBias .binary64 : Nat) +
        (Format.binary64.mantissaBitsWithoutImplicit : Nat)).toNat = biased at top small
      split at top
      · rw [unpackExponent_packComponents] at top
        have same : biased % 2 ^ 11 = 2047 := congrArg BitVec.toNat top
        have below : ¬ 2 ^ 11 ≤ biased + 1 := small
        omega
      · rw [unpackExponent_packComponents] at top
        cases congrArg BitVec.toNat top

variable {x y : Float}

/-- A number divided by a finite one that is not zero is a number. -/
theorem not_isNaN_div {s : Sign} {m : Nat} {e : Int} {pos : 0 < m} (number : x.isNaN = false)
    (finite : y.toModel.unpack = .finite s m e pos) : (x / y).isNaN = false := by
  change (Float.Model.pack (.div .binary64 x.toModel.unpack y.toModel.unpack)).unpack.isNaN = false
  change x.toModel.unpack.isNaN = false at number
  refine not_isNaN_pack ?_
  rw [finite]
  cases numerator : x.toModel.unpack with
  | notANumber =>
    rw [numerator] at number
    cases number
  | infinity t => rfl
  | zero t => rfl
  | finite t n f pos' =>
    unfold UnpackedFloat.div roundWithAccuracy
    simp only
    split <;> rfl

/-! ## Rounding keeps the leading bit -/

theorem shift_mantissa (em : ExtendedMantissa) (k : Nat) :
    (em >>> k).mantissa = em.mantissa / 2 ^ k := by
  induction k with
  | zero => exact (Nat.div_one _).symm
  | succ k ih =>
    show (em >>> k).mantissa / 2 = _
    rw [ih, Nat.div_div_eq_div_mul, Nat.pow_succ]

theorem mantissa_ofAccuracy (m : Nat) (acc : Accuracy) :
    (ExtendedMantissa.ofMantissaAndAccuracy m acc).mantissa = m := by
  rcases acc with _ | (_ | _ | _) <;> rfl

/-- Shifted to its place, a significand of full length at least has full length. -/
theorem shift_full {m : Nat} {e : Int} (acc : Accuracy) (large : 2 ^ 52 ≤ m) (least : -1074 ≤ e) :
    2 ^ 52 ≤ (shiftToTargetExponent .binary64 m e acc).1.mantissa ∧
      (shiftToTargetExponent .binary64 m e acc).1.mantissa < 2 ^ 53 ∧
      e ≤ (shiftToTargetExponent .binary64 m e acc).2 := by
  have nonzero : m ≠ 0 := by omega
  have long : 52 ≤ m.log2 := (Nat.le_log2 nonzero).2 large
  have amount : (Format.targetExponent .binary64 (totalExponent m e) - e).toNat = m.log2 - 52 := by
    have target : Format.targetExponent .binary64 (totalExponent m e) =
        max ((m.log2 : Int) + 1 + e - 53) (-1074) := rfl
    rw [target]
    omega
  unfold shiftToTargetExponent shiftToExponent
  simp only [shift_mantissa, mantissa_ofAccuracy, amount]
  refine ⟨?_, ?_, by omega⟩
  · rw [Nat.le_div_iff_mul_le (Nat.two_pow_pos _), ← Nat.pow_add, Nat.add_sub_cancel' long]
    exact Nat.log2_self_le nonzero
  · rw [Nat.div_lt_iff_lt_mul (Nat.two_pow_pos _), ← Nat.pow_add]
    have length : 53 + (m.log2 - 52) = m.log2 + 1 := by omega
    rw [length]
    exact Nat.lt_log2_self

theorem le_roundedMantissa (em : ExtendedMantissa) : em.mantissa ≤ em.roundedMantissa := by
  rcases em with ⟨m, _ | _, _ | _⟩
  · exact Nat.le_refl _
  · exact Nat.le_refl _
  · exact Nat.le_add_right _ _
  · exact Nat.le_succ _

/-- A finite double with a significand of full length. -/
inductive Full : Int → UnpackedFloat → Prop
  | mk {s : Sign} {m : Nat} {e least : Int} {pos : 0 < m} (low : 2 ^ 52 ≤ m) (high : m < 2 ^ 53)
      (above : least ≤ e) : Full least (.finite s m e pos)

theorem Full.weaken {u : UnpackedFloat} {least lower : Int} (full : Full least u)
    (le : lower ≤ least) : Full lower u := by
  obtain ⟨low, high, above⟩ := full
  exact .mk low high (Int.le_trans le above)

theorem full_round {s : Sign} {m : Nat} {e : Int} (acc : Accuracy) (large : 2 ^ 52 ≤ m)
    (least : -1074 ≤ e) : Full e (roundWithAccuracy .binary64 s m e acc) := by
  obtain ⟨low, _, above⟩ := shift_full acc large least
  unfold roundWithAccuracy
  generalize shiftToTargetExponent .binary64 m e acc = first at low above
  obtain ⟨em, e₁⟩ := first
  obtain ⟨low₂, high₂, above₂⟩ := shift_full (m := em.roundedMantissa) (e := e₁) .exact
    (Nat.le_trans low (le_roundedMantissa em)) (Int.le_trans least above)
  simp only
  generalize shiftToTargetExponent .binary64 em.roundedMantissa e₁ .exact = final
    at low₂ high₂ above₂
  have nonzero : ¬ final.1.mantissa = 0 := by omega
  rw [dif_neg nonzero]
  exact .mk low₂ high₂ (Int.le_trans above above₂)

/-- Neither the top exponent nor the lowest one: the significand has its leading bit. -/
theorem unpack_normal (s : Sign) {e : BitVec 11} (m : BitVec 52) (notTop : e ≠ -1#11)
    (nonzero : e ≠ 0#11) : ∃ t pos,
      UnpackedFloat.unpack .binary64 (packComponents .binary64 s e m) =
        .finite t (1#1 ++ m).toNat ((e.toNat : Int) - 1075) pos := by
  have exponent : unpackExponent (packComponents .binary64 s e m) = e :=
    unpackExponent_packComponents
  have mantissa : unpackMantissa (packComponents .binary64 s e m) = m :=
    unpackMantissa_packComponents
  generalize packComponents .binary64 s e m = bits at exponent mantissa ⊢
  subst exponent mantissa
  unfold UnpackedFloat.unpack
  simp only
  rw [if_neg notTop, if_neg nonzero]
  have bias : ((Format.exponentBias .binary64 : Nat) : Int) + (52 : Nat) = 1075 := rfl
  have leading : 0 < (1#1 ++ (unpackMantissa bits : BitVec 52)).toNat := by
    rw [toNat_implicit]
    omega
  exact ⟨Sign.ofBitVec (unpackSign bits), leading, by simp only [bias]⟩

theorem unpack_infinity (s : Sign) : ∃ t,
    UnpackedFloat.unpack .binary64 (packedInfinity .binary64 s) = .infinity t := by
  have exponent : unpackExponent (packedInfinity .binary64 s) = -1#11 :=
    unpackExponent_packComponents
  have mantissa : unpackMantissa (packedInfinity .binary64 s) = 0#52 :=
    unpackMantissa_packComponents
  generalize packedInfinity .binary64 s = bits at exponent mantissa ⊢
  unfold UnpackedFloat.unpack
  simp only
  rw [if_pos exponent, if_pos mantissa]
  exact ⟨_, rfl⟩

/-- Packed and unpacked again, a double of full length is one, unless it is too large. -/
theorem full_pack {u : UnpackedFloat} {least : Int} (full : Full least u) (normal : -1074 ≤ least) :
    (∃ s, (Float.Model.pack u).unpack = .infinity s) ∨ Full least (Float.Model.pack u).unpack := by
  obtain @⟨s, m, e, _, pos, low, high, above⟩ := full
  have length : m.log2 + 1 = 53 := by
    have nonzero : m ≠ 0 := by omega
    have long := (Nat.le_log2 (k := 52) nonzero).2 low
    have short := (Nat.log2_lt (k := 53) nonzero).2 high
    omega
  generalize same : (e + (1023 : Nat) + (52 : Nat)).toNat = b
  have biased : (b : Int) = e + 1075 := by omega
  have packed : UnpackedFloat.pack .binary64 (.finite s m e pos) =
      if 2 ^ 11 ≤ b + 1 then packedInfinity .binary64 s
      else packComponents .binary64 s (BitVec.ofNat 11 b) (BitVec.ofNat 52 m) := by
    have place : (e + (Format.exponentBias .binary64 : Nat) +
        (Format.binary64.mantissaBitsWithoutImplicit : Nat)).toNat = b := same
    unfold UnpackedFloat.pack
    simp only [place]
    rw [if_pos (show m.log2 + 1 = Format.mantissaBits .binary64 from length)]
  show (∃ s, UnpackedFloat.unpack .binary64 (UnpackedFloat.pack .binary64 _) = _) ∨
    Full _ (UnpackedFloat.unpack .binary64 (UnpackedFloat.pack .binary64 _))
  rw [packed]
  by_cases large : 2 ^ 11 ≤ b + 1
  · rw [if_pos large]
    exact .inl (unpack_infinity s)
  · rw [if_neg large]
    right
    have exponent : (BitVec.ofNat 11 b).toNat = b := by
      rw [BitVec.toNat_ofNat]
      exact Nat.mod_eq_of_lt (by omega)
    have notTop : BitVec.ofNat 11 b ≠ -1#11 := by
      intro top
      have : b = 2047 := exponent.symm.trans (congrArg BitVec.toNat top)
      omega
    have nonzero : BitVec.ofNat 11 b ≠ 0#11 := by
      intro zero
      have : b = 0 := exponent.symm.trans (congrArg BitVec.toNat zero)
      omega
    obtain ⟨t, pos', unpacked⟩ := unpack_normal s (BitVec.ofNat 52 m) notTop nonzero
    have below : (BitVec.ofNat 52 m).toNat < 2 ^ 52 := (BitVec.ofNat 52 m).isLt
    rw [unpacked]
    refine .mk ?_ ?_ ?_
    · rw [toNat_implicit]
      omega
    · rw [toNat_implicit]
      omega
    · rw [exponent]
      omega

/-! ## Counts -/

/-- The product of two significands, the first of full length, is rounded to full length. -/
theorem full_mul {s t : Sign} {m n : Nat} {e f : Int} {pos : 0 < m} {pos' : 0 < n}
    (large : 2 ^ 52 ≤ m) (least : -1074 ≤ e + f) :
    Full (e + f) (UnpackedFloat.mul .binary64 (.finite s m e pos) (.finite t n f pos')) :=
  full_round .exact (Nat.le_trans large (Nat.le_mul_of_pos_right m pos')) least

theorem full_ofNat_small {n : Nat} (some_ : n ≠ 0) (small : n < 2 ^ 53) :
    Full (-52) (UnpackedFloat.ofNat .binary64 n) := by
  have long : n.log2 < 53 := (Nat.log2_lt some_).2 small
  have positive : compare (n : Int) 0 = .gt := by
    rw [Int.compare_eq_gt]
    omega
  unfold UnpackedFloat.ofNat UnpackedFloat.ofInt UnpackedFloat.normalize
  rw [positive]
  have target : Format.targetExponent .binary64 (totalExponent n 0) = (n.log2 : Int) - 52 := by
    have target : Format.targetExponent .binary64 (totalExponent n 0) =
      max ((n.log2 : Int) + 1 + 0 - 53) (-1074) := rfl
    rw [target]
    omega
  have amount : ((0 : Int) - ((n.log2 : Int) - 52)).toNat = 52 - n.log2 := by omega
  simp only [UnpackedFloat.round, Int.toNat_natCast, target, decreaseExponent, amount]
  have large : 2 ^ 52 ≤ n <<< (52 - n.log2) := by
    rw [Nat.shiftLeft_eq]
    calc 2 ^ 52 = 2 ^ n.log2 * 2 ^ (52 - n.log2) := by
          rw [← Nat.pow_add, Nat.add_sub_cancel' (by omega)]
      _ ≤ n * 2 ^ (52 - n.log2) := Nat.mul_le_mul_right _ (Nat.log2_self_le some_)
  exact (full_round .exact large (by omega)).weaken (by omega)

theorem full_ofNat {n : Nat} (some_ : n ≠ 0) :
    (∃ s, (Float.ofNat n).toModel.unpack = .infinity s) ∨
      Full (-104) (Float.ofNat n).toModel.unpack := by
  unfold Float.ofNat OfScientific.ofScientific instOfScientificFloat Float.ofScientific
  simp only
  by_cases small : n < 2 ^ 53
  · rw [dif_pos ⟨small, by omega⟩]
    simp only [Bool.false_eq_true, if_false]
    have whole : n.toUInt64.toNat = n := by
      rw [Nat.toUInt64_eq, UInt64.toNat_ofNat_of_lt']
      exact Nat.lt_trans small (by decide)
    have count : n.toUInt64.toFloat.toModel = Float.Model.pack (UnpackedFloat.ofNat .binary64 n) :=
      congrArg (fun k => Float.Model.pack (UnpackedFloat.ofNat .binary64 k)) whole
    have one : (Float.ofBits 0x3FF0000000000000).toModel.unpack =
        .finite .positive (2 ^ 52) (-52) (by decide) := rfl
    change (∃ s, (Float.Model.pack (UnpackedFloat.mul .binary64 n.toUInt64.toFloat.toModel.unpack
        (Float.ofBits 0x3FF0000000000000).toModel.unpack)).unpack = .infinity s) ∨
      Full _ (Float.Model.pack (UnpackedFloat.mul .binary64 n.toUInt64.toFloat.toModel.unpack
        (Float.ofBits 0x3FF0000000000000).toModel.unpack)).unpack
    rw [one, count]
    rcases full_pack (full_ofNat_small some_ small) (by decide) with ⟨s, tooLarge⟩ | full
    · left
      rw [tooLarge]
      exact unpack_infinity _
    · generalize (Float.Model.pack (UnpackedFloat.ofNat .binary64 n)).unpack = u at full
      obtain ⟨low, _, above⟩ := full
      exact full_pack ((full_mul low (by omega)).weaken (by omega)) (by decide)
  · rw [dif_neg (fun both => small both.1)]
    simp only [Bool.false_eq_true, if_false]
    show (∃ s, (Float.Model.pack (UnpackedFloat.ofScientific .binary64 n 0)).unpack = .infinity s) ∨
      Full _ (Float.Model.pack (UnpackedFloat.ofScientific .binary64 n 0)).unpack
    refine full_pack ?_ (by decide)
    have notTiny : ¬ (0 : Int) < -((2 ^ 11 : Int) + (n.log2 : Int)) := by omega
    have large : 2 ^ 52 ≤ n <<< 53 := by
      rw [Nat.shiftLeft_eq]
      omega
    unfold UnpackedFloat.ofScientific
    rw [dif_neg some_, if_neg (by decide), if_neg notTiny, if_pos (by decide)]
    exact (full_mul (e := -53) (f := 0) large (by decide)).weaken (by decide)

/-! ## The sum and the mean -/

theorem halfEven_one (num : Nat) : halfEven num 1 = num := by
  unfold halfEven
  simp [Nat.div_one, Nat.mod_one]

theorem nearestBits_le (num : Nat) : nearestBits num 1 ≤ 2047 * 2 ^ 52 := by
  unfold nearestBits
  simp only [Nat.div_one]
  split
  · next small =>
    have : num < 2 ^ 53 := small
    rw [halfEven_one]
    omega
  · exact Nat.min_le_right _ _

theorem toNat_unpackExponent (b : BitVec Format.binary64.numBits) :
    (unpackExponent b).toNat = b.toNat / 2 ^ 52 % 2 ^ 11 := by
  simp [unpackExponent, Nat.shiftRight_eq_div_pow]

theorem toNat_unpackMantissa (b : BitVec Format.binary64.numBits) :
    (unpackMantissa b).toNat = b.toNat % 2 ^ 52 := by
  simp [unpackMantissa]

/-- Bits up to those of infinity are those of a number, with either sign. -/
theorem not_isNaN_ofSignAndBits (negative : Bool) {bits : Nat} (le : bits ≤ 2047 * 2 ^ 52) :
    (ofSignAndBits negative bits).isNaN = false := by
  unfold ofSignAndBits
  generalize whole : (if negative then Nat.pow 2 63 else 0) + bits = word
  have parts : word = 2 ^ 63 + bits ∨ word = bits := by
    cases negative with
    | false => exact .inr (whole.symm.trans (Nat.zero_add _))
    | true => exact .inl whole.symm
  have below : word < 2 ^ 64 := by omega
  have toNat : (UInt64.ofNat word).toBitVec.toNat = word := UInt64.toNat_ofNat_of_lt' below
  refine not_isNaN_pack (Bool.eq_false_iff.2 fun none_ => ?_)
  obtain ⟨top, nonzero⟩ := (isNaN_unpack_iff _).1 none_
  have exponent : word / 2 ^ 52 % 2 ^ 11 = 2047 := by
    rw [← toNat, ← toNat_unpackExponent, top]
    rfl
  have mantissa : word % 2 ^ 52 ≠ 0 := by
    intro zero
    refine nonzero (BitVec.eq_of_toNat_eq ?_)
    rw [toNat_unpackMantissa, toNat, zero]
    rfl
  omega

theorem not_isNaN_ofUnits (count : Int) : (ofUnits count).isNaN = false :=
  not_isNaN_ofSignAndBits _ (nearestBits_le _)

/-- **The sum of numbers is a number, if there is one.** -/
theorem not_isNaN_sum {xs : List Float} {total : Float} (numbers : ∀ x ∈ xs, x.isNaN = false)
    (summed : sum xs = .ok total) : total.isNaN = false := by
  unfold sum at summed
  split at summed
  · cases summed
  split at summed
  · cases summed
  split at summed
  · next none_ =>
    obtain ⟨x, mem, isNaN⟩ := List.any_eq_true.1 none_
    rw [numbers x mem] at isNaN
    cases isNaN
  split at summed
  · cases summed
    decide +kernel
  split at summed
  · cases summed
    decide +kernel
  · cases summed
    exact not_isNaN_ofUnits _

/-- The mean can be taken: the items have a sum, and their count is a finite double. -/
structure HasMean (xs : List Float) : Prop where
  taken : ∃ m, mean xs = .ok m
  counted : (Float.ofNat xs.length).isFinite = true

/-- **The mean of numbers is a number, if there is one.** -/
theorem not_isNaN_mean {xs : List Float} {m : Float} (some_ : xs ≠ [])
    (numbers : ∀ x ∈ xs, x.isNaN = false) (has : HasMean xs) (taken : mean xs = .ok m) :
    m.isNaN = false := by
  have counted := has.counted
  obtain ⟨total, summed, rfl⟩ := ok_of_map taken
  change (Float.ofNat xs.length).toModel.unpack.isFinite = true at counted
  rcases full_ofNat (mt List.length_eq_zero_iff.1 some_) with ⟨s, tooLarge⟩ | full
  · rw [tooLarge] at counted
    cases counted
  · generalize finite : (Float.ofNat xs.length).toModel.unpack = u at full
    obtain ⟨_, _, _⟩ := full
    exact not_isNaN_div (not_isNaN_sum numbers summed) finite

end FarmLedger.Number
