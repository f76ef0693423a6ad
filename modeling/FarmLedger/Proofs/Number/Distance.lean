/-
# FarmLedger.Proofs.Number.Distance — how far a double is from itself

The distance of a candidate from the price before it is a quotient of doubles, and what it is for
equal doubles depends on what they are. From itself a finite double is not away at all
(`deviation_standing`): the difference is a zero, and the double that it is divided by is finite
and no zero, since the absolute value of a double keeps its significand (`proper_abs`). From an
infinite double every candidate, and the infinite double itself, is at a distance that is no number
(`deviation_special`), and what is no number is below no limit (`not_le_of_isNaN`).

A limit that is neither no number, nor zero, nor negative is positive (`positive_iff`).
-/
import FarmLedger.Guard
import FarmLedger.Proofs.Number.Quotient

namespace FarmLedger.Number

open Float.Model Float.Model.UnpackedFloat

variable {x y : Float}

/-! ## Comparisons -/

theorem unpack_zero : (0.0 : Float).toModel.unpack = .zero .positive := rfl

theorem lt_iff : x < y ↔ x.toModel.unpack.compare y.toModel.unpack = some .lt := by
  have model : x < y ↔ decide (x.toModel < y.toModel) = true := Iff.rfl
  rw [model, decide_eq_true_iff]
  exact beq_iff_eq

theorem le_iff : x ≤ y ↔ (x.toModel.unpack.compare y.toModel.unpack).any (·.isLE) = true := by
  have model : x ≤ y ↔ decide (x.toModel ≤ y.toModel) = true := Iff.rfl
  rw [model, decide_eq_true_iff]
  exact Iff.rfl

theorem unpack_of_isNaN (none_ : x.isNaN = true) : x.toModel.unpack = .notANumber := by
  change x.toModel.unpack.isNaN = true at none_
  cases unpacked : x.toModel.unpack with
  | notANumber => rfl
  | infinity => rw [unpacked] at none_; cases none_
  | zero => rw [unpacked] at none_; cases none_
  | finite => rw [unpacked] at none_; cases none_

/-- A double is positive if it is a number and neither zero nor negative. -/
theorem positive_iff :
    0.0 < x ↔ x.isNaN = false ∧ (x == 0.0) = false ∧ ¬ x < 0.0 := by
  have number : x.isNaN = x.toModel.unpack.isNaN := rfl
  have equal : (x == 0.0) = (x.toModel.unpack.compare (.zero .positive) == some .eq) := rfl
  rw [lt_iff, lt_iff, unpack_zero, number, equal]
  rcases x.toModel.unpack with (_ | _) | _ | _ | ⟨_ | _, m, e, pos⟩ <;>
    simp [UnpackedFloat.compare, UnpackedFloat.isNaN]

theorem not_le_of_isNaN (none_ : x.isNaN = true) : ¬ x ≤ y := by
  rw [le_iff, unpack_of_isNaN none_]
  exact nofun

/-- A zero of either sign is below every positive double. -/
theorem zero_le_of_positive (zero : (x == 0.0) = true) (positive : 0.0 < y) : x ≤ y := by
  have same : x.toModel.unpack.compare y.toModel.unpack =
      (0.0 : Float).toModel.unpack.compare y.toModel.unpack :=
    (alike_of_beq zero).compare_eq (.refl _)
  rw [le_iff, same, lt_iff.1 positive]
  rfl

/-! ## Absolute values -/

/-- Neither a zero, nor infinite, nor no number. -/
def IsProper (u : UnpackedFloat) : Prop :=
  ∃ s m e pos, u = .finite s m e pos

theorem proper_of_finite (finite : x.isFinite = true) (nonzero : (x == 0.0) = false) :
    IsProper x.toModel.unpack := by
  change x.toModel.unpack.isFinite = true at finite
  change (x.toModel.unpack.compare (.zero .positive) == some .eq) = false at nonzero
  cases unpacked : x.toModel.unpack with
  | notANumber => rw [unpacked] at finite; cases finite
  | infinity => rw [unpacked] at finite; cases finite
  | zero => rw [unpacked] at nonzero; cases nonzero
  | finite s m e pos => exact ⟨s, m, e, pos, rfl⟩

/-- The lowest exponent and some bits: a double without its leading bit. -/
theorem unpack_short (s : Sign) {m : BitVec 52} (nonzero : m ≠ 0#52) :
    IsProper (UnpackedFloat.unpack .binary64 (packComponents .binary64 s 0#11 m)) := by
  have exponent : unpackExponent (packComponents .binary64 s 0#11 m) = 0#11 :=
    unpackExponent_packComponents
  have mantissa : unpackMantissa (packComponents .binary64 s 0#11 m) = m :=
    unpackMantissa_packComponents
  generalize packComponents .binary64 s 0#11 m = bits at exponent mantissa ⊢
  subst mantissa
  unfold UnpackedFloat.unpack
  simp only
  rw [if_neg (by rw [exponent]; decide), if_pos exponent, dif_neg nonzero]
  exact ⟨_, _, _, _, rfl⟩

/-- A proper double has the lowest exponent and some bits, or another one and its leading bit. -/
theorem parts_of_proper {bits : BitVec Format.binary64.numBits}
    (proper : IsProper (UnpackedFloat.unpack .binary64 bits)) :
    ∃ (s : Sign) (m : BitVec 52),
      (m ≠ 0#52 ∧ ∃ pos, UnpackedFloat.unpack .binary64 bits = .finite s m.toNat (-1074) pos) ∨
      ∃ e : BitVec 11, e ≠ -1#11 ∧ e ≠ 0#11 ∧ ∃ pos,
        UnpackedFloat.unpack .binary64 bits =
          .finite s (1#1 ++ m).toNat ((e.toNat : Int) - 1075) pos := by
  refine ⟨Sign.ofBitVec (unpackSign bits), unpackMantissa bits, ?_⟩
  unfold UnpackedFloat.unpack at proper ⊢
  simp only at proper ⊢
  split at proper
  · split at proper <;> (obtain ⟨_, _, _, _, impossible⟩ := proper; cases impossible)
  · next notTop =>
    rw [if_neg notTop]
    split at proper
    · next low =>
      split at proper
      · obtain ⟨_, _, _, _, impossible⟩ := proper
        cases impossible
      · next nonzero =>
        rw [if_pos low, dif_neg nonzero, low]
        have some_ : 0 < (unpackMantissa bits : BitVec 52).toNat :=
          Nat.pos_of_ne_zero fun zero => nonzero (BitVec.eq_of_toNat_eq zero)
        exact .inl ⟨nonzero, some_, rfl⟩
    · next high =>
      rw [if_neg high]
      have leading : 0 < (1#1 ++ (unpackMantissa bits : BitVec 52)).toNat := by
        rw [toNat_implicit]
        omega
      exact .inr ⟨unpackExponent bits, notTop, high, leading, rfl⟩

/-- The absolute value of a proper double is proper. -/
theorem proper_abs (proper : IsProper x.toModel.unpack) : IsProper x.abs.toModel.unpack := by
  show IsProper (UnpackedFloat.unpack .binary64
    (UnpackedFloat.pack .binary64 (UnpackedFloat.abs x.toModel.unpack)))
  have parts := @parts_of_proper x.toModel.toBits.toBitVec proper
  obtain ⟨s, m, ⟨nonzero, pos, unpacked⟩ | ⟨e, notTop, nonzero, pos, unpacked⟩⟩ := parts
  · change x.toModel.unpack = _ at unpacked
    rw [unpacked, UnpackedFloat.abs, pack_short .positive m pos]
    exact unpack_short .positive nonzero
  · change x.toModel.unpack = _ at unpacked
    obtain ⟨t, pos', again⟩ := unpack_normal .positive m notTop nonzero
    rw [unpacked, UnpackedFloat.abs, pack_normal .positive e m pos notTop nonzero, again]
    exact ⟨_, _, _, _, rfl⟩

/-! ## Zeros -/

/-- A zero of either sign. -/
def IsZero (x : Float) : Prop :=
  ∃ s, x.toModel.unpack = .zero s

theorem isZero_pack {u : UnpackedFloat} {s : Sign} (zero : u = .zero s) :
    IsZero (.ofModel (Float.Model.pack u)) :=
  ⟨s, by rw [zero]; exact unpack_pack_zero s⟩

theorem IsZero.beq (zero : IsZero x) : (x == 0.0) = true := by
  obtain ⟨s, unpacked⟩ := zero
  show (x.toModel.unpack.compare (.zero .positive) == some .eq) = true
  rw [unpacked]
  rfl

theorem IsZero.abs (zero : IsZero x) : IsZero x.abs := by
  obtain ⟨s, unpacked⟩ := zero
  exact isZero_pack (congrArg UnpackedFloat.abs unpacked)

theorem IsZero.div (zero : IsZero x) (proper : IsProper y.toModel.unpack) : IsZero (x / y) := by
  obtain ⟨s, unpacked⟩ := zero
  obtain ⟨t, m, e, pos, divisor⟩ := proper
  exact isZero_pack (congrArg₂ (UnpackedFloat.div .binary64) unpacked divisor)

theorem IsZero.mul (zero : IsZero x) (proper : IsProper y.toModel.unpack) : IsZero (x * y) := by
  obtain ⟨s, unpacked⟩ := zero
  obtain ⟨t, m, e, pos, factor⟩ := proper
  exact isZero_pack (congrArg₂ (UnpackedFloat.mul .binary64) unpacked factor)

theorem isZero_sub_self (proper : IsProper x.toModel.unpack) : IsZero (x - x) := by
  obtain ⟨s, m, e, pos, unpacked⟩ := proper
  refine isZero_pack (s := .positive) ?_
  rw [unpacked]
  simp [UnpackedFloat.sub, UnpackedFloat.normalize]

/-! ## Doubles that are not finite -/

theorem special_cases {u : UnpackedFloat} (special : u.isFinite = false) :
    u = .notANumber ∨ ∃ s, u = .infinity s := by
  cases u with
  | notANumber => exact .inl rfl
  | infinity s => exact .inr ⟨s, rfl⟩
  | zero => cases special
  | finite => cases special

theorem special_pack {u : UnpackedFloat} (special : u.isFinite = false) :
    (Float.Model.pack u).unpack.isFinite = false := by
  obtain rfl | ⟨s, rfl⟩ := special_cases special
  · rfl
  · obtain ⟨t, unpacked⟩ := unpack_infinity s
    exact congrArg UnpackedFloat.isFinite unpacked

theorem special_sub (special : x.isFinite = false) : (y - x).isFinite = false := by
  refine special_pack (u := .sub .binary64 y.toModel.unpack x.toModel.unpack) ?_
  obtain subtrahend | ⟨s, subtrahend⟩ := special_cases (u := x.toModel.unpack) special
  · rw [subtrahend]
    cases y.toModel.unpack <;> rfl
  · rw [subtrahend]
    cases y.toModel.unpack with
    | infinity t => cases s <;> cases t <;> rfl
    | notANumber | zero | finite => rfl

theorem special_abs (special : x.isFinite = false) : x.abs.isFinite = false := by
  refine special_pack (u := x.toModel.unpack.abs) ?_
  obtain unpacked | ⟨s, unpacked⟩ := special_cases (u := x.toModel.unpack) special
  · rw [unpacked]
    rfl
  · rw [unpacked]
    rfl

/-- A quotient of two doubles that are not finite is no number. -/
theorem special_div (special : x.isFinite = false) (special' : y.isFinite = false) :
    (x / y).toModel = Float.Model.pack .notANumber := by
  show Float.Model.pack (.div .binary64 x.toModel.unpack y.toModel.unpack) = _
  obtain dividend | ⟨s, dividend⟩ := special_cases (u := x.toModel.unpack) special
  · rw [dividend, UnpackedFloat.div]
  · obtain divisor | ⟨t, divisor⟩ := special_cases (u := y.toModel.unpack) special' <;>
      rw [dividend, divisor] <;> rfl

/-! ## Deviations -/

/-- **From itself a finite double does not deviate.** -/
theorem deviation_standing (finite : x.isFinite = true) (same : (y == x) = true) :
    (deviation x y == 0.0) = true := by
  unfold deviation
  split
  · rfl
  · next nonzero =>
    have proper := proper_of_finite finite (Bool.eq_false_iff.2 nonzero)
    have difference : IsZero (y - x) := by
      have alike : Kin (x - x).toModel.unpack (y - x).toModel.unpack :=
        ((alike_of_beq same).sub (.refl x)).symm
      obtain ⟨s, unpacked⟩ := isZero_sub_self proper
      rw [unpacked] at alike
      cases alike' : (y - x).toModel.unpack <;> rw [alike'] at alike <;> cases alike
      · exact ⟨_, alike'⟩
      · exact ⟨_, alike'⟩
    have hundred : IsProper (100.0 : Float).toModel.unpack := ⟨_, _, _, _, rfl⟩
    exact ((difference.abs.div (proper_abs proper)).mul hundred).beq

/-- **From an infinite double every candidate deviates by what is no number.** -/
theorem deviation_special (special : x.isFinite = false) : (deviation x y).isNaN = true := by
  unfold deviation
  have nonzero : (x == 0.0) = false := by
    rw [Bool.eq_false_iff]
    intro zero
    have same : x.isFinite = (0.0 : Float).isFinite := (alike_of_beq zero).isFinite_eq
    rw [special] at same
    cases same
  rw [if_neg (Bool.eq_false_iff.1 nonzero)]
  have quotient := special_div (special_abs (special_sub (y := y) special)) (special_abs special)
  show (Float.Model.pack (.mul .binary64 ((y - x).abs / x.abs).toModel.unpack
    (100.0 : Float).toModel.unpack)).unpack.isNaN = true
  rw [quotient]
  rfl

end FarmLedger.Number
