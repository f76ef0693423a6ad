/-
# FarmLedger.Proofs.Number.Alike — doubles up to the sign of a zero

A column of doubles loses the sign of a zero and a list keeps it, so a stored double and the one
that was handed over need not be the same. They are `Alike`: the same double, or two zeros. Two
doubles that compare as equal are alike (`alike_of_beq`), and alike doubles compare as equal unless
they are no number (`Alike.beq`).

Sums, differences, absolute values and comparisons do not tell alike doubles apart
(`Alike.add`, `Alike.sub`, `Alike.abs_eq`, `Alike.beq_eq`), and neither does the count of units
(`Alike.units_eq`). The last one needs the bits: a double is determined by its unpacked form
(`pack_unpack`), so the only zeros are `0.0` and `-0.0`.

`sameReals` is equality by value position by position (`sameReals_iff`).
-/
import FarmLedger.Number.Binary64
import Mathlib

namespace FarmLedger.Number

open Float.Model Float.Model.UnpackedFloat

/-! ## The bits of a double -/

theorem packComponents_parts (b : BitVec Format.binary64.numBits) :
    packComponents .binary64 (Sign.ofBitVec (unpackSign b)) (unpackExponent b)
      (unpackMantissa b) = b := by
  have sign : ∀ b : BitVec 1, (Sign.ofBitVec b).toBitVec = b := by decide
  unfold packComponents
  rw [sign]
  ext i hi
  have whole : b.getLsbD i = b[i] := BitVec.getLsbD_eq_getElem (show i < 64 from hi)
  simp only [unpackSign, unpackExponent, unpackMantissa]
  rw [BitVec.getElem_append]
  split
  · simp [whole]
  · next notMantissa =>
    have low : ¬ i < 52 := notMantissa
    rw [BitVec.getElem_append]
    split
    · have : 52 + (i - 52) = i := by omega
      simp [this, whole]
    · next notExponent =>
      have high : ¬ i - 52 < 11 := notExponent
      have : 63 + (i - 52 - 11) = i := by omega
      simp [this, whole]

theorem toNat_implicit (m : BitVec 52) : (1#1 ++ m).toNat = 2 ^ 52 + m.toNat := by
  have below : m.toNat < 2 ^ 52 := m.isLt
  rw [BitVec.toNat_append, ← Nat.shiftLeft_add_eq_or_of_lt below, Nat.shiftLeft_eq]
  simp

/-- A finite double with a full significand keeps its parts. -/
theorem pack_normal (s : Sign) (e : BitVec 11) (m : BitVec 52) (pos : 0 < (1#1 ++ m).toNat)
    (notTop : e ≠ -1#11) (nonzero : e ≠ 0#11) :
    UnpackedFloat.pack .binary64 (.finite s (1#1 ++ m).toNat (e.toNat - 1075) pos)
      = packComponents .binary64 s e m := by
  have below : m.toNat < 2 ^ 52 := m.isLt
  have small : e.toNat < 2 ^ 11 := e.isLt
  have notTop : e.toNat ≠ 2047 := fun h => notTop (BitVec.eq_of_toNat_eq h)
  have nonzero : e.toNat ≠ 0 := fun h => nonzero (BitVec.eq_of_toNat_eq h)
  have biased : ((e.toNat : Int) - 1075 + (1023 : Nat) + (52 : Nat)).toNat = e.toNat := by omega
  have full : (2 ^ 52 + m.toNat).log2 + 1 = 53 := by
    have low := (Nat.le_log2 (k := 52) (show 2 ^ 52 + m.toNat ≠ 0 by omega)).2 (by omega)
    have high := (Nat.log2_lt (k := 53) (show 2 ^ 52 + m.toNat ≠ 0 by omega)).2 (by omega)
    omega
  have fits : BitVec.ofNat 52 (2 ^ 52 + m.toNat) = m := by
    apply BitVec.eq_of_toNat_eq
    rw [BitVec.toNat_ofNat, Nat.add_mod_left, Nat.mod_eq_of_lt below]
  have whole : BitVec.ofNat 11 e.toNat = e := by simp
  unfold UnpackedFloat.pack
  simp only [toNat_implicit]
  rw [show ((e.toNat : Int) - 1075 + (Format.exponentBias .binary64 : Nat)
    + (Format.binary64.mantissaBitsWithoutImplicit : Nat)).toNat = e.toNat from biased]
  rw [if_neg (show ¬ 2 ^ 11 ≤ e.toNat + 1 by omega), if_pos (by exact full), fits, whole]

/-- A finite double with a short significand keeps its parts. -/
theorem pack_short (s : Sign) (m : BitVec 52) (pos : 0 < m.toNat) :
    UnpackedFloat.pack .binary64 (.finite s m.toNat (-1074) pos)
      = packComponents .binary64 s 0#11 m := by
  have below : m.toNat < 2 ^ 52 := m.isLt
  have short : ¬ m.toNat.log2 + 1 = 53 := by
    have := (Nat.log2_lt (Nat.ne_of_gt pos)).2 below
    omega
  have whole : BitVec.ofNat 52 m.toNat = m := by simp
  unfold UnpackedFloat.pack
  simp only
  rw [if_neg (by decide), if_neg (by exact short), whole]

/-- A double is determined by its unpacked form. -/
theorem pack_unpack (a : Float.Model) : Float.Model.pack a.unpack = a := by
  obtain ⟨⟨bits⟩, valid⟩ := a
  unfold Float.Model.pack Float.Model.unpack
  congr 2
  have whole := packComponents_parts bits
  have canonical := valid.eq_packedNaN
  generalize hs : Sign.ofBitVec (@unpackSign .binary64 bits) = s at whole
  generalize he : @unpackExponent .binary64 bits = e at whole canonical
  generalize hm : @unpackMantissa .binary64 bits = m at whole canonical
  unfold UnpackedFloat.unpack
  simp only [hs, he, hm]
  split
  · next top =>
    split
    · next zero => rw [← whole, top, zero]; rfl
    · next nonzero => exact (canonical top nonzero).symm
  · next notTop =>
    split
    · next zero =>
      split
      · next zero' => rw [← whole, zero, zero']; rfl
      · next nonzero =>
        rw [zero] at whole ⊢
        exact (pack_short s m _).trans whole
    · next nonzero => exact (pack_normal s e m _ notTop nonzero).trans whole

theorem eq_of_unpack_eq {x y : Float} (h : x.toModel.unpack = y.toModel.unpack) : x = y := by
  have : x.toModel = y.toModel := by rw [← pack_unpack x.toModel, h, pack_unpack]
  cases x; cases y; exact congrArg Float.ofModel this

theorem unpack_pack_zero (s : Sign) : (Float.Model.pack (.zero s)).unpack = .zero s := by
  cases s <;> rfl

/-! ## Alike doubles -/

/-- The same unpacked double, up to the sign of a zero. -/
inductive Kin : UnpackedFloat → UnpackedFloat → Prop
  | refl (u : UnpackedFloat) : Kin u u
  | zero (s t : Sign) : Kin (.zero s) (.zero t)

namespace Kin

variable {u v w x : UnpackedFloat}

theorem symm (h : Kin u v) : Kin v u := by
  cases h with
  | refl => exact .refl _
  | zero s t => exact .zero t s

theorem trans (h : Kin u v) (k : Kin v w) : Kin u w := by
  cases h with
  | refl => exact k
  | zero s t =>
    cases k with
    | refl => exact .zero s t
    | zero _ r => exact .zero s r

theorem of_compare_eq (h : u.compare v = some .eq) : Kin u v := by
  rcases u with (_ | _) | _ | s | ⟨_ | _, m, e, pos⟩ <;>
    rcases v with (_ | _) | _ | t | ⟨_ | _, n, f, pos'⟩ <;>
    first | exact .refl _ | exact .zero s t | cases h | skip
  all_goals
    simp only [UnpackedFloat.compare, Option.some.injEq, Ordering.swap_eq_eq, Ordering.then_eq_eq,
      Int.compare_eq_eq, Nat.compare_eq_eq] at h
    obtain ⟨rfl, rfl⟩ := h
    exact .refl _

theorem compare_self (number : u.isNaN = false) : u.compare u = some .eq := by
  rcases u with (_ | _) | _ | s | ⟨_ | _, m, e, pos⟩
  case notANumber => cases number
  case finite.negative | finite.positive => simp [UnpackedFloat.compare]
  all_goals rfl

theorem compare_zero_left (s t : Sign) (u : UnpackedFloat) :
    (UnpackedFloat.zero s).compare u = (UnpackedFloat.zero t).compare u := by
  rcases u with (_ | _) | _ | _ | ⟨_ | _, m, e, pos⟩ <;> rfl

theorem compare_zero_right (s t : Sign) (u : UnpackedFloat) :
    u.compare (.zero s) = u.compare (.zero t) := by
  rcases u with (_ | _) | _ | _ | ⟨_ | _, m, e, pos⟩ <;> rfl

theorem compare_eq (h : Kin u v) (k : Kin w x) : u.compare w = v.compare x := by
  cases h <;> cases k <;>
    first | rfl | exact compare_zero_left _ _ _ | exact compare_zero_right _ _ _

theorem add_zero_left (s t : Sign) (u : UnpackedFloat) :
    Kin (.add .binary64 (.zero s) u) (.add .binary64 (.zero t) u) := by
  rcases u with (_ | _) | _ | r | ⟨_ | _, m, e, pos⟩ <;> try exact .refl _
  cases s <;> cases t <;> cases r <;> first | exact .refl _ | exact .zero _ _

theorem add_zero_right (s t : Sign) (u : UnpackedFloat) :
    Kin (.add .binary64 u (.zero s)) (.add .binary64 u (.zero t)) := by
  rcases u with (_ | _) | _ | r | ⟨_ | _, m, e, pos⟩ <;> try exact .refl _
  cases s <;> cases t <;> cases r <;> first | exact .refl _ | exact .zero _ _

theorem sub_zero_left (s t : Sign) (u : UnpackedFloat) :
    Kin (.sub .binary64 (.zero s) u) (.sub .binary64 (.zero t) u) := by
  rcases u with (_ | _) | _ | r | ⟨_ | _, m, e, pos⟩ <;> try exact .refl _
  cases s <;> cases t <;> cases r <;> first | exact .refl _ | exact .zero _ _

theorem sub_zero_right (s t : Sign) (u : UnpackedFloat) :
    Kin (.sub .binary64 u (.zero s)) (.sub .binary64 u (.zero t)) := by
  rcases u with (_ | _) | _ | r | ⟨_ | _, m, e, pos⟩ <;> try exact .refl _
  cases s <;> cases t <;> cases r <;> first | exact .refl _ | exact .zero _ _

/-- An operation that keeps kin apart from either side keeps kin. -/
theorem congr {f : UnpackedFloat → UnpackedFloat → UnpackedFloat}
    (left : ∀ s t u, Kin (f (.zero s) u) (f (.zero t) u))
    (right : ∀ s t u, Kin (f u (.zero s)) (f u (.zero t)))
    (h : Kin u v) (k : Kin w x) : Kin (f u w) (f v x) := by
  have first : Kin (f u w) (f v w) := by
    cases h with
    | refl => exact .refl _
    | zero s t => exact left s t w
  have second : Kin (f v w) (f v x) := by
    cases k with
    | refl => exact .refl _
    | zero s t => exact right s t v
  exact first.trans second

theorem abs_eq (h : Kin u v) : u.abs = v.abs := by
  cases h <;> rfl

theorem isNaN_eq (h : Kin u v) : u.isNaN = v.isNaN := by
  cases h <;> rfl

theorem isFinite_eq (h : Kin u v) : u.isFinite = v.isFinite := by
  cases h <;> rfl

theorem pack (h : Kin u v) : Kin (Float.Model.pack u).unpack (Float.Model.pack v).unpack := by
  cases h with
  | refl => exact .refl _
  | zero s t => rw [unpack_pack_zero, unpack_pack_zero]; exact .zero s t

end Kin

/-- Two doubles that differ at most in the sign of a zero. -/
def Alike (x y : Float) : Prop :=
  Kin x.toModel.unpack y.toModel.unpack

theorem alike_of_beq {x y : Float} (h : (x == y) = true) : Alike x y :=
  Kin.of_compare_eq (eq_of_beq h)

theorem not_isNaN_of_beq {x y : Float} (h : (x == y) = true) : x.isNaN = false := by
  have same : x.toModel.unpack.compare y.toModel.unpack = some .eq := eq_of_beq h
  change x.toModel.unpack.isNaN = false
  cases hx : x.toModel.unpack with
  | notANumber => rw [hx] at same; cases same
  | infinity => rfl
  | zero => rfl
  | finite => rfl

namespace Alike

variable {w x y z : Float}

theorem refl (x : Float) : Alike x x := Kin.refl _

theorem symm (h : Alike x y) : Alike y x := Kin.symm h

theorem trans (h : Alike x y) (k : Alike y z) : Alike x z := Kin.trans h k

theorem add (h : Alike x y) (k : Alike w z) : Alike (x + w) (y + z) :=
  Kin.pack (Kin.congr Kin.add_zero_left Kin.add_zero_right h k)

theorem sub (h : Alike x y) (k : Alike w z) : Alike (x - w) (y - z) :=
  Kin.pack (Kin.congr Kin.sub_zero_left Kin.sub_zero_right h k)

theorem abs_eq (h : Alike x y) : x.abs = y.abs :=
  congrArg (fun u => Float.ofModel (Float.Model.pack u)) (Kin.abs_eq h)

theorem isNaN_eq (h : Alike x y) : x.isNaN = y.isNaN := Kin.isNaN_eq h

theorem isFinite_eq (h : Alike x y) : x.isFinite = y.isFinite := Kin.isFinite_eq h

theorem beq_eq (h : Alike x y) (k : Alike w z) : (x == w) = (y == z) :=
  congrArg (· == some Ordering.eq) (Kin.compare_eq h k)

/-- Alike doubles compare as equal unless they are no number. -/
theorem beq (h : Alike x y) (number : x.isNaN = false) : (x == y) = true := by
  have self : x.toModel.unpack.compare x.toModel.unpack = some .eq := Kin.compare_self number
  have same : x.toModel.unpack.compare y.toModel.unpack = some .eq :=
    (Kin.compare_eq (Kin.refl _) h) ▸ self
  change (x.toModel.unpack.compare y.toModel.unpack == some .eq) = true
  rw [same, beq_self_eq_true]

/-- Alike doubles are the same double, or each is `0.0` or `-0.0`. -/
theorem eq_or_zeros (h : Alike x y) :
    x = y ∨ (x = 0.0 ∨ x = -0.0) ∧ (y = 0.0 ∨ y = -0.0) := by
  have zeros : ∀ (z : Float) (s : Sign), z.toModel.unpack = .zero s → z = 0.0 ∨ z = -0.0 := by
    rintro z (_ | _) unpacked
    · exact .inr (eq_of_unpack_eq unpacked)
    · exact .inl (eq_of_unpack_eq unpacked)
  unfold Alike at h
  generalize hu : x.toModel.unpack = u at h
  generalize hv : y.toModel.unpack = v at h
  cases h with
  | refl => exact .inl (eq_of_unpack_eq (hu.trans hv.symm))
  | zero s t => exact .inr ⟨zeros x s hu, zeros y t hv⟩

theorem units_eq (h : Alike x y) : units x = units y := by
  have zero : units 0.0 = 0 := by decide +kernel
  have negative : units (-0.0) = 0 := by decide +kernel
  rcases h.eq_or_zeros with rfl | ⟨rfl | rfl, rfl | rfl⟩ <;> simp only [zero, negative]

end Alike

/-! ## Equality by value -/

variable {x y z : Float}

theorem beq_self {x : Float} (number : x.isNaN = false) : (x == x) = true :=
  (Alike.refl x).beq number

theorem beq_symm (h : (x == y) = true) : (y == x) = true := by
  have alike := alike_of_beq h
  exact alike.symm.beq (alike.isNaN_eq ▸ not_isNaN_of_beq h)

theorem beq_trans (h : (x == y) = true) (k : (y == z) = true) : (x == z) = true :=
  ((alike_of_beq h).trans (alike_of_beq k)).beq (not_isNaN_of_beq h)

/-- What a column keeps of a double equals it. -/
theorem plainZero_beq {x : Float} (number : x.isNaN = false) : (plainZero x == x) = true := by
  unfold plainZero
  split
  · next zero => exact beq_symm zero
  · exact beq_self number

theorem sameReals_iff {xs ys : List Float} :
    sameReals xs ys = true ↔ List.Forall₂ (fun x y => (x == y) = true) xs ys := by
  induction xs generalizing ys with
  | nil => cases ys <;> simp [sameReals]
  | cons x xs ih => cases ys <;> simp [sameReals, ih]

theorem sameReals_self {xs : List Float} (numbers : ∀ x ∈ xs, x.isNaN = false) :
    sameReals xs xs = true := by
  rw [sameReals_iff, List.forall₂_same]
  exact fun x mem => beq_self (numbers x mem)

theorem sameReals_symm {xs ys : List Float} (h : sameReals xs ys = true) :
    sameReals ys xs = true := by
  rw [sameReals_iff] at h ⊢
  exact h.flip.imp fun _ _ => beq_symm

theorem sameReals_trans {xs ys zs : List Float} (h : sameReals xs ys = true)
    (k : sameReals ys zs = true) : sameReals xs zs = true := by
  induction xs generalizing ys zs with
  | nil => cases ys <;> simp_all [sameReals]
  | cons x xs ih =>
    rcases ys with _ | ⟨y, ys⟩ <;> rcases zs with _ | ⟨z, zs⟩ <;>
      simp only [sameReals, Bool.and_eq_true, reduceCtorEq] at h k ⊢
    exact ⟨beq_trans h.1 k.1, ih h.2 k.2⟩

theorem sameReals_append {xs ys xs' ys' : List Float} (h : sameReals xs ys = true)
    (k : sameReals xs' ys' = true) : sameReals (xs ++ xs') (ys ++ ys') = true := by
  rw [sameReals_iff] at *
  exact List.rel_append h k

theorem sameReals_length {xs ys : List Float} (h : sameReals xs ys = true) :
    xs.length = ys.length :=
  (sameReals_iff.1 h).length_eq

theorem numbers_of_sameReals {xs ys : List Float} (same : sameReals xs ys = true) :
    ∀ x ∈ xs, x.isNaN = false := by
  have pairs := sameReals_iff.1 same
  induction pairs with
  | nil => exact List.forall_mem_nil _
  | cons first rest ih =>
    rw [List.forall_mem_cons]
    exact ⟨not_isNaN_of_beq first, ih (sameReals_iff.2 rest)⟩

theorem last_of_sameReals {xs ys : List Float} (same : sameReals xs (ys ++ [y]) = true) :
    ∃ x, xs.getLast? = some x ∧ (x == y) = true := by
  have pairs := List.forall₂_reverse_iff.2 (sameReals_iff.1 same)
  rw [List.reverse_append, List.reverse_singleton, List.singleton_append] at pairs
  rw [← List.head?_reverse]
  generalize xs.reverse = reversed at pairs
  cases pairs with
  | cons first _ => exact ⟨_, rfl, first⟩

end FarmLedger.Number
