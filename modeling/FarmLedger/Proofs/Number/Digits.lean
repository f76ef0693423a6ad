/-
# FarmLedger.Proofs.Number.Digits — rows of digits read back

A number that has no more digits than the width is denoted by its row of digits
(`ofDigits_fixedDigits`), and the row consists of as many digits as the width says.
-/
import FarmLedger.Number.Digits
import Mathlib.Algebra.Ring.Nat

namespace FarmLedger.Number

theorem ofDigits_concat (digits : List Char) (last : Char) :
    ofDigits (digits ++ [last]) = 10 * ofDigits digits + (last.toNat - 0x30) := by
  unfold ofDigits
  rw [List.foldl_append]
  rfl

/-- A digit is told by its character, and the character is a digit. -/
theorem digitChar_lt_ten :
    ∀ n < 10, (Nat.digitChar n).isDigit = true ∧ (Nat.digitChar n).toNat - 0x30 = n := by
  decide

theorem length_fixedDigits (width n : Nat) : (fixedDigits width n).length = width := by
  induction width generalizing n with
  | zero => rfl
  | succ width ih => rw [fixedDigits, List.length_append, ih, List.length_singleton]

theorem isDigit_of_mem_fixedDigits {width n : Nat} {c : Char} (mem : c ∈ fixedDigits width n) :
    c.isDigit = true := by
  induction width generalizing n with
  | zero => cases mem
  | succ width ih =>
    rcases List.mem_append.1 mem with front | last
    · exact ih front
    · rw [List.mem_singleton.1 last]
      exact (digitChar_lt_ten _ (Nat.mod_lt n (by decide))).1

theorem ofDigits_fixedDigits {width n : Nat} (short : n < 10 ^ width) :
    ofDigits (fixedDigits width n) = n := by
  induction width generalizing n with
  | zero => exact (Nat.lt_one_iff.1 short).symm
  | succ width ih =>
    have front : n / 10 < 10 ^ width :=
      Nat.div_lt_of_lt_mul (by rwa [Nat.pow_succ, Nat.mul_comm] at short)
    rw [fixedDigits, ofDigits_concat, ih front,
      (digitChar_lt_ten _ (Nat.mod_lt n (by decide))).2, Nat.div_add_mod]

end FarmLedger.Number
