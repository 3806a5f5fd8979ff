import EscTelemetry.Proofs.CrcDetection
import Mathlib

/-!
# The check as a polynomial remainder

Read bit `i` of a register as the coefficient of `xⁱ` over GF(2) (`Crc8.toPoly`), and a byte
string as the polynomial whose coefficients are its bits, the most significant bit of the
first byte highest (`Crc8.messagePoly`). Then the KISS check of a string `M` is the remainder of
`M(x) · x⁸` on division by the generator `G(x) = x⁸ + x² + x + 1` (`Crc8.toPoly_ofBytes`), and
feeding one byte `b` into a register `c` leaves the remainder of `(c + b)(x) · x⁸`
(`Crc8.toPoly_update`).

The argument is long division, one bit at a time. One shift multiplies the register by `x` and
subtracts `G` when the coefficient of `x⁷` was set (`Crc8.toPoly_shift`), so it keeps the register
congruent to the register times `x` modulo `G`; by induction over the eight shifts of a byte and
then over the bytes of the string, the register stays congruent to the message times `x⁸`, and
a register, being of degree below eight, is its own remainder.

`Crc8.ofBytes_is_remainder` collects this with the two laws the error detection rests on: the
check of a bytewise sum is the sum of the checks, and a string followed by its own check byte
checks to zero.
-/

namespace EscTelemetry.Crc8

open Polynomial

/-! ## Registers as polynomials -/

/-- A register as a polynomial over GF(2): bit `i` is the coefficient of `xⁱ`. -/
noncomputable def toPoly (r : UInt8) : (ZMod 2)[X] :=
  ofFn 8 fun i => ((r.toNat.testBit i).toNat : ZMod 2)

/-- A byte string as a polynomial over GF(2): each byte's bits as in `toPoly`, every byte
standing eight places above the next, so that the first byte's top bit is the leading one. -/
noncomputable def messagePoly : List UInt8 → (ZMod 2)[X]
  | [] => 0
  | b :: bs => toPoly b * X ^ (8 * bs.length) + messagePoly bs

/-- The generator x⁸ + x² + x + 1. -/
noncomputable def generator : (ZMod 2)[X] := X ^ 8 + X ^ 2 + X + 1

theorem testBit_toNat_of_le (b : UInt8) {n : Nat} (hn : 8 ≤ n) : b.toNat.testBit n = false :=
  Nat.testBit_lt_two_pow (lt_of_lt_of_le b.toNat_lt (Nat.pow_le_pow_right (by omega) hn))

theorem coeff_toPoly (r : UInt8) (n : Nat) :
    (toPoly r).coeff n = ((r.toNat.testBit n).toNat : ZMod 2) := by
  by_cases hn : n < 8
  · simp [toPoly, hn]
  · simp [toPoly, ofFn_coeff_eq_zero_of_ge _ (Nat.le_of_not_lt hn),
      testBit_toNat_of_le r (Nat.le_of_not_lt hn)]

theorem degree_toPoly_lt (r : UInt8) : (toPoly r).degree < 8 := ofFn_degree_lt _

@[simp]
theorem toPoly_zero : toPoly 0 = 0 := by
  ext n
  simp [coeff_toPoly]

/-- Xor of bits is addition in GF(2). -/
theorem cast_toNat_xor (a b : Bool) : ((a ^^ b).toNat : ZMod 2) = a.toNat + b.toNat := by
  cases a <;> cases b <;> decide

theorem cast_toNat_and (a b : Bool) : ((a && b).toNat : ZMod 2) = a.toNat * b.toNat := by
  cases a <;> cases b <;> decide

theorem cast_toNat_decide (p : Prop) [Decidable p] :
    ((decide p).toNat : ZMod 2) = if p then 1 else 0 := by
  by_cases h : p <;> simp [h]

/-- The xor of two registers is the sum of their polynomials. -/
theorem toPoly_xor (a b : UInt8) : toPoly (a ^^^ b) = toPoly a + toPoly b := by
  ext n
  simp [coeff_toPoly, UInt8.toNat_xor, Nat.testBit_xor, cast_toNat_xor]

/-! ## The generator -/

/-- `0x07` is the generator without its leading term. -/
theorem toPoly_polynomial : toPoly polynomial = X ^ 2 + X + 1 := by
  ext n
  rw [coeff_toPoly]
  rcases n with _ | _ | _ | n
  · simp [polynomial]
  · simp [polynomial, coeff_X, coeff_one]
    decide
  · simp [polynomial, coeff_X, coeff_one, coeff_X_pow]
    decide
  · have h7 : Nat.testBit 7 (n + 3) = false := Nat.testBit_lt_two_pow (by
      calc 7 < 2 ^ 3 := by decide
        _ ≤ 2 ^ (n + 3) := Nat.pow_le_pow_right (by omega) (by omega))
    simp [polynomial, coeff_X, coeff_one, coeff_X_pow, h7]

theorem generator_eq : generator = X ^ 8 + toPoly polynomial := by
  rw [toPoly_polynomial, generator]
  ring

theorem monic_generator : generator.Monic := by
  rw [generator_eq]
  exact monic_X_pow_add (degree_toPoly_lt _)

theorem degree_generator : generator.degree = 8 := by
  have hlow : (toPoly polynomial).degree < (X ^ 8 : (ZMod 2)[X]).degree := by
    rw [degree_X_pow]
    exact degree_toPoly_lt _
  rw [generator_eq, degree_add_eq_left_of_degree_lt hlow, degree_X_pow]
  rfl

/-! ## One shift is one step of the division -/

/-- Bit 0 after a shift: the polynomial's bit 0 when the top bit fell off. -/
theorem testBit_shift_zero (r : UInt8) :
    (shift r).toNat.testBit 0 = (r.toNat.testBit 7 && polynomial.toNat.testBit 0) :=
  forall_byte
    (P := fun r => (shift r).toNat.testBit 0 = (r.toNat.testBit 7 && polynomial.toNat.testBit 0))
    (by decide +kernel) r

/-- Bit `m + 1` after a shift: bit `m` before it, plus the generator's bit `m + 1` when the top
bit fell off. -/
theorem testBit_shift_succ (r : UInt8) (m : Nat) :
    (shift r).toNat.testBit (m + 1) = (r.toNat.testBit m ^^
      (r.toNat.testBit 7 && (decide (m + 1 = 8) ^^ polynomial.toNat.testBit (m + 1)))) := by
  by_cases hm : m < 8
  · revert m
    exact forall_byte (P := fun r => ∀ m < 8, (shift r).toNat.testBit (m + 1) =
      (r.toNat.testBit m ^^
        (r.toNat.testBit 7 && (decide (m + 1 = 8) ^^ polynomial.toNat.testBit (m + 1)))))
      (by decide +kernel) r
  · -- above the register every bit is clear, the generator's `x⁸` included
    have hbig : 8 ≤ m := Nat.le_of_not_lt hm
    simp [testBit_toNat_of_le _ hbig, testBit_toNat_of_le _ (Nat.le_succ_of_le hbig),
      show m + 1 ≠ 8 by omega]

/-- A shift multiplies the register by `x` and subtracts the generator when the coefficient of
`x⁷` was set. -/
theorem toPoly_shift (r : UInt8) :
    toPoly (shift r) = toPoly r * X + C ((toPoly r).coeff 7) * generator := by
  ext n
  rw [generator_eq, coeff_toPoly, coeff_add, coeff_C_mul, coeff_add, coeff_toPoly, coeff_X_pow,
    coeff_toPoly]
  rcases n with _ | m
  · rw [testBit_shift_zero, cast_toNat_and, coeff_mul_X_zero]
    simp
  · rw [coeff_mul_X, coeff_toPoly, testBit_shift_succ, cast_toNat_xor, cast_toNat_and,
      cast_toNat_xor, cast_toNat_decide]

theorem dvd_sub_toPoly_shift (r : UInt8) : generator ∣ toPoly r * X - toPoly (shift r) :=
  ⟨-C ((toPoly r).coeff 7), by rw [toPoly_shift]; ring⟩

/-- `n` shifts keep the register congruent to the register times `xⁿ`. -/
theorem dvd_sub_toPoly_repeat_shift (n : Nat) (r : UInt8) :
    generator ∣ toPoly r * X ^ n - toPoly (Nat.repeat shift n r) := by
  induction n with
  | zero => simp [Nat.repeat]
  | succ n ih =>
    have hsplit : toPoly r * X ^ (n + 1) - toPoly (shift (Nat.repeat shift n r)) =
        (toPoly r * X ^ n - toPoly (Nat.repeat shift n r)) * X +
          (toPoly (Nat.repeat shift n r) * X - toPoly (shift (Nat.repeat shift n r))) := by ring
    rw [Nat.repeat, hsplit]
    exact (ih.mul_right X).add (dvd_sub_toPoly_shift _)

/-! ## The check is the remainder -/

theorem dvd_sub_toPoly_update (c b : UInt8) :
    generator ∣ toPoly (c ^^^ b) * X ^ 8 - toPoly (update c b) :=
  dvd_sub_toPoly_repeat_shift 8 (c ^^^ b)

/-- Fed a string from the register `c`, the register stays congruent to `c` moved above the
string, plus the string, times `x⁸`. -/
theorem dvd_sub_toPoly_foldl_update (xs : List UInt8) (c : UInt8) :
    generator ∣ toPoly c * X ^ (8 * xs.length) + messagePoly xs * X ^ 8 -
      toPoly (xs.foldl update c) := by
  induction xs generalizing c with
  | nil => simp [messagePoly]
  | cons b xs ih =>
    have hsplit : toPoly c * X ^ (8 * (b :: xs).length) + messagePoly (b :: xs) * X ^ 8 -
          toPoly ((b :: xs).foldl update c) =
        (toPoly (update c b) * X ^ (8 * xs.length) + messagePoly xs * X ^ 8 -
            toPoly (xs.foldl update (update c b))) +
          (toPoly (c ^^^ b) * X ^ 8 - toPoly (update c b)) * X ^ (8 * xs.length) := by
      rw [toPoly_xor, List.length_cons, messagePoly, List.foldl_cons]
      ring
    rw [hsplit]
    exact (ih _).add ((dvd_sub_toPoly_update c b).mul_right _)

/-- A register congruent to `p` is the remainder of `p`: its degree is below the generator's. -/
theorem toPoly_eq_modByMonic {p : (ZMod 2)[X]} {r : UInt8} (h : generator ∣ p - toPoly r) :
    toPoly r = p %ₘ generator := by
  have hcongr := modByMonic_eq_of_dvd_sub monic_generator h
  rw [hcongr, (modByMonic_eq_self_iff monic_generator).mpr
    (by rw [degree_generator]; exact degree_toPoly_lt r)]

theorem toPoly_ofBytes (xs : List UInt8) :
    toPoly (ofBytes xs) = (messagePoly xs * X ^ 8) %ₘ generator :=
  toPoly_eq_modByMonic (by simpa [ofBytes] using dvd_sub_toPoly_foldl_update xs 0)

theorem toPoly_update (c b : UInt8) :
    toPoly (update c b) = (toPoly (c ^^^ b) * X ^ 8) %ₘ generator :=
  toPoly_eq_modByMonic (dvd_sub_toPoly_update c b)

/-- A string followed by its own check byte checks to zero. -/
theorem ofBytes_append_ofBytes (xs : List UInt8) : ofBytes (xs ++ [ofBytes xs]) = 0 := by
  rw [ofBytes_append_singleton, update_eq_zero_iff]

/-- The check of a string is the remainder of the string times `x⁸` modulo x⁸ + x² + x + 1, and
one byte fed into a register leaves the remainder of their sum times `x⁸`; so the check is
linear, and a string followed by its check byte checks to zero. -/
theorem ofBytes_is_remainder :
    (∀ xs, toPoly (ofBytes xs) = (messagePoly xs * X ^ 8) %ₘ generator) ∧
    (∀ c b, toPoly (update c b) = (toPoly (c ^^^ b) * X ^ 8) %ₘ generator) ∧
    (∀ xs ys : List UInt8, xs.length = ys.length →
      ofBytes (List.zipWith (· ^^^ ·) xs ys) = ofBytes xs ^^^ ofBytes ys) ∧
    (∀ xs, ofBytes (xs ++ [ofBytes xs]) = 0) :=
  ⟨toPoly_ofBytes, toPoly_update, fun _ _ => ofBytes_zipWith_xor, ofBytes_append_ofBytes⟩

end EscTelemetry.Crc8
