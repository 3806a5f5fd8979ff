import EscTelemetry.Bench.Random
import Mathlib.Data.FinEnum
import Mathlib.Data.LawfulXor.Basic
import Mathlib.Dynamics.PeriodicPts.Defs
import Mathlib.Logic.Relation
import Mathlib.Tactic.NormNum.Prime

/-!
# The generator never dies

Zero is a fixed point of xorshift. A generator that reached it would draw zero forever, and
every `chance p` with `0 < p < 1` would come out true, so a fault profile would become
"always fail". This module shows that the generator never gets there, and that its cycle
is as long as a 32-bit xorshift's can be.

* Each of the three steps of `mix` (`x ^^^ (x <<< 13)`, `x ^^^ (x >>> 17)`,
  `x ^^^ (x <<< 5)`) is a bijection of the words (`bijective_xorShift`).
* No run of draws and chances from a seed reaches the zero state
  (`state_ne_zero_of_run`).
* `mix` has period `2 ^ 32 - 1` at every non-zero word, so the non-zero words form one
  cycle (`minimalPeriod_mix`, `existsUnique_iterate_mix_eq`).

The kernel decides the period. `mix` is linear over GF(2), so it is a 32 × 32 bit matrix,
stored as the list of its columns. Repeated squaring gives the power `2 ^ 32 - 1`, and the
kernel checks that it is the identity. For each prime `p` of
`2 ^ 32 - 1 = 3 · 5 · 17 · 257 · 65537`, the kernel checks that the power `(2 ^ 32 - 1) / p`
plus the identity has a left inverse, found by Gauss–Jordan elimination. Only the checks are
trusted: nothing here proves that the elimination is correct.
-/

namespace EscTelemetry

namespace XorShift

open Function

/-! ## Bit matrices as lists of columns -/

/-- The word that a bit matrix sends `x` to: the xor of the columns at the set bits of `x`,
lowest bit first. -/
def applyCols : List Nat → Nat → Nat
  | [], _ => 0
  | c :: cs, x => (if x % 2 = 0 then 0 else c) ^^^ applyCols cs (x / 2)

/-- The product `A · B`: each column of `B` sent through `A`. -/
def composeCols (A B : List Nat) : List Nat := B.map (applyCols A)

/-- The sum `A + B`, where the shorter matrix is padded with zero columns. -/
def addCols : List Nat → List Nat → List Nat
  | [], B => B
  | a :: A, [] => a :: A
  | a :: A, b :: B => (a ^^^ b) :: addCols A B

/-- The identity on 32-bit words. -/
def unitCols : List Nat := (List.range 32).map (2 ^ ·)

/-- `A, A², A⁴, …`, `n` of them. -/
def squares : Nat → List Nat → List (List Nat)
  | 0, _ => []
  | n + 1, A => A :: squares n (composeCols A A)

/-- The power `e` of the matrix whose repeated squares are `sq`, built from the bits of
`e`. -/
def powCols : List (List Nat) → Nat → List Nat
  | [], _ => unitCols
  | S :: sq, e =>
    let R := powCols sq (e / 2)
    if e % 2 = 1 then composeCols R S else R

/-- One pivot of Gauss–Jordan elimination over pairs `(L v, v)`. The first pair whose first
word has bit `r` set joins the finished pairs, and bit `r` is cleared from the first word of
every other pair. The xor of two such pairs is again such a pair. -/
def pivotOn (st : List (Nat × Nat) × List (Nat × Nat)) (r : Nat) :
    List (Nat × Nat) × List (Nat × Nat) :=
  match st.2.find? (fun p => p.1.testBit r) with
  | none => st
  | some p =>
    let clear := fun (q : Nat × Nat) => if q.1.testBit r then (q.1 ^^^ p.1, q.2 ^^^ p.2) else q
    (st.1.map clear ++ [p], (st.2.erase p).map clear)

/-- A candidate inverse of `L`. Elimination starts from the pairs `(L eᵢ, eᵢ)`. When `L` is
invertible, it reduces the first words to the unit words, and the second words are then the
columns of `L⁻¹`. -/
def inverseCols (L : List Nat) : List Nat :=
  ((List.range 32).foldl pivotOn ([], L.zip unitCols)).1.map (·.2)

/-- Whether `inverseCols L` undoes `L`. -/
def hasLeftInverse (L : List Nat) : Bool := composeCols (inverseCols L) L == unitCols

/-- The period test over the repeated squares `sq` of a matrix `M`: `M ^ (2 ^ 32 - 1)` is
the identity, and `M ^ ((2 ^ 32 - 1) / p) + 1` is invertible for each prime `p` of
`2 ^ 32 - 1`. -/
def periodCheck (sq : List (List Nat)) : Bool :=
  powCols sq (2 ^ 32 - 1) == unitCols &&
    [0x55555555, 0x33333333, 0x0F0F0F0F, 0x00FF00FF, 0x0000FFFF].all fun e =>
      hasLeftInverse (addCols (powCols sq e) unitCols)

/-! ## What the matrices compute -/

theorem select_xor (a b c : Nat) :
    (if (a ^^^ b) % 2 = 0 then 0 else c) =
      (if a % 2 = 0 then 0 else c) ^^^ (if b % 2 = 0 then 0 else c) := by
  have low : (a ^^^ b) % 2 = a % 2 ^^^ b % 2 := by
    simpa using Nat.xor_mod_two_pow (a := a) (b := b) (n := 1)
  rcases Nat.mod_two_eq_zero_or_one a with ha | ha <;>
    rcases Nat.mod_two_eq_zero_or_one b with hb | hb <;> simp [low, ha, hb]

@[simp]
theorem applyCols_zero (A : List Nat) : applyCols A 0 = 0 := by
  induction A with
  | nil => rfl
  | cons c A ih => simp [applyCols, ih]

/-- A bit matrix is linear. -/
theorem applyCols_xor (A : List Nat) (a b : Nat) :
    applyCols A (a ^^^ b) = applyCols A a ^^^ applyCols A b := by
  induction A generalizing a b with
  | nil => simp [applyCols]
  | cons c A ih =>
    rw [applyCols, applyCols, applyCols, select_xor, Nat.xor_div_two, ih]
    ac_rfl

/-- Sending every column through a linear map sends the result through it. -/
theorem applyCols_map {f : Nat → Nat} (linear : ∀ a b, f (a ^^^ b) = f a ^^^ f b)
    (zero : f 0 = 0) (A : List Nat) (x : Nat) :
    applyCols (A.map f) x = f (applyCols A x) := by
  induction A generalizing x with
  | nil => simp [applyCols, zero]
  | cons c A ih =>
    rw [List.map_cons, applyCols, applyCols, ih, linear]
    split <;> simp [zero]

theorem applyCols_composeCols (A B : List Nat) (x : Nat) :
    applyCols (composeCols A B) x = applyCols A (applyCols B x) :=
  applyCols_map (applyCols_xor A) (applyCols_zero A) B x

theorem applyCols_addCols (A B : List Nat) (x : Nat) :
    applyCols (addCols A B) x = applyCols A x ^^^ applyCols B x := by
  induction A generalizing B x with
  | nil => simp [addCols, applyCols]
  | cons a A ih =>
    cases B with
    | nil => simp [addCols, applyCols]
    | cons b B =>
      rw [addCols, applyCols, applyCols, applyCols, ih]
      split
      · simp only [Nat.zero_xor]
      · ac_rfl

theorem bit_xor_two_mul {b : Nat} (hb : b < 2) (y : Nat) : b ^^^ 2 * y = b + 2 * y := by
  have low : (b ^^^ 2 * y) % 2 = b := by
    have := Nat.xor_mod_two_pow (a := b) (b := 2 * y) (n := 1)
    simp only [Nat.pow_one, Nat.mul_mod_right, Nat.xor_zero] at this
    omega
  have high : (b ^^^ 2 * y) / 2 = y := by
    rw [Nat.xor_div_two, Nat.div_eq_of_lt hb, Nat.mul_div_cancel_left y (by decide),
      Nat.zero_xor]
  omega

theorem applyCols_powers (n x : Nat) :
    applyCols ((List.range n).map (2 ^ ·)) x = x % 2 ^ n := by
  induction n generalizing x with
  | zero => simp [applyCols, Nat.mod_one]
  | succ n ih =>
    have cols : (List.range (n + 1)).map (2 ^ ·) =
        1 :: ((List.range n).map (2 ^ ·)).map (2 * ·) := by
      simp [List.range_succ_eq_map, Nat.pow_succ']
    have double : ∀ a b : Nat, 2 * (a ^^^ b) = 2 * a ^^^ 2 * b := fun a b => by
      simpa [Nat.shiftLeft_eq, Nat.mul_comm] using
        Nat.shiftLeft_xor_distrib (a := a) (b := b) (i := 1)
    rw [cols, applyCols, applyCols_map double (Nat.mul_zero 2), ih,
      show (if x % 2 = 0 then 0 else 1) = x % 2 by split <;> omega,
      bit_xor_two_mul (Nat.mod_lt x (by decide)), Nat.pow_succ', Nat.mod_mul]

theorem applyCols_unitCols {x : Nat} (hx : x < 2 ^ 32) : applyCols unitCols x = x := by
  rw [unitCols, applyCols_powers, Nat.mod_eq_of_lt hx]

/-- The only word a matrix with a left inverse sends to zero is zero. -/
theorem eq_zero_of_hasLeftInverse {L : List Nat} (h : hasLeftInverse L) {x : Nat}
    (hx : x < 2 ^ 32) (zero : applyCols L x = 0) : x = 0 := by
  have undo : composeCols (inverseCols L) L = unitCols := by simpa [hasLeftInverse] using h
  calc x = applyCols unitCols x := (applyCols_unitCols hx).symm
    _ = applyCols (inverseCols L) (applyCols L x) := by rw [← undo, applyCols_composeCols]
    _ = 0 := by rw [zero, applyCols_zero]

/-! ## Matrices of maps on words -/

/-- The 32-bit words. -/
def words32 : Set Nat := Set.Iio (2 ^ 32)

/-- The matrix `A` acts as `f` on 32-bit words. -/
def Represents (A : List Nat) (f : Nat → Nat) : Prop := ∀ x ∈ words32, applyCols A x = f x

theorem represents_unitCols : Represents unitCols id := fun _ hx => applyCols_unitCols hx

theorem represents_map {f : Nat → Nat} (linear : ∀ a b, f (a ^^^ b) = f a ^^^ f b)
    (zero : f 0 = 0) : Represents (unitCols.map f) f := fun x hx => by
  rw [applyCols_map linear zero, applyCols_unitCols hx]

theorem Represents.compose {A B : List Nat} {f g : Nat → Nat} (hA : Represents A f)
    (hB : Represents B g) (hg : Set.MapsTo g words32 words32) :
    Represents (composeCols A B) (f ∘ g) := fun x hx => by
  rw [applyCols_composeCols, hB x hx, hA (g x) (hg hx), comp_apply]

theorem Represents.add {A B : List Nat} {f g : Nat → Nat} (hA : Represents A f)
    (hB : Represents B g) : Represents (addCols A B) fun x => f x ^^^ g x := fun x hx => by
  rw [applyCols_addCols, hA x hx, hB x hx]

/-- Powers by repeated squaring: the power `e` of the squares of a matrix of `f` is a matrix
of `f^[e]`, for every `e` the squares reach. -/
theorem Represents.powCols {A : List Nat} {f : Nat → Nat} (hA : Represents A f)
    (hf : Set.MapsTo f words32 words32) {n e : Nat} (he : e < 2 ^ n) :
    Represents (powCols (squares n A) e) f^[e] := by
  -- the squares of `A` past the first are the squares of `A · A`, a matrix of `f^[2]`
  induction n generalizing A f e with
  | zero =>
    obtain rfl : e = 0 := by simpa using he
    exact represents_unitCols
  | succ n ih =>
    have twice : Represents (composeCols A A) f^[2] := hA.compose hA hf
    have half : Represents (XorShift.powCols (squares n (composeCols A A)) (e / 2))
        f^[2 * (e / 2)] := by
      rw [iterate_mul]
      exact ih twice (hf.iterate 2) (by omega)
    rw [squares, XorShift.powCols]
    split
    · have odd : f^[e] = f^[2 * (e / 2)] ∘ f := by
        rw [← iterate_succ]
        congr 1
        omega
      rw [odd]
      exact half.compose hA hf
    · have even : f^[e] = f^[2 * (e / 2)] := by
        congr 1
        omega
      rwa [even]

/-! ## The matrix of `mix` -/

/-- `mix` on the values of words. -/
def mixNat (x : Nat) : Nat :=
  let x := x ^^^ (x <<< 13) % 2 ^ 32
  let x := x ^^^ x >>> 17
  x ^^^ (x <<< 5) % 2 ^ 32

/-- A step `x ↦ x ^^^ s x` is linear when `s` is. -/
theorem xor_step_linear {s : Nat → Nat} (linear : ∀ a b, s (a ^^^ b) = s a ^^^ s b)
    (a b : Nat) : (a ^^^ b) ^^^ s (a ^^^ b) = (a ^^^ s a) ^^^ (b ^^^ s b) := by
  rw [linear]
  ac_rfl

theorem mixNat_xor (a b : Nat) : mixNat (a ^^^ b) = mixNat a ^^^ mixNat b := by
  have left : ∀ k a b, ((a ^^^ b) <<< k) % 2 ^ 32 = (a <<< k) % 2 ^ 32 ^^^ (b <<< k) % 2 ^ 32 :=
    fun k a b => by rw [Nat.shiftLeft_xor_distrib, Nat.xor_mod_two_pow]
  have right : ∀ k a b, (a ^^^ b) >>> k = a >>> k ^^^ b >>> k :=
    fun k a b => Nat.shiftRight_xor_distrib
  simp only [mixNat]
  rw [xor_step_linear (s := fun x => (x <<< 13) % 2 ^ 32) (left 13) a b,
    xor_step_linear (s := fun x => x >>> 17) (right 17),
    xor_step_linear (s := fun x => (x <<< 5) % 2 ^ 32) (left 5)]

theorem mixNat_mapsTo : Set.MapsTo mixNat words32 words32 := fun x hx => by
  have left : ∀ k y, y < 2 ^ 32 → y ^^^ (y <<< k) % 2 ^ 32 < 2 ^ 32 :=
    fun k y hy => Nat.xor_lt_two_pow hy (Nat.mod_lt _ (by decide))
  have right : ∀ k y, y < 2 ^ 32 → y ^^^ y >>> k < 2 ^ 32 :=
    fun k y hy => Nat.xor_lt_two_pow hy (lt_of_le_of_lt (Nat.shiftRight_le y k) hy)
  exact left 5 _ (right 17 _ (left 13 x hx))

/-- The columns of `mix`. -/
def mixCols : List Nat := unitCols.map mixNat

theorem represents_mixCols : Represents mixCols mixNat :=
  represents_map mixNat_xor (by decide)

theorem periodCheck_mixCols : periodCheck (squares 32 mixCols) = true := by decide +kernel

/-- What the period test says about a map: after `2 ^ 32 - 1` steps every word is back, and
for each prime `p` of `2 ^ 32 - 1`, no word but zero is back after `(2 ^ 32 - 1) / p`
steps. -/
theorem periodCheck_sound {A : List Nat} {f : Nat → Nat} (hA : Represents A f)
    (hf : Set.MapsTo f words32 words32) (check : periodCheck (squares 32 A) = true) {x : Nat}
    (hx : x ∈ words32) :
    f^[2 ^ 32 - 1] x = x ∧
      ∀ e ∈ [0x55555555, 0x33333333, 0x0F0F0F0F, 0x00FF00FF, 0x0000FFFF], f^[e] x = x → x = 0 := by
  simp only [periodCheck, Bool.and_eq_true, beq_iff_eq, List.all_eq_true] at check
  obtain ⟨full, early⟩ := check
  refine ⟨?_, fun e he back => ?_⟩
  · rw [← hA.powCols hf (n := 32) (by decide) x hx, full, applyCols_unitCols hx]
  · have small : e < 2 ^ 32 := by
      simp only [List.mem_cons, List.not_mem_nil, or_false] at he
      omega
    apply eq_zero_of_hasLeftInverse (early e he) hx
    rw [((hA.powCols hf small).add represents_unitCols) x hx]
    show f^[e] x ^^^ x = 0
    rw [back, Nat.xor_self]

theorem mixNat_period {x : Nat} (hx : x ∈ words32) :
    mixNat^[2 ^ 32 - 1] x = x ∧
      ∀ e ∈ [0x55555555, 0x33333333, 0x0F0F0F0F, 0x00FF00FF, 0x0000FFFF],
        mixNat^[e] x = x → x = 0 :=
  periodCheck_sound represents_mixCols mixNat_mapsTo periodCheck_mixCols hx

/-! ## Periods of `mix` -/

theorem toNat_mix (x : UInt32) : (mix x).toNat = mixNat x.toNat := by
  simp [mix, mixNat, UInt32.toNat_xor, UInt32.toNat_shiftLeft, UInt32.toNat_shiftRight]

theorem isPeriodicPt_mix_iff {k : Nat} {x : UInt32} :
    IsPeriodicPt mix k x ↔ IsPeriodicPt mixNat k x.toNat := by
  have word : Semiconj UInt32.toNat mix mixNat := toNat_mix
  simp only [IsPeriodicPt, IsFixedPt, ← word.iterate_right k x, UInt32.toNat_inj]

/-- A point that is back after `n` steps, but not after `n / p` steps for any prime `p` of
`n`, has period exactly `n`. -/
theorem minimalPeriod_eq_of_prime_divisors {α : Type*} {f : α → α} {x : α} {n : Nat}
    (back : IsPeriodicPt f n x)
    (early : ∀ p, p.Prime → p ∣ n → ¬IsPeriodicPt f (n / p) x) : minimalPeriod f x = n := by
  -- the period divides `n`; a prime `p` of the cofactor would make the point come back
  -- after `n / p` steps, a multiple of the period
  obtain ⟨q, hq⟩ := back.minimalPeriod_dvd
  by_contra ne
  have cofactor : q ≠ 1 := fun h => ne (by rw [hq, h, Nat.mul_one])
  obtain ⟨p, hp, r, hr⟩ := Nat.exists_prime_and_dvd cofactor
  have quot : n / p = minimalPeriod f x * r := by
    rw [hq, hr, Nat.mul_left_comm, Nat.mul_div_cancel_left _ hp.pos]
  apply early p hp ⟨minimalPeriod f x * r, by rw [hq, hr, Nat.mul_left_comm]⟩
  rw [quot]
  exact (isPeriodicPt_minimalPeriod f x).mul_const r

/-- The primes of `2 ^ 32 - 1`. -/
theorem prime_dvd_wordPeriod {p : Nat} (hp : p.Prime) (h : p ∣ 2 ^ 32 - 1) :
    p = 3 ∨ p = 5 ∨ p = 17 ∨ p = 257 ∨ p = 65537 := by
  have factors : (2 ^ 32 - 1 : Nat) = 3 * (5 * (17 * (257 * 65537))) := by decide
  have eq_of_dvd : ∀ q : Nat, q.Prime → p ∣ q → p = q :=
    fun q hq hd => (Nat.prime_dvd_prime_iff_eq hp hq).mp hd
  rw [factors] at h
  simp only [hp.dvd_mul] at h
  rcases h with h | h | h | h | h <;> have := eq_of_dvd _ (by norm_num) h <;> omega

/-- Every non-zero word comes back to itself after exactly `2 ^ 32 - 1` steps of `mix`. -/
theorem minimalPeriod_mix {x : UInt32} (hx : x ≠ 0) : minimalPeriod mix x = 2 ^ 32 - 1 := by
  obtain ⟨full, early⟩ := mixNat_period x.toNat_lt
  have nonzero : x.toNat ≠ 0 := fun h => hx (UInt32.toNat_inj.mp h)
  apply minimalPeriod_eq_of_prime_divisors (isPeriodicPt_mix_iff.mpr full)
  intro p hp hdvd back
  apply nonzero (early ((2 ^ 32 - 1) / p) ?_ (isPeriodicPt_mix_iff.mp back))
  rcases prime_dvd_wordPeriod hp hdvd with rfl | rfl | rfl | rfl | rfl <;> decide

/-! ## The steps are bijections -/

/-- A step `x ↦ x ^^^ s x` is injective when `s` is linear and fixes no word but zero. -/
theorem injective_xor_step {s : UInt32 → UInt32} (linear : ∀ a b, s (a ^^^ b) = s a ^^^ s b)
    (fix : ∀ z, s z = z → z = 0) : Injective fun x => x ^^^ s x := by
  intro a b same
  simp only at same
  have diff : s (a ^^^ b) = a ^^^ b :=
    calc s (a ^^^ b) = s a ^^^ s b := linear a b
      _ = (a ^^^ (a ^^^ s a)) ^^^ s b := by rw [xor_cancel_left]
      _ = (a ^^^ (b ^^^ s b)) ^^^ s b := by rw [same]
      _ = a ^^^ b := by rw [← xor_assoc, xor_cancel_right]
  exact UInt32.xor_eq_zero_iff.mp (fix _ diff)

/-- Each of the three steps of `mix` is a bijection of the words. -/
theorem bijective_xorShift :
    Bijective (fun x : UInt32 => x ^^^ (x <<< 13)) ∧
      Bijective (fun x : UInt32 => x ^^^ (x >>> 17)) ∧
      Bijective (fun x : UInt32 => x ^^^ (x <<< 5)) := by
  refine ⟨Finite.injective_iff_bijective.mp (injective_xor_step (fun _ _ => UInt32.shiftLeft_xor) ?_),
    Finite.injective_iff_bijective.mp (injective_xor_step (fun _ _ => UInt32.shiftRight_xor) ?_),
    Finite.injective_iff_bijective.mp (injective_xor_step (fun _ _ => UInt32.shiftLeft_xor) ?_)⟩ <;>
  · intro z fixed
    have bound := z.toNat_lt
    have value := congrArg UInt32.toNat fixed
    simp [UInt32.toNat_shiftLeft, UInt32.toNat_shiftRight, Nat.shiftLeft_eq,
      Nat.shiftRight_eq_div_pow] at value
    apply UInt32.toNat_inj.mp
    simp only [UInt32.toNat_zero]
    omega

theorem bijective_mix : Bijective mix := by
  obtain ⟨first, second, third⟩ := bijective_xorShift
  exact third.comp (second.comp first)

theorem mix_ne_zero {x : UInt32} (hx : x ≠ 0) : mix x ≠ 0 :=
  fun h => hx (bijective_mix.injective (h.trans (by decide : mix 0 = 0).symm))

theorem iterate_mix_ne_zero {x : UInt32} (hx : x ≠ 0) (k : Nat) : mix^[k] x ≠ 0 :=
  Set.MapsTo.iterate (s := {x | x ≠ 0}) (fun _ => mix_ne_zero) k hx

/-- The non-zero words form one cycle of `mix`: each reaches every other after exactly one
number of steps below `2 ^ 32 - 1`. The orbit of a non-zero word holds `2 ^ 32 - 1` distinct
non-zero words, so it holds all of them. -/
theorem existsUnique_iterate_mix_eq {x y : UInt32} (hx : x ≠ 0) (hy : y ≠ 0) :
    ∃! k, k < 2 ^ 32 - 1 ∧ mix^[k] x = y := by
  let orbit := (Finset.range (2 ^ 32 - 1)).image fun k => mix^[k] x
  have distinct : Set.InjOn (fun k => mix^[k] x) (Finset.range (2 ^ 32 - 1)) := by
    rw [Finset.coe_range, ← minimalPeriod_mix hx]
    exact iterate_injOn_Iio_minimalPeriod
  have inside : orbit ⊆ Finset.univ.erase 0 := by
    intro z hz
    obtain ⟨k, -, rfl⟩ := Finset.mem_image.mp hz
    exact Finset.mem_erase.mpr ⟨iterate_mix_ne_zero hx k, Finset.mem_univ _⟩
  have all : orbit = Finset.univ.erase 0 := by
    apply Finset.eq_of_subset_of_card_le inside
    rw [Finset.card_image_of_injOn distinct, Finset.card_range,
      Finset.card_erase_of_mem (Finset.mem_univ _), Finset.card_univ,
      ← FinEnum.card_eq_fintypeCard, FinEnum.card_UInt32]
  have reached : y ∈ orbit := all ▸ Finset.mem_erase.mpr ⟨hy, Finset.mem_univ y⟩
  obtain ⟨k, hk, rfl⟩ := Finset.mem_image.mp reached
  refine ⟨k, ⟨Finset.mem_range.mp hk, rfl⟩, fun j ⟨hj, same⟩ => ?_⟩
  exact distinct (Finset.mem_coe.mpr (Finset.mem_range.mpr hj)) hk same

/-! ## Runs of draws -/

/-- One call on a generator: a word, or a `chance`. -/
inductive Draw : XorShift → XorShift → Prop
  | word (g : XorShift) : Draw g g.next.2
  | chance (g : XorShift) (p : Float32) : Draw g (g.chance p).2

/-- A `chance` leaves the generator as it was, or draws one word. -/
theorem chance_snd (g : XorShift) (p : Float32) :
    (g.chance p).2 = g ∨ (g.chance p).2 = g.next.2 := by
  unfold chance
  split
  · exact Or.inl rfl
  · split
    · exact Or.inr rfl
    · exact Or.inl rfl

theorem Draw.state_ne_zero {g g' : XorShift} (draw : Draw g g') (hg : g.state ≠ 0) :
    g'.state ≠ 0 := by
  cases draw with
  | word => exact mix_ne_zero hg
  | chance p =>
    rcases chance_snd g p with same | drawn
    · rwa [same]
    · rw [drawn]
      exact mix_ne_zero hg

/-- No run of draws and chances from a seed reaches the zero state, and no draw on the way
gives the word zero. -/
theorem state_ne_zero_of_run {seed : UInt32} {g : XorShift}
    (run : Relation.ReflTransGen Draw (new seed) g) : g.state ≠ 0 ∧ g.next.1 ≠ 0 := by
  have state : g.state ≠ 0 := by
    induction run with
    | refl => exact state_new_ne_zero seed
    | tail _ draw ih => exact draw.state_ne_zero ih
  exact ⟨state, mix_ne_zero state⟩

/-- The generator's state is never zero, and the non-zero words form one cycle of `mix`. A
generator starts from `max seed 1`. Each step of `mix` is a bijection, so `next` takes a
non-zero state to a non-zero one and never draws zero, and no run of draws and chances from
a seed reaches zero. Every non-zero word has period `2 ^ 32 - 1`, and reaches every other
non-zero word after exactly one number of steps below that. -/
theorem state_never_zero_single_cycle :
    (∀ seed : UInt32, (new seed).state = max seed 1 ∧ (new seed).state ≠ 0) ∧
      (Bijective (fun x : UInt32 => x ^^^ (x <<< 13)) ∧
        Bijective (fun x : UInt32 => x ^^^ (x >>> 17)) ∧
        Bijective (fun x : UInt32 => x ^^^ (x <<< 5))) ∧
      (∀ g : XorShift, g.state ≠ 0 → g.next.1 ≠ 0 ∧ g.next.2.state ≠ 0) ∧
      (∀ (seed : UInt32) (g : XorShift), Relation.ReflTransGen Draw (new seed) g →
        g.state ≠ 0 ∧ g.next.1 ≠ 0) ∧
      (∀ x : UInt32, x ≠ 0 → minimalPeriod mix x = 2 ^ 32 - 1) ∧
      ∀ x y : UInt32, x ≠ 0 → y ≠ 0 → ∃! k, k < 2 ^ 32 - 1 ∧ mix^[k] x = y :=
  ⟨fun seed => ⟨rfl, state_new_ne_zero seed⟩, bijective_xorShift,
    fun _ hg => ⟨mix_ne_zero hg, mix_ne_zero hg⟩, fun _ _ run => state_ne_zero_of_run run,
    fun _ hx => minimalPeriod_mix hx, fun _ _ hx hy => existsUnique_iterate_mix_eq hx hy⟩

end XorShift

end EscTelemetry
