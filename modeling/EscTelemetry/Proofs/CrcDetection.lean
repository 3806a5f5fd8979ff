import EscTelemetry.Proofs.FrameCodecs
import Mathlib.Algebra.Ring.Parity

/-!
# What the KISS check catches

A KISS frame is refused when its check byte is not the CRC-8 of the nine bytes before it. The
check is linear over GF(2): the register of a sum of two byte strings is the sum of their
registers (`Crc8.ofBytes_zipWith_xor`), and the ten bytes of a sound frame feed the register
to zero. So a frame corrupted by an error pattern is read exactly when the pattern alone feeds
the register to zero (`KissFrame.parse_corrupt_isOk_iff`), whatever the frame.

Fed one bit at a time (`Crc8.update_eq_foldl_feedBit`), the register tells three kinds of
pattern apart from zero:

* a pattern with an odd number of set bits: a shift keeps the parity of the register, since
  the generator x⁸ + x² + x + 1 has an even number of terms (x + 1 divides it), and a set bit
  fed in flips it;
* two set bits: they cancel only if some number of shifts below 79 takes `0x07`, the register
  after the first bit, to `0x80`; it takes 127 (the order of x modulo the generator's
  degree-7 factor);
* a burst of at most eight positions: the eight bits of the window leave a non-zero register,
  and shifting never brings a non-zero register back to zero.

Bit positions are counted in the order the check reads them: byte 0 first, each byte from its
most significant bit. `KissFrame.parse_refuses_corruption` is the resulting guarantee; every
corruption of one, two or three bits is refused (`KissFrame.parse_refuses_few_flips`), and a
four-bit one is not always (`KissFrame.exists_undetected_four_flips`).
-/

namespace EscTelemetry

namespace Crc8

/-! ## Linearity -/

/-- A fact about every byte follows from the 256 byte values. The elaborator's `decide` goes
one level deeper for each value it checks, hence the raised recursion limit at each use. -/
theorem forall_byte {P : UInt8 → Prop} (h : ∀ n < 256, P (UInt8.ofNat n)) (b : UInt8) : P b := by
  simpa using h b.toNat b.toNat_lt

theorem and_top_eq_zero_iff (c : UInt8) : c &&& 0x80 = 0 ↔ c.toBitVec.msb = false :=
  forall_byte (P := fun c => c &&& 0x80 = 0 ↔ c.toBitVec.msb = false)
    (by set_option maxRecDepth 8000 in decide) c

/-- One shift as bit vectors: move up one place, and subtract the polynomial when the top bit
falls off. -/
theorem toBitVec_shift (c : UInt8) :
    (shift c).toBitVec = (c.toBitVec <<< 1) ^^^ (if c.toBitVec.msb then 7#8 else 0#8) := by
  unfold shift
  by_cases h : c.toBitVec.msb <;> simp [h, and_top_eq_zero_iff, polynomial]

theorem shift_xor (a b : UInt8) : shift (a ^^^ b) = shift a ^^^ shift b := by
  apply UInt8.toBitVec_inj.mp
  simp only [toBitVec_shift, UInt8.toBitVec_xor, BitVec.msb_xor, BitVec.shiftLeft_xor_distrib]
  cases a.toBitVec.msb <;> cases b.toBitVec.msb <;> simp
  case false.true => rw [BitVec.xor_assoc]
  case true.false => ac_rfl
  case true.true =>
    -- both registers subtract the polynomial, and the two subtractions cancel
    rw [BitVec.xor_comm (b.toBitVec <<< 1) 7#8, ← BitVec.xor_assoc, BitVec.xor_assoc _ 7#8 7#8,
      BitVec.xor_self, BitVec.xor_zero]

theorem repeat_shift_xor (n : Nat) (a b : UInt8) :
    Nat.repeat shift n (a ^^^ b) = Nat.repeat shift n a ^^^ Nat.repeat shift n b := by
  induction n with
  | zero => rfl
  | succ n ih => simp only [Nat.repeat, ih, shift_xor]

/-- Shifting first and then `n` times is shifting `n + 1` times. -/
theorem repeat_shift_shift (n : Nat) (a : UInt8) :
    Nat.repeat shift n (shift a) = Nat.repeat shift (n + 1) a := by
  induction n with
  | zero => rfl
  | succ n ih => simp only [Nat.repeat] at ih ⊢; rw [ih]

theorem update_xor (c c' b b' : UInt8) :
    update (c ^^^ c') (b ^^^ b') = update c b ^^^ update c' b' := by
  have hsum : c ^^^ c' ^^^ (b ^^^ b') = c ^^^ b ^^^ (c' ^^^ b') := by ac_rfl
  rw [update, update, update, hsum, repeat_shift_xor]

/-- Feeding the bytewise sum of two strings of one length from the sum of two registers
leaves the sum of the registers each string leaves. -/
theorem foldl_update_zipWith_xor :
    ∀ (xs ys : List UInt8), xs.length = ys.length → ∀ c c' : UInt8,
      (List.zipWith (· ^^^ ·) xs ys).foldl update (c ^^^ c') =
        xs.foldl update c ^^^ ys.foldl update c'
  | [], [], _, _, _ => rfl
  | x :: xs, y :: ys, hlen, c, c' => by
    rw [List.zipWith_cons_cons, List.foldl_cons, List.foldl_cons, List.foldl_cons, update_xor]
    exact foldl_update_zipWith_xor xs ys (by simpa using hlen) _ _

theorem ofBytes_zipWith_xor {xs ys : List UInt8} (hlen : xs.length = ys.length) :
    ofBytes (List.zipWith (· ^^^ ·) xs ys) = ofBytes xs ^^^ ofBytes ys := by
  have := foldl_update_zipWith_xor xs ys hlen 0 0
  simpa [ofBytes] using this

/-! ## When the register is zero -/

theorem shift_eq_zero_iff (r : UInt8) : shift r = 0 ↔ r = 0 :=
  forall_byte (P := fun r => shift r = 0 ↔ r = 0) (by set_option maxRecDepth 8000 in decide) r

theorem repeat_shift_eq_zero_iff (n : Nat) (r : UInt8) : Nat.repeat shift n r = 0 ↔ r = 0 := by
  induction n with
  | zero => rfl
  | succ n ih => rw [Nat.repeat, shift_eq_zero_iff, ih]

/-- Feeding a byte clears the register exactly when the byte equals the register. -/
theorem update_eq_zero_iff (c b : UInt8) : update c b = 0 ↔ c = b := by
  rw [update, repeat_shift_eq_zero_iff, UInt8.xor_eq_zero_iff]

/-! ## Bit by bit -/

/-- The bits of a byte, most significant first: the order the check takes them in. -/
def byteBits (b : UInt8) : List Bool := (List.range 8).reverse.map b.toNat.testBit

/-- Feed one bit: it enters at the top of the register, which then shifts once. -/
def feedBit (r : UInt8) (bit : Bool) : UInt8 := shift (if bit then r ^^^ 0x80 else r)

@[simp]
theorem length_byteBits (b : UInt8) : (byteBits b).length = 8 := by
  simp [byteBits]

theorem byteBits_eq_zero_of_true_not_mem {b : UInt8} (h : true ∉ byteBits b) : b = 0 := by
  revert h
  exact forall_byte (P := fun b => true ∉ byteBits b → b = 0)
    (by set_option maxRecDepth 8000 in decide) b

/-- A bit fed into a register is a shift of the register plus the bit fed into zero. -/
theorem feedBit_eq_xor (r : UInt8) (bit : Bool) : feedBit r bit = shift r ^^^ feedBit 0 bit := by
  cases bit
  · simp [feedBit, (shift_eq_zero_iff 0).mpr rfl]
  · simp [feedBit, shift_xor]

/-- The register after a bit string is the starting register shifted once per bit, plus the
register the string leaves from zero. -/
theorem foldl_feedBit_eq_xor (l : List Bool) (r : UInt8) :
    l.foldl feedBit r = Nat.repeat shift l.length r ^^^ l.foldl feedBit 0 := by
  induction l generalizing r with
  | nil => simp [Nat.repeat]
  | cons bit l ih =>
    rw [List.foldl_cons, List.foldl_cons, ih, ih (feedBit 0 bit), feedBit_eq_xor r bit,
      repeat_shift_xor, repeat_shift_shift, List.length_cons, UInt8.xor_assoc]

theorem update_zero_eq_foldl_feedBit (b : UInt8) : update 0 b = (byteBits b).foldl feedBit 0 :=
  forall_byte (P := fun b => update 0 b = (byteBits b).foldl feedBit 0)
    (by set_option maxRecDepth 8000 in decide) b

/-- Feeding a byte is feeding its eight bits one at a time. -/
theorem update_eq_foldl_feedBit (c b : UInt8) : update c b = (byteBits b).foldl feedBit c := by
  have hsplit : update c b = update c 0 ^^^ update 0 b := by
    simpa using update_xor c 0 0 b
  rw [hsplit, update_zero_eq_foldl_feedBit, foldl_feedBit_eq_xor (byteBits b) c, length_byteBits,
    update, UInt8.xor_zero]

theorem foldl_update_eq_foldl_feedBit (bs : List UInt8) (c : UInt8) :
    bs.foldl update c = (bs.flatMap byteBits).foldl feedBit c := by
  induction bs generalizing c with
  | nil => rfl
  | cons b bs ih => rw [List.foldl_cons, ih, List.flatMap_cons, List.foldl_append,
      update_eq_foldl_feedBit]

/-- Bits that are all clear only shift the register. -/
theorem foldl_feedBit_of_true_not_mem {l : List Bool} (h : true ∉ l) (r : UInt8) :
    l.foldl feedBit r = Nat.repeat shift l.length r := by
  induction l generalizing r with
  | nil => rfl
  | cons bit l ih =>
    have hbit : bit = false := by simpa using fun hb : bit = true => h (hb ▸ List.mem_cons_self)
    subst hbit
    rw [List.foldl_cons, ih (fun hl => h (List.mem_cons_of_mem _ hl)), feedBit, if_neg (by simp),
      repeat_shift_shift, List.length_cons]

/-! ## Parity -/

/-- The number of set bits of a register. -/
def ones (r : UInt8) : Nat := (byteBits r).count true

/-- A fed bit adds itself to the parity of the register: the shift keeps it. -/
theorem ones_feedBit (r : UInt8) (bit : Bool) :
    ones (feedBit r bit) % 2 = (ones r + bit.toNat) % 2 := by
  revert bit
  exact forall_byte (P := fun r => ∀ bit, ones (feedBit r bit) % 2 = (ones r + bit.toNat) % 2)
    (by set_option maxRecDepth 8000 in decide) r

theorem ones_foldl_feedBit (l : List Bool) (r : UInt8) :
    ones (l.foldl feedBit r) % 2 = (ones r + l.count true) % 2 := by
  induction l generalizing r with
  | nil => simp
  | cons bit l ih =>
    rw [List.foldl_cons, ih, List.count_cons, Nat.add_mod, ones_feedBit, ← Nat.add_mod]
    cases bit
    · simp
    · simp
      omega

/-- An odd number of set bits never feeds the register to zero. -/
theorem foldl_feedBit_ne_zero_of_odd {l : List Bool} (hodd : Odd (l.count true)) :
    l.foldl feedBit 0 ≠ 0 := by
  intro hzero
  have hparity := ones_foldl_feedBit l 0
  rw [hzero] at hparity
  have hones : ones 0 = 0 := by decide
  rw [Nat.odd_iff] at hodd
  omega

/-! ## Two set bits -/

/-- The first set bit of a string splits it. -/
theorem eq_append_true_of_count {l : List Bool} {n : Nat} (h : l.count true = n + 1) :
    ∃ pre rest, l = pre ++ true :: rest ∧ true ∉ pre ∧ rest.count true = n := by
  induction l with
  | nil => simp at h
  | cons bit l ih =>
    cases bit
    · obtain ⟨pre, rest, rfl, hpre, hrest⟩ := ih (by simpa using h)
      exact ⟨false :: pre, rest, rfl, by simpa using hpre, hrest⟩
    · exact ⟨[], l, rfl, by simp, by simpa using h⟩

/-- From `0x07`, the register after one set bit, fewer than 79 shifts never reach `0x80`. -/
theorem repeat_shift_seven_ne (d : Nat) (hd : d < 79) : Nat.repeat shift d 0x07 ≠ 0x80 := by
  revert d
  decide

/-- Two set bits at most 79 positions apart never feed the register to zero. -/
theorem foldl_feedBit_ne_zero_of_two {l : List Bool} (hlen : l.length ≤ 80)
    (htwo : l.count true = 2) : l.foldl feedBit 0 ≠ 0 := by
  obtain ⟨pre, rest, rfl, hpre, hrest⟩ := eq_append_true_of_count htwo
  obtain ⟨mid, post, rfl, hmid, hpost⟩ := eq_append_true_of_count hrest
  have hpost' : true ∉ post := List.count_eq_zero.mp hpost
  have hgap : mid.length < 79 := by simp at hlen; omega
  have hfirst : feedBit (pre.foldl feedBit 0) true = 0x07 := by
    rw [foldl_feedBit_of_true_not_mem hpre, (repeat_shift_eq_zero_iff _ _).mpr rfl]
    decide
  rw [List.foldl_append, List.foldl_cons, hfirst, List.foldl_append, List.foldl_cons,
    foldl_feedBit_of_true_not_mem hpost', foldl_feedBit_of_true_not_mem hmid,
    Ne, repeat_shift_eq_zero_iff, feedBit, if_pos rfl, shift_eq_zero_iff, UInt8.xor_eq_zero_iff]
  exact repeat_shift_seven_ne _ hgap

/-! ## Bursts -/

/-- Eight bits with one of them set leave a non-zero register. -/
theorem foldl_feedBit_ne_zero_of_length_eight {w : List Bool} (hlen : w.length = 8)
    (htrue : true ∈ w) : w.foldl feedBit 0 ≠ 0 := by
  have hall : ∀ b₀ b₁ b₂ b₃ b₄ b₅ b₆ b₇ : Bool, true ∈ [b₀, b₁, b₂, b₃, b₄, b₅, b₆, b₇] →
      [b₀, b₁, b₂, b₃, b₄, b₅, b₆, b₇].foldl feedBit 0 ≠ 0 := by
    decide
  match w, hlen with
  | [b₀, b₁, b₂, b₃, b₄, b₅, b₆, b₇], _ => exact hall b₀ b₁ b₂ b₃ b₄ b₅ b₆ b₇ htrue

/-- A string whose set bits all lie within eight consecutive positions, one of them set, never
feeds the register to zero. -/
theorem foldl_feedBit_ne_zero_of_burst {l : List Bool} {k : Nat} (hlen : 8 ≤ l.length)
    (htrue : true ∈ l) (hburst : ∀ p < l.length, l[p]? = some true → k ≤ p ∧ p < k + 8) :
    l.foldl feedBit 0 ≠ 0 := by
  -- the window starts at `k`, moved back if needed so that all of it lies within the string
  set start := min k (l.length - 8) with hstart
  have hpre : true ∉ l.take start := by
    intro hmem
    obtain ⟨p, hp, hget⟩ := List.getElem_of_mem hmem
    have hin : p < l.length := by simp at hp; omega
    rw [List.getElem_take] at hget
    have := hburst p hin (List.getElem?_eq_some_iff.mpr ⟨hin, hget⟩)
    simp at hp
    omega
  have hpost : true ∉ l.drop (start + 8) := by
    intro hmem
    obtain ⟨q, hq, hget⟩ := List.getElem_of_mem hmem
    have hin : start + 8 + q < l.length := by simp at hq; omega
    rw [List.getElem_drop] at hget
    have := hburst _ hin (List.getElem?_eq_some_iff.mpr ⟨hin, hget⟩)
    omega
  have hsplit : l = l.take start ++ ((l.drop start).take 8 ++ l.drop (start + 8)) := by
    rw [← List.drop_drop, List.take_append_drop, List.take_append_drop]
  have hwindow : true ∈ (l.drop start).take 8 := by
    rw [hsplit] at htrue
    simp only [List.mem_append] at htrue
    tauto
  rw [hsplit, List.foldl_append, List.foldl_append, foldl_feedBit_of_true_not_mem hpre,
    (repeat_shift_eq_zero_iff _ _).mpr rfl, foldl_feedBit_of_true_not_mem hpost, Ne,
    repeat_shift_eq_zero_iff]
  exact foldl_feedBit_ne_zero_of_length_eight (by simp; omega) hwindow

end Crc8

/-! ## Corrupted frames -/

namespace KissFrame

/-- The 80 bits of ten bytes, in the order the check reads them: byte 0 first, each byte from
its most significant bit. -/
def frameBits (raw : Vector UInt8 10) : List Bool := raw.toList.flatMap Crc8.byteBits

/-- Ten bytes with the bits set in the error pattern `e` flipped. -/
def corrupt (raw e : Vector UInt8 10) : Vector UInt8 10 := Vector.zipWith (· ^^^ ·) raw e

@[simp]
theorem length_frameBits (raw : Vector UInt8 10) : (frameBits raw).length = 80 := by
  simp [frameBits, List.length_flatMap, List.map_const']

theorem ofBytes_eq_foldl_frameBits (raw : Vector UInt8 10) :
    Crc8.ofBytes raw.toList = (frameBits raw).foldl Crc8.feedBit 0 :=
  Crc8.foldl_update_eq_foldl_feedBit _ 0

/-- Ten bytes feed the register to zero exactly when their check byte is right. -/
theorem ofBytes_eq_zero_iff (raw : Vector UInt8 10) :
    Crc8.ofBytes raw.toList = 0 ↔ expectedCheck raw = getElem raw 9 (by decide) := by
  rw [toList_eq_take_append, Crc8.ofBytes_append_singleton, Crc8.update_eq_zero_iff,
    expectedCheck]

/-- The check sees a corrupted frame only through the error pattern. -/
theorem ofBytes_corrupt_toBytes (f : KissFrame) (e : Vector UInt8 10) :
    Crc8.ofBytes (corrupt f.toBytes e).toList = Crc8.ofBytes e.toList := by
  have hsound : Crc8.ofBytes f.toBytes.toList = 0 :=
    (ofBytes_eq_zero_iff _).mpr (expectedCheck_toBytes_eq f)
  rw [corrupt, Vector.toList_zipWith, Crc8.ofBytes_zipWith_xor (by simp), hsound, UInt8.zero_xor]

/-- A corrupted frame is read exactly when the error pattern alone feeds the register to
zero; otherwise it is refused with the CRC its payload calls for and the byte it carries. -/
theorem parse_corrupt_isOk_iff (f : KissFrame) (e : Vector UInt8 10) :
    (∃ g, parse (corrupt f.toBytes e) = .ok g) ↔ Crc8.ofBytes e.toList = 0 := by
  rw [← ofBytes_corrupt_toBytes f, ofBytes_eq_zero_iff]
  constructor
  · rintro ⟨g, hg⟩
    rw [← parse_eq_ok_iff.mp hg]
    exact expectedCheck_toBytes_eq g
  · intro h
    exact ⟨_, parse_eq_ok_iff.mpr (toBytes_fields h)⟩

theorem true_mem_frameBits {e : Vector UInt8 10} (hne : e ≠ Vector.replicate 10 0) :
    true ∈ frameBits e := by
  by_contra hnot
  apply hne
  apply Vector.toList_inj.mp
  rw [Vector.toList_replicate, List.eq_replicate_iff]
  refine ⟨by simp, fun b hb => Crc8.byteBits_eq_zero_of_true_not_mem fun hbit => ?_⟩
  exact hnot (List.mem_flatMap.mpr ⟨b, hb, hbit⟩)

/-- A corruption the check does not cancel is refused with the CRC its payload calls for and
the byte it carries. -/
theorem parse_corrupt_of_feed_ne_zero (f : KissFrame) {e : Vector UInt8 10}
    (hfeed : (frameBits e).foldl Crc8.feedBit 0 ≠ 0) :
    parse (corrupt f.toBytes e) =
      .error (.crcMismatch (expectedCheck (corrupt f.toBytes e))
        (getElem (corrupt f.toBytes e) 9 (by decide))) := by
  apply parse_of_expectedCheck_ne
  intro hright
  apply hfeed
  rw [← ofBytes_eq_foldl_frameBits, ← ofBytes_corrupt_toBytes f]
  exact (ofBytes_eq_zero_iff _).mpr hright

/-- The three kinds of error pattern the check never cancels. -/
theorem feed_ne_zero_of_pattern {e : Vector UInt8 10} (hne : e ≠ Vector.replicate 10 0)
    (hkind : Odd ((frameBits e).count true) ∨ (frameBits e).count true = 2 ∨
      ∃ k, ∀ p < 80, (frameBits e)[p]? = some true → k ≤ p ∧ p < k + 8) :
    (frameBits e).foldl Crc8.feedBit 0 ≠ 0 := by
  rcases hkind with hodd | htwo | ⟨k, hburst⟩
  · exact Crc8.foldl_feedBit_ne_zero_of_odd hodd
  · exact Crc8.foldl_feedBit_ne_zero_of_two (by simp) htwo
  · exact Crc8.foldl_feedBit_ne_zero_of_burst (by simp) (true_mem_frameBits hne)
      (by simpa using hburst)

/-- A corruption by a non-zero error pattern with an odd number of set bits, with exactly two,
or with all of them within eight consecutive positions, is refused as a CRC mismatch, whatever
the frame. -/
theorem parse_refuses_corruption (f : KissFrame) (e : Vector UInt8 10)
    (hne : e ≠ Vector.replicate 10 0)
    (hkind : Odd ((frameBits e).count true) ∨ (frameBits e).count true = 2 ∨
      ∃ k, ∀ p < 80, (frameBits e)[p]? = some true → k ≤ p ∧ p < k + 8) :
    ∃ computed carried, parse (corrupt f.toBytes e) = .error (.crcMismatch computed carried) :=
  ⟨_, _, parse_corrupt_of_feed_ne_zero f (feed_ne_zero_of_pattern hne hkind)⟩

/-- A burst of six flipped bits across bytes 2 and 3, positions 21 to 28, in a frame of
typical readings. -/
theorem parse_refuses_corruption_burst :
    #v[0, 0, 0x06, 0xD8, 0, 0, 0, 0, 0, 0] ≠ Vector.replicate 10 (0 : UInt8) ∧
      (∃ k, ∀ p < 80,
        (frameBits #v[0, 0, 0x06, 0xD8, 0, 0, 0, 0, 0, 0])[p]? = some true → k ≤ p ∧ p < k + 8) ∧
      ∃ computed carried,
        parse (corrupt (toBytes ⟨35, 1620, 1250, 830, 174⟩) #v[0, 0, 0x06, 0xD8, 0, 0, 0, 0, 0, 0]) =
          .error (.crcMismatch computed carried) :=
  ⟨by decide, ⟨21, by decide⟩,
    parse_refuses_corruption ⟨35, 1620, 1250, 830, 174⟩ _ (by decide) (Or.inr (Or.inr ⟨21, by decide⟩))⟩

/-- Every corruption of one, two or three bits is refused: the check's distance is at least
four. -/
theorem parse_refuses_few_flips (f : KissFrame) (e : Vector UInt8 10)
    (hpos : 0 < (frameBits e).count true) (hfew : (frameBits e).count true ≤ 3) :
    ∃ computed carried, parse (corrupt f.toBytes e) = .error (.crcMismatch computed carried) := by
  have hfeed : (frameBits e).foldl Crc8.feedBit 0 ≠ 0 := by
    rcases (show (frameBits e).count true = 1 ∨ (frameBits e).count true = 2 ∨
        (frameBits e).count true = 3 by omega) with h | h | h
    · exact Crc8.foldl_feedBit_ne_zero_of_odd (by rw [h]; decide)
    · exact Crc8.foldl_feedBit_ne_zero_of_two (by simp) h
    · exact Crc8.foldl_feedBit_ne_zero_of_odd (by rw [h]; decide)
  exact ⟨_, _, parse_corrupt_of_feed_ne_zero f hfeed⟩

/-- Four flipped bits can go unseen: bits 0, 1, 3 and 53 together feed the register to zero,
so any frame corrupted by them reads as another frame. -/
theorem exists_undetected_four_flips :
    ∃ e : Vector UInt8 10, (frameBits e).count true = 4 ∧
      ∀ f : KissFrame, ∃ g, parse (corrupt f.toBytes e) = .ok g :=
  ⟨#v[0xD0, 0, 0, 0, 0, 0, 0x04, 0, 0, 0], by decide,
    fun f => (parse_corrupt_isOk_iff f _).mpr (by set_option maxRecDepth 8000 in decide)⟩

end KissFrame

end EscTelemetry
