import EscTelemetry.CaptureBuffer
import Mathlib

/-!
# Laws of the capture buffer

The capture buffer is driven by two calls (`CaptureBuffer.Op`): re-arming it for a frame of
some length, and a byte from the receive callback. After any sequence of them from a fresh
buffer, what it shows depends only on the latest re-arm and the bytes pushed since
(`captures_since_rearm`). With `L` the length that re-arm asked for, capped at the 32 slots
(zero before any re-arm), and `xs` those bytes, the cursor stands at `min |xs| L`, the frame is
complete once `L` bytes have come, the snapshot shows `xs` in its first slots, and bytes past
`L` change nothing. The invariant is `Captured`, kept by each call.

The firmware keeps the cursor's position, the armed length and a re-arm generation packed in
one 64-bit word (`Cursor`), and a stored byte advances it by a raw increment of the whole word.
The word it computes is, after every sequence, the packing of the buffer's own fields and the
number of re-arms (`step_run_word`): the position never passes the armed length, which never
passes 32, so the increment never carries into the length or the generation, and the slot a
byte is stored in is always one of the 32.
-/

namespace EscTelemetry

namespace CaptureBuffer

/-! ## Calls and runs -/

/-- A call on the capture buffer. -/
inductive Op
  /-- Re-arm for a frame of `length` bytes. -/
  | startCapture (length : Nat)
  /-- A byte from the receive callback. -/
  | push (byte : UInt8)

/-- The buffer after a call. -/
def apply (b : CaptureBuffer) : Op → CaptureBuffer
  | .startCapture n => b.startCapture n
  | .push x => b.push x

/-- The buffer after a sequence of calls, made in order. -/
def run (b : CaptureBuffer) (ops : List Op) : CaptureBuffer := ops.foldl apply b

theorem run_append (b : CaptureBuffer) (ops ops' : List Op) :
    b.run (ops ++ ops') = (b.run ops).run ops' :=
  List.foldl_append

namespace Op

/-- Whether the call re-arms the buffer. -/
def isRearm : Op → Bool
  | .startCapture _ => true
  | .push _ => false

/-- The armed length after the call, `L` before it. -/
def armed : Op → Nat → Nat
  | .startCapture n, _ => min n captureCapacity
  | .push _, L => L

/-- The bytes pushed since the latest re-arm, after the call. -/
def since : Op → List UInt8 → List UInt8
  | .startCapture _, _ => []
  | .push x, xs => xs ++ [x]

end Op

/-- The length the latest re-arm of `ops` asked for, capped at the capacity; zero if there was
none. -/
def armedLength (ops : List Op) : Nat := ops.foldl (fun L op => op.armed L) 0

/-- The bytes pushed since the latest re-arm of `ops`; all of them if there was none. -/
def sinceArm (ops : List Op) : List UInt8 := ops.foldl (fun xs op => op.since xs) []

/-! ## What the buffer holds -/

/-- The buffer is armed for `L` bytes, and its first slots hold the bytes `xs` pushed since,
as many as the frame takes. -/
structure Captured (b : CaptureBuffer) (L : Nat) (xs : List UInt8) : Prop where
  length_eq : b.length = L
  position_eq : b.position = min xs.length L
  slots_eq : ∀ i < b.position, b.slots[i]? = xs[i]?

variable {b : CaptureBuffer} {L : Nat} {xs : List UInt8}

theorem captured_empty : ({} : CaptureBuffer).Captured 0 [] :=
  ⟨rfl, rfl, fun _ hi => absurd hi (Nat.not_lt_zero _)⟩

/-- A re-armed buffer holds no bytes yet, whatever its slots still show. -/
theorem captured_startCapture (b : CaptureBuffer) (n : Nat) :
    (b.startCapture n).Captured (min n captureCapacity) [] :=
  ⟨rfl, by simp [startCapture], fun _ hi => absurd hi (Nat.not_lt_zero _)⟩

/-- A pushed byte lands in the next slot while the frame is open, and is dropped once it is
full. -/
theorem Captured.push (h : b.Captured L xs) (x : UInt8) : (b.push x).Captured L (xs ++ [x]) := by
  have hpos := h.position_eq
  have hlen := h.length_eq
  unfold CaptureBuffer.push
  split
  · rename_i hlt
    have hshort : b.position = xs.length := by omega
    refine ⟨hlen, by simp; omega, fun i hi => ?_⟩
    simp only at hi
    rw [Vector.getElem?_set]
    by_cases hi' : i = b.position
    · subst hi'
      simp [hshort]
    · rw [if_neg (Ne.symm hi'), h.slots_eq i (by omega), List.getElem?_append_left (by omega)]
  · rename_i hge
    refine ⟨hlen, by simp; omega, fun i hi => ?_⟩
    rw [h.slots_eq i hi, List.getElem?_append_left (by omega)]

theorem Captured.apply (h : b.Captured L xs) : ∀ op, (b.apply op).Captured (op.armed L) (op.since xs)
  | .startCapture n => captured_startCapture b n
  | .push x => h.push x

theorem Captured.run (h : b.Captured L xs) (ops : List Op) :
    (b.run ops).Captured (ops.foldl (fun L op => op.armed L) L)
      (ops.foldl (fun xs op => op.since xs) xs) := by
  induction ops generalizing b L xs with
  | nil => exact h
  | cons op ops ih => exact ih (h.apply op)

/-- A fresh buffer, after any sequence of calls, holds the bytes pushed since the latest
re-arm, up to the length it asked for. -/
theorem captured_run (ops : List Op) :
    (({} : CaptureBuffer).run ops).Captured (armedLength ops) (sinceArm ops) :=
  captured_empty.run ops

/-- The armed length never passes the capacity. -/
theorem Captured.le_capacity (h : b.Captured L xs) : L ≤ captureCapacity :=
  h.length_eq ▸ b.length_le

theorem Captured.bytesRead_eq (h : b.Captured L xs) : b.bytesRead = min xs.length L :=
  h.position_eq

theorem Captured.isComplete_iff (h : b.Captured L xs) : b.isComplete = true ↔ L ≤ xs.length := by
  have hpos := h.position_eq
  have hlen := h.length_eq
  simp only [isComplete, beq_iff_eq]
  omega

/-- The snapshot shows the bytes pushed since the re-arm, as far as the frame took them. -/
theorem Captured.getElem?_snapshot (h : b.Captured L xs) {n i : Nat}
    (hi : i < min xs.length (min L n)) : (b.snapshot n)[i]? = xs[i]? := by
  have hpos := h.position_eq
  have hcap : b.position ≤ captureCapacity := Nat.le_trans b.position_le b.length_le
  have hin : i < b.position := by omega
  rw [← h.slots_eq i hin, Vector.getElem?_eq_getElem (by omega)]
  simp [snapshot, show i < n by omega, show i < captureCapacity by omega]

/-- A full frame takes no more bytes: neither the cursor nor a slot changes. -/
theorem Captured.push_of_le (h : b.Captured L xs) (hL : L ≤ xs.length) (x : UInt8) :
    b.push x = b :=
  push_of_isComplete (h.isComplete_iff.mpr hL) x

/-! ## The packed cursor word -/

namespace Cursor

/-- A re-armed cursor: the generation in bits 32 to 63, the length in bits 16 to 31, and
position zero in bits 0 to 15. -/
def new (generation : UInt32) (length : Nat) : UInt64 :=
  (generation.toUInt64 <<< 32) ||| ((length.toUInt64 &&& 0xFFFF) <<< 16)

/-- The generation field of a cursor word. -/
def generation (w : UInt64) : UInt32 := (w >>> 32).toUInt32

/-- The length field of a cursor word. -/
def length (w : UInt64) : Nat := ((w >>> 16) &&& 0xFFFF).toNat

/-- The position field of a cursor word. -/
def position (w : UInt64) : Nat := (w &&& 0xFFFF).toNat

/-- The word after a call, as the firmware computes it: a re-arm packs the next generation with
the capped length; a byte adds one to the whole word when its position field is below its
length field, and leaves it alone otherwise. -/
def step (w : UInt64) : Op → UInt64
  | .startCapture n => new (generation w + 1) (min n captureCapacity)
  | .push _ => if position w < length w then w + 1 else w

/-- The packed fields of a re-armed cursor, as a number. -/
theorem toNat_new (g : UInt32) (n : Nat) :
    (new g n).toNat = 2 ^ 32 * g.toNat + n % 2 ^ 16 * 2 ^ 16 := by
  have hlow : n % 2 ^ 16 * 2 ^ 16 < 2 ^ 32 := by omega
  have hhigh : g.toNat * 2 ^ 32 < 2 ^ 64 := by
    have hg := g.toNat_lt
    clear hlow
    omega
  have hmask : n % 2 ^ 64 &&& 65535 = n % 2 ^ 16 := by
    rw [show 65535 = 2 ^ 16 - 1 from rfl, Nat.and_two_pow_sub_one_eq_mod,
      Nat.mod_mod_of_dvd n (by decide)]
  rw [new, UInt64.toNat_or, UInt64.toNat_shiftLeft, UInt64.toNat_shiftLeft, UInt64.toNat_and,
    UInt32.toNat_toUInt64, Nat.toUInt64_eq, UInt64.toNat_ofNat', Nat.shiftLeft_eq, Nat.shiftLeft_eq]
  show g.toNat * 2 ^ 32 % 2 ^ 64 ||| (n % 2 ^ 64 &&& 65535) * 2 ^ 16 % 2 ^ 64 = _
  -- the two fields occupy disjoint bits, so the `|||` is a sum
  rw [hmask, Nat.mod_eq_of_lt hhigh, Nat.mod_eq_of_lt (Nat.lt_trans hlow (by decide)), Nat.mul_comm,
    ← Nat.two_pow_add_eq_or_of_lt hlow]

end Cursor

/-- The cursor word of the buffer in generation `g`: its length as a re-arm packs it, plus one
for every byte it holds. -/
def word (b : CaptureBuffer) (g : UInt32) : UInt64 := Cursor.new g b.length + b.position.toUInt64

theorem toNat_word (b : CaptureBuffer) (g : UInt32) :
    (b.word g).toNat = 2 ^ 32 * g.toNat + b.length * 2 ^ 16 + b.position := by
  have hlen : b.length < 2 ^ 16 := by
    have := b.length_le
    unfold captureCapacity at this
    omega
  have hpos : b.position < 2 ^ 16 := Nat.lt_of_le_of_lt b.position_le hlen
  have hsum : 2 ^ 32 * g.toNat + b.length * 2 ^ 16 + b.position < 2 ^ 64 := by
    have := g.toNat_lt
    omega
  rw [word, UInt64.toNat_add, Cursor.toNat_new, Nat.toUInt64_eq, UInt64.toNat_ofNat',
    Nat.mod_eq_of_lt hlen, Nat.mod_eq_of_lt (Nat.lt_trans hpos (by decide)), Nat.mod_eq_of_lt hsum]

@[simp]
theorem position_word (b : CaptureBuffer) (g : UInt32) : Cursor.position (b.word g) = b.position := by
  have hpos := b.position_le
  have hlen := b.length_le
  unfold captureCapacity at hlen
  rw [Cursor.position, UInt64.toNat_and, toNat_word, show (0xFFFF : UInt64).toNat = 2 ^ 16 - 1 from rfl,
    Nat.and_two_pow_sub_one_eq_mod]
  omega

@[simp]
theorem length_word (b : CaptureBuffer) (g : UInt32) : Cursor.length (b.word g) = b.length := by
  have hpos := b.position_le
  have hlen := b.length_le
  unfold captureCapacity at hlen
  rw [Cursor.length, UInt64.toNat_and, UInt64.toNat_shiftRight, toNat_word,
    show (0xFFFF : UInt64).toNat = 2 ^ 16 - 1 from rfl, Nat.and_two_pow_sub_one_eq_mod,
    Nat.shiftRight_eq_div_pow, show (16 : UInt64).toNat % 64 = 16 from rfl]
  omega

@[simp]
theorem generation_word (b : CaptureBuffer) (g : UInt32) : Cursor.generation (b.word g) = g := by
  have hg := g.toNat_lt
  have hpos := b.position_le
  have hlen := b.length_le
  unfold captureCapacity at hlen
  apply UInt32.toNat_inj.mp
  rw [Cursor.generation, UInt64.toNat_toUInt32, UInt64.toNat_shiftRight, toNat_word,
    Nat.shiftRight_eq_div_pow, show (32 : UInt64).toNat % 64 = 32 from rfl]
  omega

/-- The raw increment of the word is a stored byte: the position field moves by one and
nothing carries into the length or the generation. -/
theorem word_add_one {b : CaptureBuffer} (h : b.position < b.length) (g : UInt32) (x : UInt8) :
    b.word g + 1 = (b.push x).word g := by
  have hpush : (b.push x).position = b.position + 1 ∧ (b.push x).length = b.length := by
    simp [push, h]
  apply UInt64.toNat_inj.mp
  have hwrap : (b.word g).toNat + 1 < 2 ^ 64 := by
    have hg := g.toNat_lt
    have hlen := b.length_le
    unfold captureCapacity at hlen
    rw [toNat_word]
    omega
  rw [UInt64.toNat_add, show (1 : UInt64).toNat = 1 from rfl, Nat.mod_eq_of_lt hwrap, toNat_word,
    toNat_word, hpush.1, hpush.2]
  omega

/-- One call on the firmware's word is the same call on the buffer, in the next generation if it
re-arms. -/
theorem step_word (b : CaptureBuffer) (g : UInt32) :
    ∀ op, Cursor.step (b.word g) op = (b.apply op).word (if op.isRearm then g + 1 else g)
  | .startCapture n => by
    simp only [Cursor.step, apply, Op.isRearm, generation_word, if_true]
    show _ = Cursor.new (g + 1) (min n captureCapacity) + (0 : Nat).toUInt64
    simp
  | .push x => by
    simp only [Cursor.step, apply, Op.isRearm, position_word, length_word, Bool.false_eq_true,
      if_false]
    split
    · exact word_add_one ‹_› g x
    · rw [push, dif_neg ‹_›]

/-- Over every sequence of calls the firmware's word is the packing of the buffer's fields, in
the generation that counts the re-arms modulo 2³². -/
theorem step_run_word (b : CaptureBuffer) (g : UInt32) (ops : List Op) :
    ops.foldl Cursor.step (b.word g) = (b.run ops).word (g + UInt32.ofNat (ops.countP Op.isRearm)) := by
  induction ops generalizing b g with
  | nil => simp [run]
  | cons op ops ih =>
    have hcount : (if op.isRearm then g + 1 else g) + UInt32.ofNat (ops.countP Op.isRearm) =
        g + UInt32.ofNat ((op :: ops).countP Op.isRearm) := by
      cases op <;> simp [Op.isRearm, List.countP_cons, UInt32.ofNat_add, UInt32.add_comm,
        UInt32.add_assoc]
    rw [List.foldl_cons, step_word, ih, ← hcount]
    rfl

theorem word_empty : ({} : CaptureBuffer).word 0 = 0 := by decide

/-! ## Every run of the buffer -/

/-- After any sequence of re-arms and received bytes on a fresh buffer, with `L` the length the
latest re-arm asked for, capped at the 32 slots (zero if there was none), and `xs` the bytes
pushed since: the cursor stands at `min |xs| L`; the frame is complete exactly when `L` bytes
have come; the first `min |xs| L` slots of any snapshot are those bytes; a byte past `L` changes
neither the cursor nor a slot. The firmware's packed cursor word holds this position, the
length `L` and the number of re-arms modulo 2³²; a stored byte's position field is below 32,
and its increment of the word moves that field by one and leaves the length and the generation
as they were. -/
theorem captures_since_rearm (ops : List Op) :
    let b := ({} : CaptureBuffer).run ops
    let L := armedLength ops
    let xs := sinceArm ops
    let w := ops.foldl Cursor.step 0
    b.bytesRead = min xs.length L ∧
    (b.isComplete = true ↔ L ≤ xs.length) ∧
    (∀ n i, i < min xs.length (min L n) → (b.snapshot n)[i]? = xs[i]?) ∧
    (L ≤ xs.length → ∀ x, ({} : CaptureBuffer).run (ops ++ [Op.push x]) = b ∧
      (ops ++ [Op.push x]).foldl Cursor.step 0 = w) ∧
    Cursor.position w = b.bytesRead ∧ Cursor.length w = L ∧ L ≤ captureCapacity ∧
    Cursor.generation w = UInt32.ofNat (ops.countP Op.isRearm) ∧
    (Cursor.position w < Cursor.length w →
      Cursor.position w < captureCapacity ∧ Cursor.position (w + 1) = Cursor.position w + 1 ∧
      Cursor.length (w + 1) = Cursor.length w ∧ Cursor.generation (w + 1) = Cursor.generation w) := by
  intro b L xs w
  have h : b.Captured L xs := captured_run ops
  have hw : w = b.word (UInt32.ofNat (ops.countP Op.isRearm)) := by
    simpa [w, ← word_empty] using step_run_word {} 0 ops
  refine ⟨h.bytesRead_eq, h.isComplete_iff, fun n i hi => h.getElem?_snapshot hi,
    fun hL x => ?_, by simp [hw, bytesRead], by simp [hw, h.length_eq], h.le_capacity,
    by simp [hw], fun hlt => ?_⟩
  · have hpush : b.push x = b := h.push_of_le hL x
    refine ⟨by rw [run_append]; exact hpush, ?_⟩
    rw [List.foldl_append, List.foldl_cons, List.foldl_nil]
    show Cursor.step w (.push x) = w
    rw [hw, step_word]
    simp [apply, Op.isRearm, hpush]
  · simp only [hw, position_word, length_word] at hlt ⊢
    have hnext := word_add_one hlt (UInt32.ofNat (ops.countP Op.isRearm)) 0
    have hcap : b.length ≤ captureCapacity := b.length_le
    refine ⟨by omega, ?_, ?_, ?_⟩ <;> rw [hnext] <;> simp [push, hlt]

-- a frame of two keeps the first two of four bytes; re-arming starts the count again
example :
    let b := ({} : CaptureBuffer).run [.startCapture 2, .push 9, .push 8, .push 7, .push 6]
    b.bytesRead = 2 ∧ b.isComplete = true ∧ b.snapshot 2 = [9, 8] ∧
      (b.run [.startCapture 40, .push 1]).bytesRead = 1 := by
  decide

end CaptureBuffer

end EscTelemetry
