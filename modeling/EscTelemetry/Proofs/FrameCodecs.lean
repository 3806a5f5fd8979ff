import EscTelemetry.Hw4.Packet
import EscTelemetry.Kiss.Frame
import Mathlib.Data.Fin.Basic
import Mathlib.Tactic.IntervalCases
import Mathlib.Tactic.Ring

/-!
# Reading frames back

The two frame formats and their readers invert each other as far as each format lets them.

* A KISS frame carries every field in full and ends with its check byte, so `KissFrame.toBytes`
  is a bijection onto the ten-byte arrays whose last byte is the CRC of the others, and
  `KissFrame.parse` is its inverse there; any other array is refused with the CRC it calls for
  and the one it carries (`KissFrame.parse_toBytes_inverse`).
* A Hobbywing packet keeps only 24 bits of its counter and eRPM, and its reader refuses high
  bytes that no real reading produces. A packet reads back as itself, those two fields cut to
  24 bits, exactly when each field is below the range its high byte allows; a packet that is
  read writes back as the bytes it came from with the sync byte put in front; and a refusal
  names the first checked byte out of range (`Hw4Packet.parse_toBytes_plausible`).

Both rest on the words of `Bytes` read back through `toNat`.
-/

namespace EscTelemetry

namespace Bytes

/-- Or-ing a number below `2 ^ i` into a multiple of `2 ^ i` adds it. -/
theorem mul_two_pow_or_eq_add {i b : Nat} (a : Nat) (hb : b < 2 ^ i) :
    a * 2 ^ i ||| b = a * 2 ^ i + b := by
  rw [← Nat.shiftLeft_eq, ← Nat.shiftLeft_add_eq_or_of_lt hb]

theorem toNat_word (hi lo : UInt8) : (word hi lo).toNat = hi.toNat * 256 + lo.toNat := by
  have hshift : (hi.toUInt16 <<< 8).toNat = hi.toNat * 2 ^ 8 := by
    have := hi.toNat_lt
    rw [UInt16.toNat_shiftLeft, UInt8.toNat_toUInt16, Nat.shiftLeft_eq]
    simp only [UInt16.reduceToNat, Nat.reduceMod]
    omega
  rw [word, UInt16.toNat_or, hshift, UInt8.toNat_toUInt16, mul_two_pow_or_eq_add _ lo.toNat_lt]
  rfl

theorem toNat_high (w : UInt16) : (high w).toNat = w.toNat / 256 := by
  have := w.toNat_lt
  simp [high, Nat.shiftRight_eq_div_pow]
  omega

theorem toNat_low (w : UInt16) : (low w).toNat = w.toNat % 256 := by
  simp [low]

theorem toNat_word24 (b2 b1 b0 : UInt8) :
    (word24 b2 b1 b0).toNat = b2.toNat * 65536 + b1.toNat * 256 + b0.toNat := by
  have h2 := b2.toNat_lt
  have h1 := b1.toNat_lt
  have hs2 : (b2.toUInt32 <<< 16).toNat = b2.toNat * 2 ^ 16 := by
    rw [UInt32.toNat_shiftLeft, UInt8.toNat_toUInt32, Nat.shiftLeft_eq]
    simp only [UInt32.reduceToNat, Nat.reduceMod]
    omega
  have hs1 : (b1.toUInt32 <<< 8).toNat = b1.toNat * 2 ^ 8 := by
    rw [UInt32.toNat_shiftLeft, UInt8.toNat_toUInt32, Nat.shiftLeft_eq]
    simp only [UInt32.reduceToNat, Nat.reduceMod]
    omega
  have hmid : b1.toNat * 2 ^ 8 < 2 ^ 16 := by omega
  -- the top two bytes together are one multiple of `2 ^ 8`, so the low byte ors in as well
  have hhigh : b2.toNat * 2 ^ 16 + b1.toNat * 2 ^ 8 = (b2.toNat * 2 ^ 8 + b1.toNat) * 2 ^ 8 := by
    ring
  simp only [word24, UInt32.toNat_or, hs2, hs1, UInt8.toNat_toUInt32,
    mul_two_pow_or_eq_add _ hmid, hhigh, mul_two_pow_or_eq_add _ b0.toNat_lt]
  ring

theorem toNat_byte2 (w : UInt32) : (byte2 w).toNat = w.toNat / 65536 % 256 := by
  simp [byte2, Nat.shiftRight_eq_div_pow]

theorem toNat_byte1 (w : UInt32) : (byte1 w).toNat = w.toNat / 256 % 256 := by
  simp [byte1, Nat.shiftRight_eq_div_pow]

theorem toNat_byte0 (w : UInt32) : (byte0 w).toNat = w.toNat % 256 := by
  simp [byte0]

@[simp]
theorem word_high_low (w : UInt16) : word (high w) (low w) = w := by
  apply UInt16.toNat_inj.mp
  rw [toNat_word, toNat_high, toNat_low]
  omega

@[simp]
theorem high_word (hi lo : UInt8) : high (word hi lo) = hi := by
  apply UInt8.toNat_inj.mp
  have := lo.toNat_lt
  rw [toNat_high, toNat_word]
  omega

@[simp]
theorem low_word (hi lo : UInt8) : low (word hi lo) = lo := by
  apply UInt8.toNat_inj.mp
  have := lo.toNat_lt
  rw [toNat_low, toNat_word]
  omega

/-- Writing a 32-bit word as three bytes and reading them back keeps its low 24 bits. -/
@[simp]
theorem word24_bytes (w : UInt32) : word24 (byte2 w) (byte1 w) (byte0 w) = w % 0x1000000 := by
  apply UInt32.toNat_inj.mp
  rw [toNat_word24, toNat_byte2, toNat_byte1, toNat_byte0, UInt32.toNat_mod]
  simp only [UInt32.reduceToNat]
  omega

@[simp]
theorem byte2_word24 (b2 b1 b0 : UInt8) : byte2 (word24 b2 b1 b0) = b2 := by
  apply UInt8.toNat_inj.mp
  have := b2.toNat_lt
  have := b1.toNat_lt
  have := b0.toNat_lt
  rw [toNat_byte2, toNat_word24]
  omega

@[simp]
theorem byte1_word24 (b2 b1 b0 : UInt8) : byte1 (word24 b2 b1 b0) = b1 := by
  apply UInt8.toNat_inj.mp
  have := b1.toNat_lt
  have := b0.toNat_lt
  rw [toNat_byte1, toNat_word24]
  omega

@[simp]
theorem byte0_word24 (b2 b1 b0 : UInt8) : byte0 (word24 b2 b1 b0) = b0 := by
  apply UInt8.toNat_inj.mp
  have := b0.toNat_lt
  rw [toNat_byte0, toNat_word24]
  omega

/-- A high byte stays below `k` exactly when the word stays below `k` times `2 ^ 8`. -/
theorem high_lt_iff (w : UInt16) (k : UInt8) : high w < k ↔ w.toNat < k.toNat * 256 := by
  rw [UInt8.lt_iff_toNat_lt, toNat_high]
  omega

/-- The top one of three bytes stays below `k` exactly when the word's low 24 bits stay below
`k` times `2 ^ 16`. -/
theorem byte2_lt_iff (w : UInt32) (k : UInt8) :
    byte2 w < k ↔ w.toNat % 0x1000000 < k.toNat * 65536 := by
  have := k.toNat_lt
  rw [UInt8.lt_iff_toNat_lt, toNat_byte2]
  omega

end Bytes

/-! ## KISS frames -/

namespace KissFrame

theorem toList_toBytes (f : KissFrame) :
    f.toBytes.toList = f.payload.toList ++ [Crc8.ofBytes f.payload.toList] := by
  simp [toBytes, Vector.toList_push]

/-- The payload of the fields read from ten bytes is their first nine. -/
theorem toList_payload_fields (raw : Vector UInt8 10) :
    (fields raw).payload.toList = raw.toList.take 9 := by
  apply List.ext_getElem (by simp)
  intro i hi _
  simp only [Vector.length_toList] at hi
  interval_cases i <;> simp [payload, fields]

/-- Ten bytes are their first nine and their check byte. -/
theorem toList_eq_take_append (raw : Vector UInt8 10) :
    raw.toList = raw.toList.take 9 ++ [getElem raw 9 (by decide)] := by
  have hlast : raw.toList.drop 9 = [raw[9]] := by
    rw [List.drop_eq_getElem_cons (by simp)]
    simp
  rw [← hlast, List.take_append_drop]

theorem expectedCheck_toBytes (f : KissFrame) :
    expectedCheck f.toBytes = Crc8.ofBytes f.payload.toList := by
  simp [expectedCheck, toList_toBytes]

@[simp]
theorem fields_toBytes (f : KissFrame) : fields f.toBytes = f := by
  simp [fields, toBytes, payload]

/-- Ten bytes whose check byte is right are the wire image of the fields they carry. -/
theorem toBytes_fields {raw : Vector UInt8 10}
    (h : expectedCheck raw = getElem raw 9 (by decide)) :
    (fields raw).toBytes = raw := by
  apply Vector.toList_inj.mp
  rw [toList_toBytes, toList_payload_fields, ← expectedCheck, h, ← toList_eq_take_append]

/-- The wire image of a frame carries the right check byte. -/
theorem expectedCheck_toBytes_eq (f : KissFrame) :
    expectedCheck f.toBytes = getElem f.toBytes 9 (by decide) := by
  rw [expectedCheck_toBytes]
  simp [toBytes]

theorem parse_toBytes (f : KissFrame) : parse f.toBytes = .ok f := by
  simp [parse, expectedCheck_toBytes_eq]

theorem parse_eq_ok_iff {raw : Vector UInt8 10} {f : KissFrame} :
    parse raw = .ok f ↔ f.toBytes = raw := by
  constructor
  · intro h
    unfold parse at h
    split at h
    · cases h
      exact toBytes_fields ‹_›
    · cases h
  · rintro rfl
    exact parse_toBytes f

theorem parse_of_expectedCheck_ne {raw : Vector UInt8 10}
    (h : expectedCheck raw ≠ getElem raw 9 (by decide)) :
    parse raw = .error (.crcMismatch (expectedCheck raw) (getElem raw 9 (by decide))) := by
  simp [parse, h]

/-- Reading is the inverse of writing: every frame reads back as itself, whatever reads is the
image of what it read, and everything else is refused with the CRC of its first nine bytes and
the byte it carries in its place. So writing is a bijection onto the arrays with a right check
byte. -/
theorem parse_toBytes_inverse :
    (∀ f : KissFrame, parse f.toBytes = .ok f) ∧
    (∀ (raw : Vector UInt8 10) (f : KissFrame), parse raw = .ok f → f.toBytes = raw) ∧
    (∀ raw : Vector UInt8 10, (∀ f, parse raw ≠ .ok f) →
      parse raw = .error (.crcMismatch (Crc8.ofBytes (raw.toList.take 9))
        (getElem raw 9 (by decide)))) ∧
    Function.Injective toBytes ∧
    (∀ raw : Vector UInt8 10, (∃ f : KissFrame, f.toBytes = raw) ↔
      Crc8.ofBytes (raw.toList.take 9) = getElem raw 9 (by decide)) := by
  refine ⟨parse_toBytes, fun _ _ => parse_eq_ok_iff.mp, ?_, ?_, ?_⟩
  · intro raw hnot
    have hne : expectedCheck raw ≠ raw[9] := fun h =>
      hnot (fields raw) (parse_eq_ok_iff.mpr (toBytes_fields h))
    exact parse_of_expectedCheck_ne hne
  · intro f g h
    rw [← fields_toBytes f, h, fields_toBytes]
  · intro raw
    constructor
    · rintro ⟨f, rfl⟩
      exact expectedCheck_toBytes_eq f
    · intro h
      exact ⟨fields raw, toBytes_fields h⟩

end KissFrame

/-! ## Hobbywing packets -/

namespace Hw4Packet

theorem firstOutOfRange_eq_none_iff {raw : Vector UInt8 19} :
    firstOutOfRange raw = none ↔
      ∀ b ∈ plausibilityBounds, getElem raw b.1 b.1.isLt < b.2 := by
  simp only [firstOutOfRange, List.findSome?_eq_none_iff]
  refine forall₂_congr fun b _ => ?_
  split <;> simp_all

/-- The refusal is the first checked byte out of range. -/
theorem firstOutOfRange_eq_some_iff {raw : Vector UInt8 19} {e : FrameError} :
    firstOutOfRange raw = some e ↔
      ∃ (pre : List (Fin 19 × UInt8)) (offset : Fin 19) (limit : UInt8)
        (post : List (Fin 19 × UInt8)),
        plausibilityBounds = pre ++ (offset, limit) :: post ∧
        (∀ b ∈ pre, getElem raw b.1 b.1.isLt < b.2) ∧
        limit ≤ getElem raw offset offset.isLt ∧
        e = .outOfRange offset (getElem raw offset offset.isLt) limit := by
  simp only [firstOutOfRange, List.findSome?_eq_some_iff]
  constructor
  · rintro ⟨pre, ⟨offset, limit⟩, post, hsplit, hfound, hpre⟩
    refine ⟨pre, offset, limit, post, hsplit, fun b hb => ?_, ?_, ?_⟩
    · have := hpre b hb
      split at this <;> simp_all
    · split at hfound <;> simp_all [UInt8.not_lt]
    · split at hfound <;> simp_all
  · rintro ⟨pre, offset, limit, post, hsplit, hpre, hlimit, rfl⟩
    have hout : ¬ raw[offset.val] < limit := UInt8.not_lt.mpr hlimit
    refine ⟨pre, (offset, limit), post, hsplit, by simp [hout], fun b hb => ?_⟩
    have hin : raw[b.1.val] < b.2 := hpre b hb
    simp [hin]

theorem parse_eq_ok_iff {raw : Vector UInt8 19} {q : Hw4Packet} :
    parse raw = .ok q ↔ firstOutOfRange raw = none ∧ fields raw = q := by
  unfold parse
  split <;> simp_all

theorem parse_eq_error_iff {raw : Vector UInt8 19} {e : FrameError} :
    parse raw = .error e ↔ firstOutOfRange raw = some e := by
  unfold parse
  split <;> simp_all

/-- A packet reads back as itself with its counter and eRPM cut to 24 bits. -/
@[simp]
theorem fields_toBytes (p : Hw4Packet) :
    fields p.toBytes = { p with counter := p.counter % 0x1000000, rpm := p.rpm % 0x1000000 } := by
  simp [fields, toBytes]

/-- The fields of any nineteen bytes write back as those bytes behind a sync byte. -/
theorem toBytes_fields (raw : Vector UInt8 19) :
    (fields raw).toBytes = raw.set 0 hw4SyncByte (by decide) := by
  ext i hi
  interval_cases i <;> simp [toBytes, fields]

/-- The wire image of a packet passes the plausibility checks exactly when each field is below
the range its checked high byte allows. -/
theorem firstOutOfRange_toBytes_eq_none_iff (p : Hw4Packet) :
    firstOutOfRange p.toBytes = none ↔
      p.throttle < 0x400 ∧ p.pwm < 0x400 ∧ p.rpm % 0x1000000 < 0x40000 ∧
        p.voltageRaw < 0xF00 ∧ p.currentRaw < 0xF00 ∧ p.tempFetRaw < 0xF00 ∧
        p.tempBecRaw < 0xF00 := by
  simp only [firstOutOfRange_eq_none_iff, plausibilityBounds, List.mem_cons, List.not_mem_nil,
    forall_eq_or_imp, or_false, forall_eq]
  simp [toBytes, Bytes.high_lt_iff, Bytes.byte2_lt_iff, UInt16.lt_iff_toNat_lt,
    UInt32.lt_iff_toNat_lt, UInt32.toNat_mod]

/-- The Hobbywing reader against the writer: a packet reads back as itself, counter and eRPM cut
to 24 bits, exactly when throttle and PWM are below `0x400`, the 24-bit eRPM below `0x40000` and
the four ADC readings below `0xF00`; what is read writes back as the bytes it came from behind a
sync byte; and a refusal names the first of the checked high bytes, in the order of the bounds,
that is not below its bound. -/
theorem parse_toBytes_plausible :
    (∀ p : Hw4Packet,
      parse p.toBytes = .ok { p with counter := p.counter % 0x1000000, rpm := p.rpm % 0x1000000 } ↔
        p.throttle < 0x400 ∧ p.pwm < 0x400 ∧ p.rpm % 0x1000000 < 0x40000 ∧
          p.voltageRaw < 0xF00 ∧ p.currentRaw < 0xF00 ∧ p.tempFetRaw < 0xF00 ∧
          p.tempBecRaw < 0xF00) ∧
    (∀ (raw : Vector UInt8 19) (q : Hw4Packet), parse raw = .ok q →
      q.toBytes = raw.set 0 hw4SyncByte (by decide)) ∧
    (∀ (raw : Vector UInt8 19) (e : FrameError), parse raw = .error e ↔
      ∃ (pre : List (Fin 19 × UInt8)) (offset : Fin 19) (limit : UInt8)
        (post : List (Fin 19 × UInt8)),
        [((4 : Fin 19), (0x04 : UInt8)), (6, 0x04), (8, 0x04), (11, 0x0F), (13, 0x0F),
          (15, 0x0F), (17, 0x0F)] = pre ++ (offset, limit) :: post ∧
        (∀ b ∈ pre, getElem raw b.1 b.1.isLt < b.2) ∧
        limit ≤ getElem raw offset offset.isLt ∧
        e = .outOfRange offset (getElem raw offset offset.isLt) limit) := by
  refine ⟨fun p => ?_, fun raw q h => ?_, fun raw e => ?_⟩
  · rw [parse_eq_ok_iff, fields_toBytes, firstOutOfRange_toBytes_eq_none_iff]
    simp
  · obtain ⟨-, rfl⟩ := parse_eq_ok_iff.mp h
    exact toBytes_fields raw
  · rw [parse_eq_error_iff, firstOutOfRange_eq_some_iff]
    rfl

end Hw4Packet

end EscTelemetry
