import EscTelemetry.Bench.Hw4Esc
import Mathlib

/-!
# How the simulated Hobbywing ESC paces its packets

`Hw4Esc.step` sends the packets that have come due and trims the FIFO. It finds them by
counting whole runs of due times (`dueBy`), and it sends a long burst by taking shortcuts
(`emitBurst`). This module shows that the shortcuts change nothing and says how many
packets a step sends.

* `emitBurst_same`: sending a burst is sending its packets one at a time (`emitMany`) and
  then keeping the newest 256 bytes of the FIFO.
* When the first due time past `nowUs` fits in the 64-bit clock, a step sends
  `(nowUs - next) / interval + 1` packets if `next ≤ nowUs` and none otherwise, and the new
  due time is that first one past `nowUs` (`dueBy_of_fits`).
* When that due time does not fit, it wraps to a time that is due at once, and the step
  sends more packets than that (`lt_fst_dueBy_of_wraps`).
* Whatever the due times do, a step sends what the loop that sends packets while the next
  one is due sends, whenever that loop ends (`step_of_loopEnds`): such a loop sends fewer than
  2⁶⁴ packets (`LoopEnds.lt_two_pow`), and `dueBy` counts them in as many rounds
  (`dueBy_eq_of_loopEnds`).
* The loop ends exactly when `nowUs` is before `2⁶⁴ - g + next % g`, where
  `g = gcd(interval, 2⁶⁴)`: the due times are the words congruent to `next` modulo `g`
  (`loopEnds_iff`).
-/

namespace EscTelemetry

namespace Hw4Esc

/-! ## Packets one at a time -/

/-- The packets of the next `n` sends, each with its fate, oldest first. -/
def fates (e : Hw4Esc) : Nat → List (Fate × Hw4Packet)
  | 0 => []
  | n + 1 => (e.advance.1, e.advance.2.packet) :: e.advance.2.fates n

/-- The ESC after `n` sends, with its FIFO as it was. -/
def advanceMany (e : Hw4Esc) : Nat → Hw4Esc
  | 0 => e
  | n + 1 => e.advance.2.advanceMany n

/-- The bytes that packets of those fates put on the wire, in order. -/
def wireBytes (ps : List (Fate × Hw4Packet)) : List UInt8 := (ps.map fun p => p.1.bytes p.2).flatten

@[simp]
theorem wireBytes_nil : wireBytes [] = [] := rfl

@[simp]
theorem wireBytes_cons (p : Fate × Hw4Packet) (ps : List (Fate × Hw4Packet)) :
    wireBytes (p :: ps) = p.1.bytes p.2 ++ wireBytes ps := rfl

@[simp]
theorem wireBytes_append (ps qs : List (Fate × Hw4Packet)) :
    wireBytes (ps ++ qs) = wireBytes ps ++ wireBytes qs := by
  simp [wireBytes]

/-- Moving on to the next packet neither reads nor writes the FIFO. -/
theorem advance_withQueue (e : Hw4Esc) (q : Fifo) :
    ({ e with queue := q } : Hw4Esc).advance = (e.advance.1, { e.advance.2 with queue := q }) :=
  rfl

theorem fates_withQueue (e : Hw4Esc) (q : Fifo) (n : Nat) :
    ({ e with queue := q } : Hw4Esc).fates n = e.fates n := by
  induction n generalizing e with
  | zero => rfl
  | succ n ih => simp only [fates, advance_withQueue, ih]

theorem advanceMany_withQueue (e : Hw4Esc) (q : Fifo) (n : Nat) :
    ({ e with queue := q } : Hw4Esc).advanceMany n = { e.advanceMany n with queue := q } := by
  induction n generalizing e with
  | zero => rfl
  | succ n ih => simp only [advanceMany, advance_withQueue, ih]

theorem toList_pushAll_empty (xs : List UInt8) : (({} : Fifo).pushAll xs).toList = xs := by
  rw [Fifo.toList_pushAll, Fifo.toList_empty, List.nil_append]

theorem pushAll_append (q : Fifo) (xs ys : List UInt8) :
    q.pushAll (xs ++ ys) = (q.pushAll xs).pushAll ys := by
  simp [Fifo.pushAll]

/-- Sending `n` packets moves the ESC on `n` packets and puts their bytes in the FIFO. -/
theorem emitMany_eq (e : Hw4Esc) (n : Nat) :
    e.emitMany n = { e.advanceMany n with queue := e.queue.pushAll (wireBytes (e.fates n)) } := by
  induction n generalizing e with
  | zero => rfl
  | succ n ih =>
    have first : e.emit = { e.advance.2 with
        queue := e.queue.pushAll (e.advance.1.bytes e.advance.2.packet) } := rfl
    rw [emitMany, ih, first, advanceMany_withQueue, fates_withQueue]
    simp only [advanceMany, fates, wireBytes_cons, pushAll_append]

@[simp]
theorem length_fates (e : Hw4Esc) (n : Nat) : (e.fates n).length = n := by
  induction n generalizing e with
  | zero => rfl
  | succ n ih => simp [fates, ih]

theorem advanceMany_add (e : Hw4Esc) (m k : Nat) :
    e.advanceMany (m + k) = (e.advanceMany m).advanceMany k := by
  induction m generalizing e with
  | zero => simp [advanceMany]
  | succ m ih => rw [Nat.add_right_comm, advanceMany, advanceMany, ih]

theorem fates_add (e : Hw4Esc) (m k : Nat) :
    e.fates (m + k) = e.fates m ++ (e.advanceMany m).fates k := by
  induction m generalizing e with
  | zero => simp [fates, advanceMany]
  | succ m ih => rw [Nat.add_right_comm, fates, fates, advanceMany, ih, List.cons_append]

/-! ## How many bytes a packet puts on the wire -/

theorem length_signatureRun : signatureRun.length = 13 := by decide

/-- A packet that is dropped with no signature run after it puts nothing on the wire. -/
theorem Fate.bytes_of_silent {f : Fate} (h : (f.dropped && !f.signature) = true)
    (packet : Hw4Packet) : f.bytes packet = [] := by
  simp only [Bool.and_eq_true, Bool.not_eq_eq_eq_not, Bool.not_true] at h
  simp [Fate.bytes, h.1, h.2]

/-- Any other packet puts 13 bytes or more on the wire: its 19 bytes, or the signature
run. -/
theorem Fate.le_length_bytes {f : Fate} (h : (f.dropped && !f.signature) = false)
    (packet : Hw4Packet) : 13 ≤ (f.bytes packet).length := by
  cases hd : f.dropped
  · unfold Fate.bytes
    split <;> simp only [hd, Bool.false_eq_true, if_false, List.length_append, List.length_set,
      Vector.length_toList] <;> omega
  · have sig : f.signature = true := by simpa [hd] using h
    simp [Fate.bytes, hd, sig, length_signatureRun]

/-- Packets that each put `k` bytes or more on the wire put `k` bytes per packet or more. -/
theorem le_length_wireBytes {k : Nat} {ps : List (Fate × Hw4Packet)}
    (h : ∀ p ∈ ps, k ≤ (p.1.bytes p.2).length) : k * ps.length ≤ (wireBytes ps).length := by
  induction ps with
  | nil => simp
  | cons p ps ih =>
    have first := h p List.mem_cons_self
    have rest := ih fun q hq => h q (List.mem_cons_of_mem p hq)
    simp only [wireBytes_cons, List.length_append, List.length_cons, Nat.mul_succ]
    omega

theorem wireBytes_reverse_cons (p : Fate × Hw4Packet) (ps : List (Fate × Hw4Packet)) :
    wireBytes (p :: ps).reverse = wireBytes ps.reverse ++ p.1.bytes p.2 := by
  simp

/-- The bytes of the newest `k` packets end the bytes of all of them. -/
theorem wireBytes_take_suffix (ps : List (Fate × Hw4Packet)) (k : Nat) :
    wireBytes (ps.take k).reverse <:+ wireBytes ps.reverse := by
  have whole : wireBytes ps.reverse = wireBytes (ps.drop k).reverse ++ wireBytes (ps.take k).reverse := by
    rw [← wireBytes_append, ← List.reverse_append, List.take_append_drop]
  rw [whole]
  exact List.suffix_append _ _

/-- The newest `n` bytes of a list are those of any end of it that is `n` bytes long or
more. -/
theorem drop_sub_of_suffix {xs ys : List UInt8} (h : xs <:+ ys) {n : Nat} (hn : n ≤ xs.length) :
    xs.drop (xs.length - n) = ys.drop (ys.length - n) := by
  obtain ⟨front, rfl⟩ := h
  rw [List.length_append, show front.length + xs.length - n = front.length + (xs.length - n) by
    omega, List.drop_length_add_append]

/-- Keeping the newest `n` bytes of a FIFO keeps those of any end of it that is `n` bytes
long or more. -/
theorem toList_keepNewest_of_suffix {q r : Fifo} (h : r.toList <:+ q.toList) {n : Nat}
    (hn : n ≤ r.toList.length) : (r.keepNewest n).toList = (q.keepNewest n).toList := by
  rw [Fifo.toList_keepNewest, Fifo.toList_keepNewest]
  exact drop_sub_of_suffix h hn

/-! ## The newest packets of a long burst -/

/-- What `gather` has kept of packets whose bytes are `sent`. Its list `recent` holds
`count` packets, newest first, and each puts 13 bytes or more on the wire. Until the list is
first cut, their bytes are all of `sent`; after that they are an end of `sent` that is 256
bytes or more. -/
structure Kept (sent : List UInt8) (recent : List (Fate × Hw4Packet)) (count : Nat) (cut : Bool) :
    Prop where
  length_eq : recent.length = count
  long : ∀ p ∈ recent, 13 ≤ (p.1.bytes p.2).length
  whole : cut = false → wireBytes recent.reverse = sent
  tail : cut = true →
    wireBytes recent.reverse <:+ sent ∧ rxQueueLimit ≤ (wireBytes recent.reverse).length

theorem kept_nil : Kept [] [] 0 false :=
  ⟨rfl, by simp, fun _ => rfl, by simp⟩

section Kept

variable {sent : List UInt8} {recent : List (Fate × Hw4Packet)} {count : Nat} {cut : Bool}

/-- The bytes kept are an end of the bytes sent, whether or not the list was cut. -/
theorem Kept.suffix (kept : Kept sent recent count cut) : wireBytes recent.reverse <:+ sent := by
  cases cut
  · exact ⟨[], kept.whole rfl⟩
  · exact (kept.tail rfl).1

/-- A packet that puts nothing on the wire changes nothing kept. -/
theorem Kept.skip (kept : Kept sent recent count cut) {p : Fate × Hw4Packet}
    (silent : p.1.bytes p.2 = []) : Kept (sent ++ p.1.bytes p.2) recent count cut := by
  rw [silent, List.append_nil]
  exact kept

/-- Another packet joins the kept ones. -/
theorem Kept.push (kept : Kept sent recent count cut) {p : Fate × Hw4Packet}
    (long : 13 ≤ (p.1.bytes p.2).length) :
    Kept (sent ++ p.1.bytes p.2) (p :: recent) (count + 1) cut where
  length_eq := by rw [List.length_cons, kept.length_eq]
  long q hq := by
    rcases List.mem_cons.mp hq with rfl | hq
    · exact long
    · exact kept.long q hq
  whole h := by rw [wireBytes_reverse_cons, kept.whole h]
  tail h := by
    rw [wireBytes_reverse_cons, List.length_append]
    exact ⟨List.suffix_append_self_iff.mpr (kept.tail h).1, Nat.le_add_right_of_le (kept.tail h).2⟩

/-- With 40 packets kept, the newest 20 stay, and their bytes, 260 or more, still fill the
FIFO. -/
theorem Kept.trim (kept : Kept sent recent count cut) {p : Fate × Hw4Packet}
    (long : 13 ≤ (p.1.bytes p.2).length) (full : count + 1 ≥ 40) :
    Kept (sent ++ p.1.bytes p.2) ((p :: recent).take 20) 20 true := by
  have pushed := kept.push long
  have twenty : ((p :: recent).take 20).length = 20 := by
    rw [List.length_take, pushed.length_eq]
    omega
  have newest : ∀ q ∈ (p :: recent).take 20, 13 ≤ (q.1.bytes q.2).length :=
    fun q hq => pushed.long q (List.mem_of_mem_take hq)
  refine ⟨twenty, newest, by simp, fun _ => ⟨?_, ?_⟩⟩
  · exact (wireBytes_take_suffix _ 20).trans pushed.suffix
  · have bound : 13 * ((p :: recent).take 20).reverse.length ≤
        (wireBytes ((p :: recent).take 20).reverse).length :=
      le_length_wireBytes fun q hq => newest q (List.mem_reverse.mp hq)
    rw [List.length_reverse, twenty] at bound
    simp only [rxQueueLimit]
    omega

end Kept

/-- `gather` moves the ESC on like `advanceMany`, and keeps what `Kept` says of the packets
it moves past. -/
theorem gather_spec (n : Nat) (e : Hw4Esc) {sent : List UInt8} {recent : List (Fate × Hw4Packet)}
    {count : Nat} {cut : Bool} (kept : Kept sent recent count cut) :
    (gather n e recent count cut).1 = e.advanceMany n ∧
      ∃ c, Kept (sent ++ wireBytes (e.fates n)) (gather n e recent count cut).2.1 c
        (gather n e recent count cut).2.2 := by
  induction n generalizing e sent recent count cut with
  | zero => exact ⟨rfl, count, by simpa [fates, gather] using kept⟩
  | succ n ih =>
    rcases hadv : e.advance with ⟨fate, e'⟩
    have moved : e.advanceMany (n + 1) = e'.advanceMany n := by rw [advanceMany, hadv]
    have packets : e.fates (n + 1) = (fate, e'.packet) :: e'.fates n := by rw [fates, hadv]
    rw [moved, packets, wireBytes_cons, ← List.append_assoc]
    simp only [gather, hadv]
    split
    · rename_i silent
      exact ih e' (kept.skip (p := (fate, e'.packet)) (Fate.bytes_of_silent silent _))
    · rename_i sends
      have long := Fate.le_length_bytes (Bool.eq_false_iff.mpr sends) e'.packet
      split
      · rename_i full
        exact ih e' (kept.trim (p := (fate, e'.packet)) long full)
      · exact ih e' (kept.push (p := (fate, e'.packet)) long)

/-! ## A quiet ESC -/

section Quiet

variable {e : Hw4Esc}

/-- A quiet ESC draws no fate: it neither damages nor drops a packet, and its generator
stays as it was. -/
theorem advance_of_quiet (h : e.quiet = true) :
    e.advance = (⟨none, false, decide (e.signatureEvery > 0 ∧ (e.sent + 1) % e.signatureEvery = 0)⟩,
      { e with packet := { e.packet with counter := (e.packet.counter + 1) &&& 0x00FFFFFF },
               sent := e.sent + 1 }) := by
  simp only [quiet, Bool.and_eq_true, Bool.not_eq_eq_eq_not, Bool.not_true,
    decide_eq_false_iff_not] at h
  obtain ⟨⟨⟨corruptPos, corruptOne⟩, dropPos⟩, dropOne⟩ := h
  simp [advance, XorShift.chance, corruptPos, corruptOne, dropPos, dropOne]

@[simp]
theorem quiet_advance (e : Hw4Esc) : e.advance.2.quiet = e.quiet := rfl

@[simp]
theorem quiet_advanceMany (e : Hw4Esc) (m : Nat) : (e.advanceMany m).quiet = e.quiet := by
  induction m generalizing e with
  | zero => rfl
  | succ m ih => rw [advanceMany, ih, quiet_advance]

/-- Masking to 24 bits before an addition changes nothing after masking again. -/
theorem mask_add_mask (a b : UInt32) :
    ((a &&& 0x00FFFFFF) + b) &&& 0x00FFFFFF = (a + b) &&& 0x00FFFFFF := by
  have mask : ∀ x : UInt32, (x &&& 0x00FFFFFF).toNat = x.toNat % 2 ^ 24 := fun x => by
    rw [UInt32.toNat_and, show (0x00FFFFFF : UInt32).toNat = 2 ^ 24 - 1 from rfl,
      Nat.and_two_pow_sub_one_eq_mod]
  apply UInt32.toNat_inj.mp
  rw [mask, mask, UInt32.toNat_add, UInt32.toNat_add, mask]
  omega

/-- One more after `m` more is `m + 1` more, on 32-bit words. -/
theorem add_one_add_toUInt32 (a : UInt32) (m : Nat) : a + 1 + m.toUInt32 = a + (m + 1).toUInt32 := by
  apply UInt32.toNat_inj.mp
  simp [UInt32.toNat_add]
  omega

/-- Skipping `m` packets of a quiet ESC is moving it on `m` packets. -/
theorem skipQuiet_eq (h : e.quiet = true) (m : Nat) : e.skipQuiet m = e.advanceMany m := by
  induction m generalizing e with
  | zero => simp [skipQuiet, advanceMany]
  | succ m ih =>
    rw [advanceMany, ← ih (by rwa [quiet_advance]), advance_of_quiet h]
    cases m with
    | zero => simp [skipQuiet]
    | succ m =>
      simp only [skipQuiet, Nat.add_one_ne_zero, if_false, mask_add_mask, add_one_add_toUInt32]

/-- Every packet of a quiet ESC puts its 19 bytes on the wire, or more. -/
theorem le_length_bytes_of_quiet (h : e.quiet = true) (k : Nat) :
    ∀ p ∈ e.fates k, 19 ≤ (p.1.bytes p.2).length := by
  induction k generalizing e with
  | zero => simp [fates]
  | succ k ih =>
    intro p hp
    rw [fates, List.mem_cons] at hp
    rcases hp with rfl | hp
    · rw [advance_of_quiet h]
      simp [Fate.bytes]
    · exact ih (by rwa [quiet_advance]) p hp

end Quiet

/-! ## A burst is its packets one at a time -/

/-- Sending a burst of `n` packets is sending them one at a time and then keeping the
newest 256 bytes of the FIFO: the two ESCs agree in every field but the FIFO, and their
FIFOs hold the same bytes. -/
theorem emitBurst_same (e : Hw4Esc) (n : Nat) :
    ({ e.emitBurst n with queue := {} } : Hw4Esc) = { e.emitMany n with queue := {} } ∧
      (e.emitBurst n).queue.toList = ((e.emitMany n).queue.keepNewest rxQueueLimit).toList := by
  rw [emitMany_eq]
  unfold emitBurst
  split
  · rename_i quick
    simp only [Bool.and_eq_true, decide_eq_true_eq] at quick
    obtain ⟨quiet, many⟩ := quick
    obtain ⟨m, rfl⟩ : ∃ m, n = m + fillingPackets := ⟨n - fillingPackets, by omega⟩
    rw [Nat.add_sub_cancel, skipQuiet_eq quiet, emitMany_eq, advanceMany_withQueue,
      fates_withQueue, advanceMany_add, fates_add]
    refine ⟨rfl, ?_⟩
    have last : 19 * fillingPackets ≤ (wireBytes ((e.advanceMany m).fates fillingPackets)).length :=
      by simpa using le_length_wireBytes (le_length_bytes_of_quiet (e := e.advanceMany m)
        (by rwa [quiet_advanceMany]) fillingPackets)
    dsimp only
    apply toList_keepNewest_of_suffix
    · rw [toList_pushAll_empty, Fifo.toList_pushAll, wireBytes_append, ← List.append_assoc]
      exact List.suffix_append _ _
    · rw [toList_pushAll_empty]
      simp only [fillingPackets, rxQueueLimit] at last ⊢
      omega
  · obtain ⟨moved, c, kept⟩ := gather_spec n e kept_nil
    rcases hg : gather n e [] 0 false with ⟨moved', recent, cut⟩
    rw [hg] at moved kept
    simp only [List.nil_append] at kept
    simp only at moved
    subst moved
    dsimp only
    refine ⟨rfl, ?_⟩
    have bytes : (recent.reverse.map fun p => p.1.bytes p.2).flatten =
        wireBytes recent.reverse := rfl
    rw [bytes]
    cases cut
    · rw [kept.whole rfl, if_neg Bool.false_ne_true]
    · rw [if_pos rfl]
      apply toList_keepNewest_of_suffix
      · rw [toList_pushAll_empty, Fifo.toList_pushAll]
        exact List.suffix_append_of_suffix (kept.tail rfl).1
      · rw [toList_pushAll_empty]
        exact (kept.tail rfl).2

/-! ## What one send does to the counters -/

@[simp]
theorem counter_advance (e : Hw4Esc) :
    e.advance.2.packet.counter = (e.packet.counter + 1) &&& 0x00FFFFFF := rfl

theorem toNat_mask (x : UInt32) : (x &&& 0x00FFFFFF).toNat = x.toNat % 2 ^ 24 := by
  rw [UInt32.toNat_and, show (0x00FFFFFF : UInt32).toNat = 2 ^ 24 - 1 from rfl,
    Nat.and_two_pow_sub_one_eq_mod]

/-- After `n` sends the 24-bit packet counter has moved on by `n`. -/
theorem counter_advanceMany (e : Hw4Esc) (n : Nat) :
    (e.advanceMany n).packet.counter.toNat % 2 ^ 24 = (e.packet.counter.toNat + n) % 2 ^ 24 := by
  induction n generalizing e with
  | zero => rfl
  | succ n ih =>
    rw [advanceMany, ih, counter_advance, toNat_mask, UInt32.toNat_add]
    simp only [UInt32.toNat_one]
    omega

/-! ## Due times -/

/-- The due time `j` packets after the one due at `next`: each packet moves the due time on
by `interval` on the 64-bit clock, which wraps past its end. -/
def dueAt (next interval : UInt64) : Nat → UInt64
  | 0 => next
  | j + 1 => dueAt next interval j + interval

theorem toNat_dueAt (next interval : UInt64) (j : Nat) :
    (dueAt next interval j).toNat = (next.toNat + j * interval.toNat) % 2 ^ 64 := by
  induction j with
  | zero => simp [dueAt, Nat.mod_eq_of_lt next.toNat_lt]
  | succ j ih =>
    rw [dueAt, UInt64.toNat_add, ih, Nat.add_mul, Nat.one_mul, ← Nat.add_assoc, Nat.mod_add_mod]

theorem dueAt_add (next interval : UInt64) (i j : Nat) :
    dueAt (dueAt next interval i) interval j = dueAt next interval (i + j) := by
  induction j with
  | zero => rfl
  | succ j ih => rw [dueAt, ih, ← Nat.add_assoc, dueAt]

/-- The due times repeat after 2⁶⁴ packets. -/
theorem dueAt_add_two_pow (next interval : UInt64) (j : Nat) :
    dueAt next interval (j + 2 ^ 64) = dueAt next interval j := by
  apply UInt64.toNat_inj.mp
  rw [toNat_dueAt, toNat_dueAt, Nat.add_mul, ← Nat.add_assoc, Nat.mul_comm (2 ^ 64),
    Nat.add_mul_mod_self_right]

section Due

variable {nowUs interval next : UInt64}

/-- Nothing is due before the due time. -/
theorem dueBy_of_lt (h : nowUs < next) (fuel count : Nat) :
    dueBy nowUs interval fuel next count = (count, next) := by
  cases fuel with
  | zero => rfl
  | succ fuel => rw [dueBy, if_neg (UInt64.not_le.mpr h)]

/-- Each round only adds packets. -/
theorem le_fst_dueBy (fuel : Nat) (next : UInt64) (count : Nat) :
    count ≤ (dueBy nowUs interval fuel next count).1 := by
  induction fuel generalizing next count with
  | zero => exact Nat.le_refl count
  | succ fuel ih =>
    rw [dueBy]
    split
    · dsimp only
      split
      · exact Nat.le_add_right count _
      · exact Nat.le_trans (Nat.le_add_right count _) (ih _ _)
    · exact Nat.le_refl count

/-- The packets of a run, fewer than `(nowUs - next) / interval + 1` on from `next`, are due
at or before `nowUs`. -/
theorem add_mul_le_of_lt_burst (hle : next.toNat ≤ nowUs.toNat) {j : Nat}
    (hj : j < (nowUs.toNat - next.toNat) / interval.toNat + 1) :
    next.toNat + j * interval.toNat ≤ nowUs.toNat := by
  have run := Nat.div_mul_le_self (nowUs.toNat - next.toNat) interval.toNat
  have within := Nat.mul_le_mul_right interval.toNat (Nat.le_of_lt_succ hj)
  omega

theorem dueAt_le_of_lt_burst (hle : next ≤ nowUs) {j : Nat}
    (hj : j < (nowUs.toNat - next.toNat) / interval.toNat + 1) : dueAt next interval j ≤ nowUs := by
  have within := add_mul_le_of_lt_burst (UInt64.le_iff_toNat_le.mp hle) hj
  have below := nowUs.toNat_lt
  rw [UInt64.le_iff_toNat_le, toNat_dueAt, Nat.mod_eq_of_lt (by omega)]
  exact within

/-- The due time after a run that fits in the clock is past `nowUs`. -/
theorem lt_dueAt_of_fits (hi : 0 < interval.toNat)
    (fits : next.toNat + ((nowUs.toNat - next.toNat) / interval.toNat + 1) * interval.toNat <
      2 ^ 64) :
    nowUs < dueAt next interval ((nowUs.toNat - next.toNat) / interval.toNat + 1) := by
  have past := Nat.lt_div_mul_add (a := nowUs.toNat - next.toNat) hi
  rw [UInt64.lt_iff_toNat_lt, toNat_dueAt, Nat.mod_eq_of_lt fits, Nat.add_mul, Nat.one_mul]
  omega

/-- The due time after a run that passes the end of the clock wraps to one at or before
`nowUs`: less than an interval after the run's last packet, less the whole clock. -/
theorem dueAt_le_of_wraps (hle : next ≤ nowUs)
    (wraps : 2 ^ 64 ≤
      next.toNat + ((nowUs.toNat - next.toNat) / interval.toNat + 1) * interval.toNat) :
    dueAt next interval ((nowUs.toNat - next.toNat) / interval.toNat + 1) ≤ nowUs := by
  have run := Nat.div_mul_le_self (nowUs.toNat - next.toNat) interval.toNat
  have hle' := UInt64.le_iff_toNat_le.mp hle
  have below := nowUs.toNat_lt
  have step := interval.toNat_lt
  rw [Nat.add_mul, Nat.one_mul] at wraps
  rw [UInt64.le_iff_toNat_le, toNat_dueAt, Nat.add_mul, Nat.one_mul, Nat.mod_eq_sub_mod wraps,
    Nat.mod_eq_of_lt (by omega)]
  omega

/-- One round from a due time not past `nowUs`: the run of `k = (nowUs - next) / interval + 1`
packets at `next`, `next + interval`, …, and the due time after its last one on the 64-bit
clock. The round ends the count when that sum does not pass the end of the clock, and goes
on from its wrapped value when it does. -/
theorem dueBy_round (hi : 0 < interval.toNat) (h : next ≤ nowUs)
    (hk : (nowUs.toNat - next.toNat) / interval.toNat + 1 < 2 ^ 64) (fuel count : Nat) :
    ∃ after : UInt64,
      after.toNat =
          (next.toNat + ((nowUs.toNat - next.toNat) / interval.toNat + 1) * interval.toNat) %
            2 ^ 64 ∧
        dueBy nowUs interval (fuel + 1) next count =
          if next.toNat + ((nowUs.toNat - next.toNat) / interval.toNat + 1) * interval.toNat <
              2 ^ 64 then
            (count + ((nowUs.toNat - next.toNat) / interval.toNat + 1), after)
          else dueBy nowUs interval fuel after
            (count + ((nowUs.toNat - next.toNat) / interval.toNat + 1)) := by
  have hle : next.toNat ≤ nowUs.toNat := UInt64.le_iff_toNat_le.mp h
  have below := nowUs.toNat_lt
  have runs := Nat.div_mul_le_self (nowUs.toNat - next.toNat) interval.toNat
  have burst : ((nowUs - next) / interval + 1).toNat =
      (nowUs.toNat - next.toNat) / interval.toNat + 1 := by
    rw [UInt64.toNat_add, UInt64.toNat_div, UInt64.toNat_sub_of_le _ _ h, UInt64.toNat_one,
      Nat.mod_eq_of_lt hk]
  have one : 1 ≤ (nowUs - next) / interval + 1 := by
    rw [UInt64.le_iff_toNat_le, burst, UInt64.toNat_one]
    exact Nat.le_add_left 1 _
  -- the last packet of the run is at or before `nowUs`, so its time does not wrap
  have last : (next + ((nowUs - next) / interval + 1 - 1) * interval).toNat =
      next.toNat + (nowUs.toNat - next.toNat) / interval.toNat * interval.toNat := by
    rw [UInt64.toNat_add, UInt64.toNat_mul, UInt64.toNat_sub_of_le _ _ one, burst,
      UInt64.toNat_one, Nat.add_sub_cancel, Nat.mod_eq_of_lt (by omega), Nat.mod_eq_of_lt (by omega)]
  refine ⟨next + ((nowUs - next) / interval + 1 - 1) * interval + interval, ?_, ?_⟩
  · rw [UInt64.toNat_add, last, Nat.add_mul, Nat.one_mul, Nat.add_assoc]
  · rw [dueBy, if_pos h]
    dsimp only
    rw [burst]
    have after : (next + ((nowUs - next) / interval + 1 - 1) * interval + interval).toNat =
        (next.toNat + (nowUs.toNat - next.toNat) / interval.toNat * interval.toNat +
          interval.toNat) % 2 ^ 64 := by
      rw [UInt64.toNat_add, last]
    by_cases fits : next.toNat + ((nowUs.toNat - next.toNat) / interval.toNat + 1) * interval.toNat < 2 ^ 64
    · rw [if_pos fits, if_pos]
      rw [UInt64.lt_iff_toNat_lt, after, last, Nat.mod_eq_of_lt (by rw [Nat.add_mul] at fits; omega)]
      omega
    · rw [if_neg fits, if_neg]
      rw [UInt64.lt_iff_toNat_lt, after, last]
      rw [Nat.add_mul, Nat.one_mul] at fits
      have := interval.toNat_lt
      rw [Nat.mod_eq_sub_mod (by omega), Nat.mod_eq_of_lt (by omega)]
      omega

/-- One round told with due times: it counts the `k = (nowUs - next) / interval + 1` packets of
the run and stops at the `k`-th due time when that is past `nowUs`, or goes on from it. -/
theorem dueBy_succ_eq (hi : 0 < interval.toNat) (h : next ≤ nowUs)
    (hnow : nowUs.toNat < 2 ^ 64 - 1) (fuel count : Nat) :
    dueBy nowUs interval (fuel + 1) next count =
      if nowUs < dueAt next interval ((nowUs.toNat - next.toNat) / interval.toNat + 1) then
        (count + ((nowUs.toNat - next.toNat) / interval.toNat + 1),
          dueAt next interval ((nowUs.toNat - next.toNat) / interval.toNat + 1))
      else dueBy nowUs interval fuel
        (dueAt next interval ((nowUs.toNat - next.toNat) / interval.toNat + 1))
        (count + ((nowUs.toNat - next.toNat) / interval.toNat + 1)) := by
  have short := Nat.div_le_self (nowUs.toNat - next.toNat) interval.toNat
  obtain ⟨after, hafter, round⟩ := dueBy_round hi h (by omega) fuel count
  have hafter' : after = dueAt next interval ((nowUs.toNat - next.toNat) / interval.toNat + 1) :=
    UInt64.toNat_inj.mp (by rw [hafter, toNat_dueAt])
  rw [round, ← hafter']
  by_cases fits : next.toNat + ((nowUs.toNat - next.toNat) / interval.toNat + 1) * interval.toNat <
    2 ^ 64
  · rw [if_pos fits, if_pos (hafter' ▸ lt_dueAt_of_fits hi fits)]
  · have due := dueAt_le_of_wraps h (Nat.le_of_not_lt fits)
    rw [if_neg fits, if_neg (UInt64.not_lt.mpr (hafter' ▸ due))]

/-- A run that ends before the end of the clock ends the count: `k` packets, and the due
time of the one after them. -/
theorem dueBy_of_fits (hi : 0 < interval.toNat) (h : next ≤ nowUs)
    (fits : next.toNat + ((nowUs.toNat - next.toNat) / interval.toNat + 1) * interval.toNat <
      2 ^ 64) (fuel count : Nat) :
    (dueBy nowUs interval (fuel + 1) next count).1 =
        count + ((nowUs.toNat - next.toNat) / interval.toNat + 1) ∧
      (dueBy nowUs interval (fuel + 1) next count).2.toNat =
        next.toNat + ((nowUs.toNat - next.toNat) / interval.toNat + 1) * interval.toNat := by
  have hk : (nowUs.toNat - next.toNat) / interval.toNat + 1 < 2 ^ 64 :=
    Nat.lt_of_le_of_lt (Nat.le_mul_of_pos_right _ hi) (Nat.lt_of_le_of_lt (Nat.le_add_left _ _) fits)
  obtain ⟨after, hafter, round⟩ := dueBy_round hi h hk fuel count
  rw [round, if_pos fits, hafter, Nat.mod_eq_of_lt fits]
  exact ⟨rfl, rfl⟩

/-- A run whose next due time passes the end of the clock wraps to a time that is due at
once, so with a round left the count goes past the run. -/
theorem lt_fst_dueBy_of_wraps (hi : 0 < interval.toNat) (h : next ≤ nowUs)
    (hnow : nowUs.toNat < 2 ^ 64 - 1)
    (wraps : 2 ^ 64 ≤ next.toNat + ((nowUs.toNat - next.toNat) / interval.toNat + 1) * interval.toNat)
    (fuel count : Nat) :
    count + ((nowUs.toNat - next.toNat) / interval.toNat + 1) <
      (dueBy nowUs interval (fuel + 2) next count).1 := by
  have due := dueAt_le_of_wraps h wraps
  rw [dueBy_succ_eq hi h hnow, if_neg (UInt64.not_lt.mpr due), dueBy_succ_eq hi due hnow]
  split
  · exact Nat.lt_add_of_pos_right (Nat.succ_pos _)
  · exact Nat.lt_of_lt_of_le (Nat.lt_add_of_pos_right (Nat.succ_pos _)) (le_fst_dueBy _ _ _)

end Due

/-! ## The loop of due times -/

/-- A loop that sends packets while the next one is due by `nowUs` stops after `n` packets:
the first `n` due times are at or before `nowUs`, and the one after them is past it. -/
def LoopEnds (nowUs interval next : UInt64) (n : Nat) : Prop :=
  (∀ j < n, dueAt next interval j ≤ nowUs) ∧ nowUs < dueAt next interval n

instance (nowUs interval next : UInt64) (n : Nat) : Decidable (LoopEnds nowUs interval next n) :=
  inferInstanceAs (Decidable (_ ∧ _))

section Loop

variable {nowUs interval next : UInt64} {n : Nat}

/-- The loop stops at the first due time past `nowUs`. -/
theorem LoopEnds.le_of_due (h : LoopEnds nowUs interval next n) {m : Nat}
    (hm : ∀ j < m, dueAt next interval j ≤ nowUs) : m ≤ n :=
  Nat.le_of_not_lt fun hlt => UInt64.not_le.mpr h.2 (hm n hlt)

theorem LoopEnds.unique (h : LoopEnds nowUs interval next n) {m : Nat}
    (h' : LoopEnds nowUs interval next m) : m = n :=
  Nat.le_antisymm (h.le_of_due h'.1) (h'.le_of_due h.1)

/-- After `b` of its packets the loop goes on from the `b`-th due time. -/
theorem LoopEnds.drop (h : LoopEnds nowUs interval next n) {b : Nat} (hb : b ≤ n) :
    LoopEnds nowUs interval (dueAt next interval b) (n - b) := by
  refine ⟨fun j hj => ?_, ?_⟩
  · rw [dueAt_add]
    exact h.1 _ (by omega)
  · rw [dueAt_add, Nat.add_sub_cancel' hb]
    exact h.2

/-- A loop that ends sends fewer than 2⁶⁴ packets, for the due times repeat after that. -/
theorem LoopEnds.lt_two_pow (h : LoopEnds nowUs interval next n) : n < 2 ^ 64 := by
  refine Nat.lt_of_not_le fun hge => UInt64.not_le.mpr h.2 ?_
  rw [← Nat.sub_add_cancel hge, dueAt_add_two_pow]
  exact h.1 _ (by omega)

/-- A loop that ends has a due time past `nowUs`, so `nowUs` is not the clock's last word. -/
theorem LoopEnds.now_lt (h : LoopEnds nowUs interval next n) : nowUs.toNat < 2 ^ 64 - 1 := by
  have past := UInt64.lt_iff_toNat_lt.mp h.2
  have := (dueAt next interval n).toNat_lt
  omega

/-- A loop that sends a packet and ends moves the due time on. -/
theorem LoopEnds.interval_pos (h : LoopEnds nowUs interval next n) (hle : next ≤ nowUs) :
    0 < interval.toNat := by
  refine Nat.pos_of_ne_zero fun zero => UInt64.not_le.mpr h.2 ?_
  have still : dueAt next interval n = next := by
    apply UInt64.toNat_inj.mp
    rw [toNat_dueAt, zero, Nat.mul_zero, Nat.add_zero, Nat.mod_eq_of_lt next.toNat_lt]
  rwa [still]

theorem LoopEnds.pos (h : LoopEnds nowUs interval next n) (hle : next ≤ nowUs) : 0 < n :=
  Nat.pos_of_ne_zero fun zero => by
    subst zero
    exact UInt64.not_le.mpr h.2 hle

theorem LoopEnds.eq_zero (h : LoopEnds nowUs interval next n) (hlt : nowUs < next) : n = 0 :=
  Nat.eq_zero_of_not_pos fun pos => UInt64.not_le.mpr hlt (h.1 0 pos)

/-- Whenever the loop of due times ends, `dueBy` with as many rounds as it sends packets
counts them, and reaches the due time it stops at. Each round sends the run of packets up to
a wrap of the clock, a packet at least, and goes on from the wrapped due time. -/
theorem dueBy_eq_of_loopEnds (h : LoopEnds nowUs interval next n) {fuel : Nat} (hf : n ≤ fuel)
    (count : Nat) : dueBy nowUs interval fuel next count = (count + n, dueAt next interval n) := by
  induction n using Nat.strong_induction_on generalizing fuel next count with
  | _ n ih =>
  by_cases hle : next ≤ nowUs
  · obtain ⟨fuel, rfl⟩ : ∃ f, fuel = f + 1 := ⟨fuel - 1, by have := h.pos hle; omega⟩
    have burst : ∀ j < (nowUs.toNat - next.toNat) / interval.toNat + 1,
        dueAt next interval j ≤ nowUs := fun j hj => dueAt_le_of_lt_burst hle hj
    rw [dueBy_succ_eq (h.interval_pos hle) hle h.now_lt]
    generalize (nowUs.toNat - next.toNat) / interval.toNat = q at burst ⊢
    have hk := h.le_of_due burst
    split
    · rename_i past
      rw [h.unique ⟨burst, past⟩]
    · rename_i due
      have hlt : q + 1 < n := Nat.lt_of_le_of_ne hk fun e => due (e ▸ h.2)
      rw [ih (n - (q + 1)) (by omega) (h.drop hk) (by omega), dueAt_add, Nat.add_sub_cancel' hk,
        Nat.add_assoc, Nat.add_sub_cancel' hk]
  · rw [h.eq_zero (UInt64.not_le.mp hle), dueBy_of_lt (UInt64.not_le.mp hle)]
    rfl

end Loop

/-! ### Which loops end -/

/-- Due times stay in the class of `next` modulo the greatest common divisor of the interval
and 2⁶⁴. -/
theorem dueAt_mod_gcd (next interval : UInt64) (j : Nat) :
    (dueAt next interval j).toNat % Nat.gcd interval.toNat (2 ^ 64) =
      next.toNat % Nat.gcd interval.toNat (2 ^ 64) := by
  obtain ⟨c, hc⟩ := Dvd.dvd.mul_left (Nat.gcd_dvd_left interval.toNat (2 ^ 64)) j
  rw [toNat_dueAt, Nat.mod_mod_of_dvd _ (Nat.gcd_dvd_right _ _), hc, Nat.add_mul_mod_self_left]

/-- Every word of that class is a due time: by Bezout, the interval times some number of
packets is any multiple of the divisor on the 64-bit clock. -/
theorem exists_dueAt_eq (next interval : UInt64) {t : Nat} (ht : t < 2 ^ 64)
    (hmod : t % Nat.gcd interval.toNat (2 ^ 64) = next.toNat % Nat.gcd interval.toNat (2 ^ 64)) :
    ∃ j, (dueAt next interval j).toNat = t := by
  obtain ⟨d, hd⟩ := Nat.modEq_iff_dvd.mp hmod.symm
  have bezout : ((Nat.gcd interval.toNat (2 ^ 64) : ℤ) : ZMod (2 ^ 64)) =
      ((interval.toNat * Nat.gcdA interval.toNat (2 ^ 64) : ℤ) : ZMod (2 ^ 64)) := by
    rw [Nat.gcd_eq_gcd_ab, Int.cast_add, Int.cast_mul (2 ^ 64 : ℕ), Int.cast_natCast (2 ^ 64),
      ZMod.natCast_self, zero_mul, add_zero]
  have target : (t : ℤ) = next.toNat + Nat.gcd interval.toNat (2 ^ 64) * d := by linarith
  have tcast := congrArg (fun z : ℤ => (z : ZMod (2 ^ 64))) target
  refine ⟨((d * Nat.gcdA interval.toNat (2 ^ 64) : ℤ) : ZMod (2 ^ 64)).val, ?_⟩
  rw [toNat_dueAt, ← Nat.mod_eq_of_lt ht, ← ZMod.natCast_eq_natCast_iff']
  push_cast at tcast bezout ⊢
  rw [ZMod.natCast_zmod_val, tcast, bezout]
  ring

/-- A word below 2⁶⁴ is at most the last word of its class modulo a divisor `g` of 2⁶⁴. -/
theorem le_top_of_dvd {g x : Nat} (hg : g ∣ 2 ^ 64) (hx : x < 2 ^ 64) :
    x ≤ 2 ^ 64 - g + x % g := by
  obtain ⟨k, hk⟩ := hg
  have quot : x / g < k := Nat.div_lt_of_lt_mul (hk ▸ hx)
  have whole := Nat.div_add_mod x g
  have bound := Nat.mul_le_mul_left g quot
  rw [Nat.mul_succ] at bound
  omega

/-- The loop of due times ends exactly when `nowUs` is before the last word a due time can
take. The due times are the words congruent to `next` modulo `g = gcd(interval, 2⁶⁴)`
(`dueAt_mod_gcd`, `exists_dueAt_eq`), the last of which is `2⁶⁴ - g + next % g`. So the loop
never ends when `nowUs` is the last microsecond of the clock, nor when the interval is zero
and `next ≤ nowUs`. -/
theorem loopEnds_iff (nowUs interval next : UInt64) :
    (∃ n, LoopEnds nowUs interval next n) ↔
      nowUs.toNat < 2 ^ 64 - Nat.gcd interval.toNat (2 ^ 64) +
        next.toNat % Nat.gcd interval.toNat (2 ^ 64) := by
  have hg := Nat.gcd_dvd_right interval.toNat (2 ^ 64)
  constructor
  · rintro ⟨n, h⟩
    have past := UInt64.lt_iff_toNat_lt.mp h.2
    have top := le_top_of_dvd hg (dueAt next interval n).toNat_lt
    rw [dueAt_mod_gcd] at top
    omega
  · intro hnow
    have gpos : 0 < Nat.gcd interval.toNat (2 ^ 64) := Nat.gcd_pos_of_pos_right _ (by decide)
    have gle := Nat.le_of_dvd (by decide) hg
    have rlt := Nat.mod_lt next.toNat gpos
    have topMod : (2 ^ 64 - Nat.gcd interval.toNat (2 ^ 64) +
        next.toNat % Nat.gcd interval.toNat (2 ^ 64)) % Nat.gcd interval.toNat (2 ^ 64) =
        next.toNat % Nat.gcd interval.toNat (2 ^ 64) := by
      obtain ⟨c, hc⟩ := Nat.dvd_sub hg (Nat.dvd_refl _)
      rw [hc, Nat.mul_add_mod, Nat.mod_mod]
    obtain ⟨j, hj⟩ := exists_dueAt_eq next interval (by omega) topMod
    have hex : ∃ j, nowUs < dueAt next interval j := ⟨j, UInt64.lt_iff_toNat_lt.mpr (hj ▸ hnow)⟩
    exact ⟨Nat.find hex, fun i hi => UInt64.not_lt.mp (Nat.find_min hex hi), Nat.find_spec hex⟩

/-- With the bench's interval of 20000 µs, a multiple of 32, due times from zero are the
multiples of 32, the last of which is `2⁶⁴ - 32`: the loop ends when stepped a microsecond
before it, and never at it. -/
example : (∃ n, LoopEnds 18446744073709551583 20000 0 n) ∧
    ¬∃ n, LoopEnds 18446744073709551584 20000 0 n :=
  ⟨(loopEnds_iff _ _ _).mpr (by decide), mt (loopEnds_iff _ _ _).mp (by decide)⟩

/-! ## A step -/

/-- `e'` is what sending `n` packets one at a time makes of `e`, with only the newest 256
bytes of the FIFO kept: the two agree in every field but the FIFO and the due time, and the
FIFO holds those bytes. -/
def SentFrom (e : Hw4Esc) (n : Nat) (e' : Hw4Esc) : Prop :=
  ({ e' with queue := {}, nextPacketUs := none } : Hw4Esc) =
      { e.emitMany n with queue := {}, nextPacketUs := none } ∧
    e'.queue.toList = ((e.emitMany n).queue.keepNewest rxQueueLimit).toList

/-- The due time a step leaves is the one `dueBy` reaches. -/
theorem step_nextPacketUs (e : Hw4Esc) (nowUs : UInt64) :
    (e.step nowUs).nextPacketUs =
      some (dueBy nowUs e.intervalUs (2 ^ 64) (e.nextPacketUs.getD nowUs) 0).2 := rfl

/-- A step sends the packets that `dueBy` counts. -/
theorem sentFrom_step (e : Hw4Esc) (nowUs : UInt64) :
    SentFrom e (dueBy nowUs e.intervalUs (2 ^ 64) (e.nextPacketUs.getD nowUs) 0).1
      (e.step nowUs) := by
  obtain ⟨fields, bytes⟩ := emitBurst_same e (dueBy nowUs e.intervalUs (2 ^ 64)
    (e.nextPacketUs.getD nowUs) 0).1
  exact ⟨congrArg (fun x : Hw4Esc => { x with nextPacketUs := none }) fields, bytes⟩

/-- The packet counter of an ESC that sent `n` packets has moved on by `n`, modulo `2 ^ 24`. -/
theorem SentFrom.counter {e e' : Hw4Esc} {n : Nat} (sent : SentFrom e n e') :
    e'.packet.counter.toNat % 2 ^ 24 = (e.packet.counter.toNat + n) % 2 ^ 24 := by
  have packet := congrArg Hw4Esc.packet sent.1
  simp only at packet
  rw [packet, emitMany_eq, ← counter_advanceMany]

/-- At most 256 bytes are left in the FIFO. -/
theorem SentFrom.size_le {e e' : Hw4Esc} {n : Nat} (sent : SentFrom e n e') :
    e'.queue.size ≤ rxQueueLimit := by
  rw [Fifo.size_eq_length, sent.2, Fifo.toList_keepNewest, List.length_drop]
  omega

/-- Whenever the loop of due times ends, a step sends the packets it sends, one at a time with
the newest 256 bytes of the FIFO kept, and leaves the due time it stops at: the loop sends
fewer than 2⁶⁴ packets, and each round of `dueBy` sends one at least. -/
theorem step_of_loopEnds (e : Hw4Esc) (nowUs : UInt64) {n : Nat}
    (h : LoopEnds nowUs e.intervalUs (e.nextPacketUs.getD nowUs) n) :
    SentFrom e n (e.step nowUs) ∧
      (e.step nowUs).nextPacketUs = some (dueAt (e.nextPacketUs.getD nowUs) e.intervalUs n) := by
  have counted := dueBy_eq_of_loopEnds h (Nat.le_of_lt h.lt_two_pow) 0
  have sent := sentFrom_step e nowUs
  rw [counted, Nat.zero_add] at sent
  exact ⟨sent, by rw [step_nextPacketUs, counted]⟩

/-- A step sends the packets that have come due. Let `next` be the due time (`nowUs` when
there is none yet) and `k` the number of packets due by `nowUs`: `(nowUs - next) / interval + 1`
from `next` on, and none before it. When the first due time past `nowUs`,
`next + k * interval`, fits in the 64-bit clock, the step sends `k` packets one at a time and
keeps the newest 256 bytes of the FIFO. Its new due time is that first one past `nowUs`, the
packet counter moves on by `k` modulo `2 ^ 24`, and at most 256 bytes are left. When that due
time does not fit, it wraps to a time that is due at once, and the step sends more than `k`
packets. -/
theorem step_sends_due_packets (e : Hw4Esc) (nowUs : UInt64) (hi : 0 < e.intervalUs.toNat) :
    let next := (e.nextPacketUs.getD nowUs).toNat
    let k := if next ≤ nowUs.toNat then (nowUs.toNat - next) / e.intervalUs.toNat + 1 else 0
    (next + k * e.intervalUs.toNat < 2 ^ 64 →
        SentFrom e k (e.step nowUs) ∧
          (e.step nowUs).nextPacketUs.map UInt64.toNat = some (next + k * e.intervalUs.toNat) ∧
          nowUs.toNat < next + k * e.intervalUs.toNat ∧
          (∀ j < k, next + j * e.intervalUs.toNat ≤ nowUs.toNat) ∧
          (e.step nowUs).packet.counter.toNat % 2 ^ 24 = (e.packet.counter.toNat + k) % 2 ^ 24 ∧
          (e.step nowUs).queue.size ≤ rxQueueLimit) ∧
      (2 ^ 64 ≤ next + k * e.intervalUs.toNat → nowUs.toNat < 2 ^ 64 - 1 →
        ∃ m > k, SentFrom e m (e.step nowUs)) := by
  intro next k
  have sent := sentFrom_step e nowUs
  have nextUs := step_nextPacketUs e nowUs
  by_cases due : next ≤ nowUs.toNat
  · have hle : e.nextPacketUs.getD nowUs ≤ nowUs := UInt64.le_iff_toNat_le.mpr due
    have hk : k = (nowUs.toNat - next) / e.intervalUs.toNat + 1 := if_pos due
    rw [hk]
    refine ⟨fun fits => ?_, fun wraps hnow => ?_⟩
    · obtain ⟨count, time⟩ := dueBy_of_fits hi hle fits (2 ^ 64 - 1) 0
      rw [Nat.sub_add_cancel (Nat.one_le_two_pow)] at count time
      rw [count, Nat.zero_add] at sent
      have past := Nat.lt_div_mul_add (a := nowUs.toNat - next) hi
      refine ⟨sent, by rw [nextUs, Option.map_some, time], ?_,
        fun j hj => add_mul_le_of_lt_burst due hj, sent.counter, sent.size_le⟩
      rw [Nat.add_mul, Nat.one_mul]
      omega
    · have more := lt_fst_dueBy_of_wraps hi hle hnow wraps (2 ^ 64 - 2) 0
      rw [Nat.sub_add_cancel (by decide : 2 ≤ 2 ^ 64), Nat.zero_add] at more
      exact ⟨_, more, sent⟩
  · have lt : nowUs < e.nextPacketUs.getD nowUs := UInt64.lt_iff_toNat_lt.mpr (Nat.lt_of_not_le due)
    have hk : k = 0 := if_neg due
    have nothing : dueBy nowUs e.intervalUs (2 ^ 64) (e.nextPacketUs.getD nowUs) 0 =
        (0, e.nextPacketUs.getD nowUs) := dueBy_of_lt lt (2 ^ 64) 0
    rw [nothing] at sent nextUs
    rw [hk, Nat.zero_mul, Nat.add_zero]
    refine ⟨fun _ => ⟨sent, by rw [nextUs, Option.map_some], Nat.lt_of_not_le due,
      fun j hj => absurd hj (Nat.not_lt_zero j), sent.counter, sent.size_le⟩, fun wraps => ?_⟩
    exact absurd (e.nextPacketUs.getD nowUs).toNat_lt (Nat.not_lt.mpr wraps)

/-- The first step of the bench's cruising ESC, at time zero, sends one packet and sets the
next due time one interval on. -/
theorem step_sends_due_packets_first_step :
    0 < cruising.intervalUs.toNat ∧ SentFrom cruising 1 (cruising.step 0) ∧
      (cruising.step 0).nextPacketUs.map UInt64.toNat = some 20000 := by
  have paced := (step_sends_due_packets cruising 0 (by decide)).1 (by decide)
  exact ⟨by decide, paced.1, paced.2.1⟩

/-- A bench ESC streaming every `2 ^ 63 + 1` microseconds, stepped at `2 ^ 64 - 10` with no due
time yet: the due time after its first packet wraps to `2 ^ 63 - 9`, which is due at once, so
the step sends two packets, not one, and leaves the due time at `2 ^ 64 - 8`. -/
theorem step_sends_two_after_wrap :
    SentFrom ((cruising.withIntervalUs 9223372036854775809).withSignatureEvery 0) 2
        (((cruising.withIntervalUs 9223372036854775809).withSignatureEvery 0).step
          18446744073709551606) ∧
      (((cruising.withIntervalUs 9223372036854775809).withSignatureEvery 0).step
        18446744073709551606).nextPacketUs = some 18446744073709551608 := by
  have due : dueBy 18446744073709551606
      ((cruising.withIntervalUs 9223372036854775809).withSignatureEvery 0).intervalUs (2 ^ 64)
      (((cruising.withIntervalUs 9223372036854775809).withSignatureEvery 0).nextPacketUs.getD
        18446744073709551606) 0 = (2, 18446744073709551608) := by
    decide
  have sent := sentFrom_step ((cruising.withIntervalUs 9223372036854775809).withSignatureEvery 0)
    18446744073709551606
  have nextUs := step_nextPacketUs ((cruising.withIntervalUs 9223372036854775809).withSignatureEvery 0)
    18446744073709551606
  rw [due] at sent nextUs
  exact ⟨sent, nextUs⟩

end Hw4Esc

end EscTelemetry
