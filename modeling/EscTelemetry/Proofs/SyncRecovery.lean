import EscTelemetry.Proofs.SyncStream

/-!
# The Hobbywing synchroniser recovers from any state

A clean packet, one whose only sync byte is its first, is enough to bring the synchroniser back
in step (`feed_recovers_after_two_copies`). From any state the byte stream can leave it in, two
copies of a clean packet end with that packet emitted on the last byte and the synchroniser idle
again, nothing collected and nothing to skip. From an idle state, `k` copies of a clean packet
are emitted as `k` packets, each on the last byte of its copy, and a signature run (two sync bytes
and the eleven bytes after them) emits nothing and leaves it idle.

The first copy is what realigns: whatever was under way (a skip, a lone sync byte, a partial
packet, which is emitted as junk) ends within it, and the rest of the copy, free of sync bytes,
is dropped. The runs of `push` this needs are stated once, as segment lemmas: skipping
(`feed_of_skip`), dropping (`feed_of_idle`), collecting (`feed_collect`) and completing
(`push_complete`).
-/

namespace EscTelemetry

namespace Synchronizer

/-! ## Feeding from any state -/

/-- Where the numbering starts and what was collected before do not change the state. -/
theorem fst_feedFrom (s : Synchronizer) (start : Nat) (acc : Trace) (xs : List UInt8) :
    (feedFrom s start acc xs).1 = (s.feed xs).1 := by
  induction xs generalizing s start acc with
  | nil => rfl
  | cons b xs ih =>
    simp only [feed, feedFrom]
    rw [ih, ih]

/-- The packets of a feed are those collected before, then those of a fresh feed, renumbered
from `start`. -/
theorem packets_feedFrom (s : Synchronizer) (start : Nat) (acc : Trace) (xs : List UInt8) :
    (feedFrom s start acc xs).2.packets.toList =
      acc.packets.toList ++ (s.feed xs).2.packets.toList.map fun e => (start + e.1, e.2) := by
  induction xs generalizing s start acc with
  | nil => simp [feed, feedFrom]
  | cons b xs ih =>
    simp only [feed, feedFrom]
    rw [ih, ih]
    cases (s.push b).2 <;> simp [Nat.add_comm, Nat.add_left_comm]

theorem fst_feed_append (s : Synchronizer) (xs ys : List UInt8) :
    (s.feed (xs ++ ys)).1 = ((s.feed xs).1.feed ys).1 := by
  rw [feed_append, fst_feedFrom]

theorem packets_feed_append (s : Synchronizer) (xs ys : List UInt8) :
    (s.feed (xs ++ ys)).2.packets.toList = (s.feed xs).2.packets.toList ++
      ((s.feed xs).1.feed ys).2.packets.toList.map fun e => (xs.length + e.1, e.2) := by
  rw [feed_append, packets_feedFrom]

theorem fst_feed_cons (s : Synchronizer) (b : UInt8) (xs : List UInt8) :
    (s.feed (b :: xs)).1 = ((s.push b).1.feed xs).1 := by
  simp only [feed, feedFrom]
  exact fst_feedFrom _ _ _ _

theorem packets_feed_cons (s : Synchronizer) (b : UInt8) (xs : List UInt8) :
    (s.feed (b :: xs)).2.packets.toList = ((s.push b).2.map (0, ·)).toList ++
      ((s.push b).1.feed xs).2.packets.toList.map fun e => (1 + e.1, e.2) := by
  simp only [feed, feedFrom]
  rw [packets_feedFrom]
  cases (s.push b).2 <;> simp [feed]

/-! ## One byte, by branch -/

theorem push_of_skip {s : Synchronizer} (h : 0 < s.skip) (b : UInt8) :
    s.push b = ({ s with skip := s.skip - 1 }, none) := by
  simp [push, h]

theorem push_of_idle {s : Synchronizer} (hskip : s.skip = 0) (hfill : s.bytesRead = 0)
    {b : UInt8} (hb : b ≠ hw4SyncByte) : s.push b = (s, none) := by
  simp only [bytesRead] at hfill
  simp [push, hskip, hfill, hb]

theorem push_sync_of_idle {s : Synchronizer} (hskip : s.skip = 0) (hfill : s.bytesRead = 0) :
    s.push hw4SyncByte =
      ({ s with data := s.data.set 0 hw4SyncByte (by decide), fill := 1 }, none) := by
  simp only [bytesRead] at hfill
  simp [push, hskip, hfill]

theorem push_sync_after_sync {s : Synchronizer} (hskip : s.skip = 0) (hfill : s.bytesRead = 1) :
    s.push hw4SyncByte = ({ s with fill := 0, skip := hw4SignatureSkip }, none) := by
  simp only [bytesRead] at hfill
  simp [push, hskip, hfill]

theorem push_collect {s : Synchronizer} (hskip : s.skip = 0) (hfill : 0 < s.bytesRead)
    (hroom : s.bytesRead + 1 < 19) {b : UInt8} (hb : s.bytesRead = 1 → b ≠ hw4SyncByte) :
    s.push b =
      ({ s with data := s.data.set s.fill b s.fill.isLt, fill := ⟨s.bytesRead + 1, hroom⟩ },
        none) := by
  simp only [bytesRead] at hfill hroom hb
  have hnotsync : ¬(s.fill.val = 1 ∧ b = hw4SyncByte) := fun h => hb h.1 h.2
  simp [push, hskip, Nat.ne_of_gt hfill, hnotsync, hfill, hroom, bytesRead]

/-- The nineteenth collected byte completes the packet, which is the eighteen bytes collected
and that byte. -/
theorem push_complete {s : Synchronizer} (hskip : s.skip = 0) (hfill : s.bytesRead = 18)
    (b : UInt8) :
    s.push b = ({ s with data := s.data.set s.fill b s.fill.isLt, fill := 0 },
        some (s.data.set s.fill b s.fill.isLt)) ∧
      (s.data.set s.fill b s.fill.isLt).toList = s.data.toList.take 18 ++ [b] := by
  have hfill' : s.fill.val = 18 := hfill
  refine ⟨?_, ?_⟩
  · simp [push, hskip, hfill']
  · rw [Vector.toList_set, hfill', ← take_succ_set (by simp), List.take_of_length_le (by simp)]

/-! ## Runs of bytes -/

/-- An idle synchroniser drops bytes that are not sync bytes. -/
theorem feed_of_idle {s : Synchronizer} (hskip : s.skip = 0) (hfill : s.bytesRead = 0)
    {xs : List UInt8} (hxs : ∀ b ∈ xs, b ≠ hw4SyncByte) :
    (s.feed xs).1 = s ∧ (s.feed xs).2.packets.toList = [] := by
  induction xs with
  | nil => exact ⟨rfl, rfl⟩
  | cons b xs ih =>
    have hpush := push_of_idle hskip hfill (hxs b List.mem_cons_self)
    obtain ⟨hstate, hpackets⟩ := ih fun x hx => hxs x (List.mem_cons_of_mem _ hx)
    rw [fst_feed_cons, packets_feed_cons, hpush]
    simp [hstate, hpackets]

/-- Bytes within the skip count are skipped. -/
theorem feed_of_skip {s : Synchronizer} (xs : List UInt8) (h : xs.length ≤ s.skip) :
    (s.feed xs).1 = { s with skip := s.skip - xs.length } ∧ (s.feed xs).2.packets.toList = [] := by
  induction xs generalizing s with
  | nil => exact ⟨rfl, rfl⟩
  | cons b xs ih =>
    simp only [List.length_cons] at h
    have hpush := push_of_skip (s := s) (by omega) b
    obtain ⟨hstate, hpackets⟩ := ih (s := { s with skip := s.skip - 1 }) (by simp; omega)
    rw [fst_feed_cons, packets_feed_cons, hpush]
    refine ⟨?_, by simp [hpackets]⟩
    rw [hstate]
    simp only [List.length_cons, Synchronizer.mk.injEq, true_and]
    omega

/-- A packet under way collects every byte until it is one short of complete; only a sync byte
right after the first is not collected. -/
theorem feed_collect {s : Synchronizer} (xs : List UInt8) (hskip : s.skip = 0)
    (hfill : 0 < s.bytesRead) (hroom : s.bytesRead + xs.length < 19)
    (hsig : s.bytesRead = 1 → xs.head? ≠ some hw4SyncByte) :
    (s.feed xs).1.skip = 0 ∧ (s.feed xs).1.bytesRead = s.bytesRead + xs.length ∧
      (s.feed xs).1.data.toList.take (s.bytesRead + xs.length) =
        s.data.toList.take s.bytesRead ++ xs ∧
      (s.feed xs).2.packets.toList = [] := by
  induction xs generalizing s with
  | nil => simp [feed, feedFrom, hskip]
  | cons b xs ih =>
    simp only [List.length_cons] at hroom
    have hroom1 : s.bytesRead + 1 < 19 := by omega
    have hb : s.bytesRead = 1 → b ≠ hw4SyncByte := fun h1 hb => hsig h1 (by simp [hb])
    set s' : Synchronizer :=
      { s with data := s.data.set s.fill b, fill := ⟨s.bytesRead + 1, hroom1⟩ } with hs'
    have hread' : s'.bytesRead = s.bytesRead + 1 := rfl
    -- after the first collected byte no sync byte can start a signature run
    obtain ⟨hskip', hfill', hdata', hpackets'⟩ :=
      ih (s := s') hskip (by omega) (by omega) fun h => absurd h (by omega)
    rw [fst_feed_cons, packets_feed_cons, push_collect hskip hfill hroom1 hb, ← hs']
    refine ⟨hskip', by rw [hfill', hread', List.length_cons]; omega, ?_, by simp [hpackets']⟩
    rw [List.length_cons, show s.bytesRead + (xs.length + 1) = s'.bytesRead + xs.length by omega,
      hdata', hread', Vector.toList_set]
    simp only [bytesRead]
    rw [take_succ_set (by simp)]
    simp

/-! ## Clean packets -/

/-- A list of nineteen bytes is the bytes before position `n`, the byte there, and the rest. -/
theorem toList_split (P : Vector UInt8 19) {n : Nat} (hn : n < 19) :
    P.toList = P.toList.take n ++ P[n] :: P.toList.drop (n + 1) := by
  have hlen : n < P.toList.length := by simpa using hn
  have hget : P.toList[n] = P[n] := by simp
  rw [← hget, ← List.drop_eq_getElem_cons hlen, List.take_append_drop]

/-- Skipping to the end of the skip count leaves nothing to skip and nothing collected. -/
theorem idle_feed_of_skip {s : Synchronizer} (xs : List UInt8) (hfill : s.bytesRead = 0)
    (h : xs.length = s.skip) : (s.feed xs).1.bytesRead = 0 ∧ (s.feed xs).1.skip = 0 := by
  obtain ⟨hstate, -⟩ := feed_of_skip xs (Nat.le_of_eq h)
  rw [hstate]
  exact ⟨hfill, by simp [h]⟩

/-- The last byte of a clean packet, after the other eighteen, emits it and leaves the
synchroniser idle. -/
theorem push_last_of_take {P : Vector UInt8 19} {t : Synchronizer} (hskip : t.skip = 0) (hfill : t.bytesRead = 18)
    (hdata : t.data.toList.take 18 = P.toList.take 18) :
    (t.push (getElem P 18 (by decide))).2 = some P ∧
      (t.push (getElem P 18 (by decide))).1.bytesRead = 0 ∧
      (t.push (getElem P 18 (by decide))).1.skip = 0 := by
  obtain ⟨hpush, hlist⟩ := push_complete hskip hfill P[18]
  have hP : t.data.set t.fill P[18] = P := by
    apply Vector.toList_inj.mp
    rw [hlist, hdata, toList_split P (n := 18) (by decide)]
    simp
  rw [hpush, hP]
  exact ⟨rfl, rfl, hskip⟩

/-- Two sync bytes in a row from an idle state are a signature run: they and the eleven bytes
after them emit nothing, and the synchroniser is idle again. -/
theorem feed_signature_of_idle {s : Synchronizer} (hskip : s.skip = 0) (hfill : s.bytesRead = 0)
    {ys : List UInt8} (hlen : ys.length = 11) :
    (s.feed (hw4SyncByte :: hw4SyncByte :: ys)).2.packets.toList = [] ∧
      (s.feed (hw4SyncByte :: hw4SyncByte :: ys)).1.bytesRead = 0 ∧
      (s.feed (hw4SyncByte :: hw4SyncByte :: ys)).1.skip = 0 := by
  obtain ⟨s₁, hpush₁, hread₁, hskip₁⟩ : ∃ s₁, s.push hw4SyncByte = (s₁, none) ∧
      s₁.bytesRead = 1 ∧ s₁.skip = 0 :=
    ⟨_, push_sync_of_idle hskip hfill, rfl, hskip⟩
  obtain ⟨s₂, hpush₂, hread₂, hskip₂⟩ : ∃ s₂, s₁.push hw4SyncByte = (s₂, none) ∧
      s₂.bytesRead = 0 ∧ s₂.skip = hw4SignatureSkip :=
    ⟨_, push_sync_after_sync hskip₁ hread₁, rfl, rfl⟩
  obtain ⟨-, hpackets⟩ := feed_of_skip (s := s₂) ys (by simp [hlen, hskip₂, hw4SignatureSkip])
  obtain ⟨hfill₃, hskip₃⟩ := idle_feed_of_skip ys hread₂ (by simp [hlen, hskip₂, hw4SignatureSkip])
  rw [fst_feed_cons, packets_feed_cons, hpush₁, fst_feed_cons, packets_feed_cons, hpush₂]
  exact ⟨by simp [hpackets], hfill₃, hskip₃⟩

section Clean

variable {P : Vector UInt8 19} (hclean : ∀ b ∈ P.toList.tail, b ≠ hw4SyncByte)
include hclean

/-- The bytes of a clean packet from position one on are not sync bytes. -/
theorem ne_sync_of_mem_drop {n : Nat} (hn : 0 < n) {b : UInt8} (hb : b ∈ P.toList.drop n) :
    b ≠ hw4SyncByte := by
  obtain ⟨m, rfl⟩ : ∃ m, n = m + 1 := ⟨n - 1, by omega⟩
  rw [← List.drop_tail] at hb
  exact hclean b (List.mem_of_mem_drop hb)

/-- An idle synchroniser drops what follows position `n` of a clean packet, for `n` from one on. -/
theorem feed_drop_of_idle {s : Synchronizer} (hskip : s.skip = 0) (hfill : s.bytesRead = 0)
    {n : Nat} (hn : 0 < n) : (s.feed (P.toList.drop n)).1 = s :=
  (feed_of_idle hskip hfill fun _ hb => ne_sync_of_mem_drop hclean hn hb).1

variable (hsync : getElem P 0 (by decide) = hw4SyncByte)
include hsync

/-- From an idle state, the first eighteen bytes of a clean packet are collected. -/
theorem feed_take_of_idle {s : Synchronizer} (hskip : s.skip = 0) (hfill : s.bytesRead = 0) :
    (s.feed (P.toList.take 18)).1.skip = 0 ∧ (s.feed (P.toList.take 18)).1.bytesRead = 18 ∧
      (s.feed (P.toList.take 18)).1.data.toList.take 18 = P.toList.take 18 ∧
      (s.feed (P.toList.take 18)).2.packets.toList = [] := by
  have hsplit : P.toList.take 18 = P[0] :: P.toList.tail.take 17 := by
    conv_lhs => rw [toList_split P (n := 0) (by decide)]
    simp
  have hmid : (P.toList.tail.take 17).length = 17 := by simp
  have hhead : (P.toList.tail.take 17).head? ≠ some hw4SyncByte := fun h =>
    hclean _ (List.mem_of_mem_take (List.mem_of_head? h)) rfl
  obtain ⟨s₁, hpush, hread₁, hskip₁, hwin₁⟩ : ∃ s₁, s.push P[0] = (s₁, none) ∧
      s₁.bytesRead = 1 ∧ s₁.skip = 0 ∧ s₁.data.toList.take 1 = [P[0]] := by
    refine ⟨{ s with data := s.data.set 0 hw4SyncByte, fill := 1 },
      by rw [hsync, push_sync_of_idle hskip hfill], rfl, hskip, ?_⟩
    rw [hsync, Vector.toList_set, take_succ_set (by simp), List.take_zero, List.nil_append]
  obtain ⟨hskip', hfill', hdata', hpackets'⟩ :=
    feed_collect (s := s₁) (P.toList.tail.take 17) hskip₁ (by omega) (by omega)
      fun _ => hhead
  rw [hread₁, hmid] at hfill' hdata'
  rw [hsplit, fst_feed_cons, packets_feed_cons, hpush]
  refine ⟨hskip', hfill', ?_, by simp [hpackets']⟩
  rw [hdata', hwin₁]
  rfl

/-- From an idle state a clean packet is emitted on its last byte, and the synchroniser is idle
again. -/
theorem feed_packet_of_idle {s : Synchronizer} (hskip : s.skip = 0) (hfill : s.bytesRead = 0) :
    (s.feed P.toList).1.bytesRead = 0 ∧ (s.feed P.toList).1.skip = 0 ∧
      (s.feed P.toList).2.packets.toList = [(18, P)] := by
  obtain ⟨hskip', hfill', hdata', hpackets'⟩ := feed_take_of_idle hclean hsync hskip hfill
  obtain ⟨hout, hfill'', hskip''⟩ := push_last_of_take hskip' hfill' hdata'
  have hsplit : P.toList = P.toList.take 18 ++ [P[18]] := by
    conv_lhs => rw [toList_split P (n := 18) (by decide)]
    simp
  rw [hsplit, fst_feed_append, packets_feed_append, fst_feed_cons, packets_feed_cons, hpackets',
    hout]
  exact ⟨hfill'', hskip'', by simp [feed, feedFrom]⟩

/-- Whatever was under way, one clean packet brings the synchroniser back to idle: a skip runs
out within it, a lone sync byte turns the packet's own into a signature run, and a partial packet
is completed, as junk, by its first bytes; the rest of the copy, free of sync bytes, is
dropped. -/
theorem feed_packet_idles {xs : List UInt8} {s : Synchronizer} (h : Aligned xs s) :
    (s.feed P.toList).1.bytesRead = 0 ∧ (s.feed P.toList).1.skip = 0 := by
  have hlt : s.bytesRead < 19 := s.fill.isLt
  by_cases hskip : 0 < s.skip
  · have hle : s.skip ≤ 11 := h.skip_le
    obtain ⟨hfill₁, hskip₁⟩ := idle_feed_of_skip (P.toList.take s.skip)
      (h.idle_of_skip hskip) (by simp; omega)
    rw [← List.take_append_drop s.skip P.toList, fst_feed_append,
      feed_drop_of_idle hclean hskip₁ hfill₁ hskip]
    exact ⟨hfill₁, hskip₁⟩
  have hskip : s.skip = 0 := by omega
  rcases (show s.bytesRead = 0 ∨ s.bytesRead = 1 ∨ 2 ≤ s.bytesRead by omega) with
    hfill | hfill | hfill
  · obtain ⟨hfill', hskip', -⟩ := feed_packet_of_idle hclean hsync hskip hfill
    exact ⟨hfill', hskip'⟩
  · obtain ⟨s₁, hpush, hread₁, hskip₁⟩ : ∃ s₁, s.push P[0] = (s₁, none) ∧ s₁.bytesRead = 0 ∧
        s₁.skip = hw4SignatureSkip :=
      ⟨_, by rw [hsync, push_sync_after_sync hskip hfill], rfl, rfl⟩
    obtain ⟨hfill₂, hskip₂⟩ := idle_feed_of_skip (P.toList.tail.take 11) hread₁
      (by simp [hskip₁, hw4SignatureSkip])
    have hsplit : P.toList = P[0] :: (P.toList.tail.take 11 ++ P.toList.drop 12) := by
      rw [show P.toList.drop 12 = P.toList.tail.drop 11 from List.drop_tail.symm,
        List.take_append_drop]
      conv_lhs => rw [toList_split P (n := 0) (by decide)]
      simp
    rw [hsplit, fst_feed_cons, hpush, fst_feed_append,
      feed_drop_of_idle hclean hskip₂ hfill₂ (by decide)]
    exact ⟨hfill₂, hskip₂⟩
  · have hn : 18 - s.bytesRead < 19 := by omega
    obtain ⟨hskip₁, hfill₁, -, -⟩ := feed_collect (s := s) (P.toList.take (18 - s.bytesRead))
      hskip (by omega) (by simp; omega) (by omega)
    have h18 : (s.feed (P.toList.take (18 - s.bytesRead))).1.bytesRead = 18 := by
      rw [hfill₁]
      simp
      omega
    obtain ⟨hpush, -⟩ := push_complete hskip₁ h18 P[18 - s.bytesRead]
    rw [toList_split P hn, fst_feed_append, fst_feed_cons, hpush]
    dsimp only
    rw [feed_drop_of_idle hclean (by exact hskip₁) rfl (by omega)]
    exact ⟨rfl, hskip₁⟩

/-- From an idle state, `k` copies of a clean packet are emitted as `k` packets, each on the last
byte of its copy, and the synchroniser is idle again. -/
theorem feed_copies_of_idle {s : Synchronizer} (hskip : s.skip = 0) (hfill : s.bytesRead = 0)
    (k : Nat) :
    (s.feed (List.replicate k P.toList).flatten).1.bytesRead = 0 ∧
      (s.feed (List.replicate k P.toList).flatten).1.skip = 0 ∧
      (s.feed (List.replicate k P.toList).flatten).2.packets.toList =
        (List.range k).map fun i => (19 * i + 18, P) := by
  induction k with
  | zero => simp [feed, feedFrom, hskip, hfill]
  | succ k ih =>
    obtain ⟨hfill', hskip', hpackets'⟩ := ih
    obtain ⟨hfill'', hskip'', hpackets''⟩ := feed_packet_of_idle hclean hsync hskip' hfill'
    rw [List.replicate_succ', List.flatten_append, List.flatten_singleton, fst_feed_append,
      packets_feed_append, hpackets', hpackets'']
    refine ⟨hfill'', hskip'', ?_⟩
    simp [List.range_succ, Nat.mul_comm]

end Clean

/-- From every state the byte stream can leave the synchroniser in, two copies of a clean packet
end with the packet emitted on the last byte and the synchroniser idle; from an idle state, `k`
copies are emitted as `k` packets, each on the last byte of its copy; and from an idle state a
signature run, two sync bytes and the eleven bytes after them, emits nothing and leaves it
idle. -/
theorem feed_recovers_after_two_copies (P : Vector UInt8 19)
    (hsync : getElem P 0 (by decide) = hw4SyncByte)
    (hclean : ∀ b ∈ P.toList.tail, b ≠ hw4SyncByte) :
    (∀ xs : List UInt8,
      (((idle.feed xs).1.feed (P.toList ++ P.toList.take 18)).1.push
        (getElem P 18 (by decide))).2 = some P ∧
      (((idle.feed xs).1.feed (P.toList ++ P.toList.take 18)).1.push
        (getElem P 18 (by decide))).1.bytesRead = 0 ∧
      (((idle.feed xs).1.feed (P.toList ++ P.toList.take 18)).1.push
        (getElem P 18 (by decide))).1.skip = 0) ∧
    (∀ s : Synchronizer, s.bytesRead = 0 → s.skip = 0 → ∀ k : Nat,
      (s.feed (List.replicate k P.toList).flatten).2.packets.toList =
        (List.range k).map fun i => (19 * i + 18, P)) ∧
    (∀ s : Synchronizer, s.bytesRead = 0 → s.skip = 0 → ∀ ys : List UInt8, ys.length = 11 →
      (s.feed (hw4SyncByte :: hw4SyncByte :: ys)).2.packets.toList = [] ∧
      (s.feed (hw4SyncByte :: hw4SyncByte :: ys)).1.bytesRead = 0 ∧
      (s.feed (hw4SyncByte :: hw4SyncByte :: ys)).1.skip = 0) := by
  refine ⟨fun xs => ?_, fun s hfill hskip k => (feed_copies_of_idle hclean hsync hskip hfill k).2.2,
    fun s hfill hskip ys hlen => feed_signature_of_idle hskip hfill hlen⟩
  obtain ⟨hfill₁, hskip₁⟩ := feed_packet_idles hclean hsync (delivered_feed xs).aligned
  obtain ⟨hskip₂, hfill₂, hdata₂, -⟩ := feed_take_of_idle hclean hsync hskip₁ hfill₁
  rw [fst_feed_append]
  exact push_last_of_take hskip₂ hfill₂ hdata₂

/-- The recovery at a plausible packet of a cruising ESC. -/
theorem feed_recovers_after_two_copies_cruising :
    let P : Vector UInt8 19 := #v[0x9B, 0x00, 0x01, 0x02, 0x01, 0x00, 0x01, 0x00, 0x00, 0x27, 0x10,
      0x07, 0xD0, 0x01, 0x20, 0x0D, 0x31, 0x0B, 0xB8]
    getElem P 0 (by decide) = hw4SyncByte ∧ (∀ b ∈ P.toList.tail, b ≠ hw4SyncByte) ∧
    (∀ xs : List UInt8,
      (((idle.feed xs).1.feed (P.toList ++ P.toList.take 18)).1.push
        (getElem P 18 (by decide))).2 = some P ∧
      (((idle.feed xs).1.feed (P.toList ++ P.toList.take 18)).1.push
        (getElem P 18 (by decide))).1.bytesRead = 0 ∧
      (((idle.feed xs).1.feed (P.toList ++ P.toList.take 18)).1.push
        (getElem P 18 (by decide))).1.skip = 0) ∧
    (∀ s : Synchronizer, s.bytesRead = 0 → s.skip = 0 → ∀ k : Nat,
      (s.feed (List.replicate k P.toList).flatten).2.packets.toList =
        (List.range k).map fun i => (19 * i + 18, P)) ∧
    (∀ s : Synchronizer, s.bytesRead = 0 → s.skip = 0 → ∀ ys : List UInt8, ys.length = 11 →
      (s.feed (hw4SyncByte :: hw4SyncByte :: ys)).2.packets.toList = [] ∧
      (s.feed (hw4SyncByte :: hw4SyncByte :: ys)).1.bytesRead = 0 ∧
      (s.feed (hw4SyncByte :: hw4SyncByte :: ys)).1.skip = 0) :=
  ⟨rfl, by decide +kernel, feed_recovers_after_two_copies _ rfl (by decide +kernel)⟩

example :
    let P : Vector UInt8 19 := #v[0x9B, 0x00, 0x01, 0x02, 0x01, 0x00, 0x01, 0x00, 0x00, 0x27, 0x10,
      0x07, 0xD0, 0x01, 0x20, 0x0D, 0x31, 0x0B, 0xB8]
    (idle.feed ([0x9B, 0x9B, 1, 2] ++ P.toList ++ P.toList)).2.packets.toList.map Prod.fst = [41] ∧
      (idle.feed ([0x9B, 1, 2, 3, 4] ++ P.toList ++ P.toList)).2.packets.toList.map Prod.fst =
        [18, 42] := by
  decide

end Synchronizer

end EscTelemetry
