import EscTelemetry.Hw4.Sync
import Mathlib.Data.List.Induction

/-!
# What the Hobbywing synchroniser emits

Whatever bytes arrive, the synchroniser stays in shape and every packet it emits is a real
stretch of the stream. `Synchronizer.push_cases` says once what one byte can do; two
invariants are kept by every byte:

* `Aligned xs s`: after the bytes `xs`, at most eleven bytes are still to be skipped, nothing is
  collected while skipping, and the bytes collected so far are the last ones of `xs`, starting
  with a sync byte not followed by another;
* `Delivered xs s ps`: moreover every emitted packet is the nineteen bytes ending at the
  position it was emitted on, and the packets are at least nineteen positions apart.

`Synchronizer.feed_reassembles_windows` reads them off for a run from the idle state, together
with the fill levels the run reports after each byte.
-/

namespace EscTelemetry

namespace Synchronizer

/-! ## Feeding byte by byte -/

theorem feedFrom_append (s : Synchronizer) (start : Nat) (acc : Trace) (xs ys : List UInt8) :
    feedFrom s start acc (xs ++ ys) =
      feedFrom (feedFrom s start acc xs).1 (start + xs.length) (feedFrom s start acc xs).2 ys := by
  induction xs generalizing s start acc with
  | nil => rfl
  | cons b xs ih =>
    simp only [List.cons_append, feedFrom, ih, List.length_cons]
    rw [Nat.add_assoc, Nat.add_comm 1]

theorem feed_append (s : Synchronizer) (xs ys : List UInt8) :
    s.feed (xs ++ ys) = feedFrom (s.feed xs).1 xs.length (s.feed xs).2 ys := by
  rw [feed, feedFrom_append, Nat.zero_add]
  rfl

/-- One more byte takes the state one push further. -/
theorem feed_append_singleton_fst (s : Synchronizer) (xs : List UInt8) (b : UInt8) :
    (s.feed (xs ++ [b])).1 = ((s.feed xs).1.push b).1 := by
  rw [feed_append]
  rfl

/-- One more byte adds to the packets the one its push returns, at its position. -/
theorem packets_feed_append_singleton (s : Synchronizer) (xs : List UInt8) (b : UInt8) :
    (s.feed (xs ++ [b])).2.packets.toList =
      (s.feed xs).2.packets.toList ++ (((s.feed xs).1.push b).2.map (xs.length, ·)).toList := by
  rw [feed_append]
  simp only [feedFrom]
  cases ((s.feed xs).1.push b).2 <;> simp

/-- One more byte adds the fill level after its push to the reported ones. -/
theorem fills_feed_append_singleton (s : Synchronizer) (xs : List UInt8) (b : UInt8) :
    (s.feed (xs ++ [b])).2.fills = (s.feed xs).2.fills.push ((s.feed xs).1.push b).1.bytesRead := by
  rw [feed_append]
  rfl

theorem size_fills_feed (s : Synchronizer) (xs : List UInt8) :
    (s.feed xs).2.fills.size = xs.length := by
  induction xs using List.reverseRecOn with
  | nil => rfl
  | append_singleton xs b ih => simp [fills_feed_append_singleton, ih]

/-- The fill levels reported are, byte by byte, those of the state after that byte. -/
theorem getElem?_fills_feed (s : Synchronizer) {xs : List UInt8} {n : Nat} (hn : n < xs.length) :
    (s.feed xs).2.fills[n]? = some (s.feed (xs.take (n + 1))).1.bytesRead := by
  induction xs using List.reverseRecOn generalizing n with
  | nil => simp at hn
  | append_singleton xs b ih =>
    rw [fills_feed_append_singleton, Array.getElem?_push, size_fills_feed]
    split
    · subst n
      rw [List.take_of_length_le (by simp), feed_append_singleton_fst]
    · have hlt : n < xs.length := by simp at hn; omega
      rw [ih hlt, List.take_append_of_le_length (by omega)]

/-! ## One byte -/

/-- Everything one byte can do, by the branch of `push` it takes: count down a skip, start a
packet on a sync byte, drop a doubled sync byte into a skip of eleven, collect a byte, emit a
complete packet, or drop a byte that starts nothing. -/
theorem push_cases (s : Synchronizer) (b : UInt8) :
    (0 < s.skip ∧ s.push b = ({ s with skip := s.skip - 1 }, none)) ∨
    (s.skip = 0 ∧ s.bytesRead = 0 ∧ b = hw4SyncByte ∧
      s.push b = ({ s with data := s.data.set 0 b (by decide), fill := 1 }, none)) ∨
    (s.skip = 0 ∧ s.bytesRead = 1 ∧ b = hw4SyncByte ∧
      s.push b = ({ s with fill := 0, skip := hw4SignatureSkip }, none)) ∨
    (s.skip = 0 ∧ 0 < s.bytesRead ∧ (s.bytesRead = 1 → b ≠ hw4SyncByte) ∧
      ∃ h : s.bytesRead + 1 < 19,
        s.push b = ({ s with
          data := s.data.set s.fill b s.fill.isLt, fill := ⟨s.bytesRead + 1, h⟩ }, none)) ∨
    (s.skip = 0 ∧ s.bytesRead = 18 ∧
      s.push b = ({ s with data := s.data.set s.fill b s.fill.isLt, fill := 0 },
        some (s.data.set s.fill b s.fill.isLt))) ∨
    (s.skip = 0 ∧ s.bytesRead = 0 ∧ b ≠ hw4SyncByte ∧ s.push b = (s, none)) := by
  have hlt := s.fill.isLt
  unfold push bytesRead
  split_ifs with hskip hstart hsig hfill hroom
  · exact Or.inl ⟨hskip, rfl⟩
  · exact Or.inr (Or.inl ⟨by omega, hstart.1, hstart.2, rfl⟩)
  · exact Or.inr (Or.inr (Or.inl ⟨by omega, hsig.1, hsig.2, rfl⟩))
  · exact Or.inr (Or.inr (Or.inr (Or.inl ⟨by omega, hfill, fun h1 hb => hsig ⟨h1, hb⟩, hroom, rfl⟩)))
  · exact Or.inr (Or.inr (Or.inr (Or.inr (Or.inl ⟨by omega, by omega, rfl⟩))))
  · exact Or.inr (Or.inr (Or.inr (Or.inr (Or.inr
      ⟨by omega, by omega, fun hb => hstart ⟨by omega, hb⟩, rfl⟩))))

/-- The bytes collected grow by one or drop to none. -/
theorem bytesRead_push_le (s : Synchronizer) (b : UInt8) :
    (s.push b).1.bytesRead ≤ s.bytesRead + 1 := by
  rcases push_cases s b with ⟨-, heq⟩ | ⟨-, -, -, heq⟩ | ⟨-, -, -, heq⟩ | ⟨-, -, -, _, heq⟩ |
    ⟨-, -, heq⟩ | ⟨-, -, -, heq⟩ <;> rw [heq] <;> simp [bytesRead]

/-- Only the nineteenth collected byte emits a packet: the bytes collected with it, after
which nothing is collected. -/
theorem push_of_eq_some {s : Synchronizer} {b : UInt8} {p : Vector UInt8 19}
    (hp : (s.push b).2 = some p) :
    s.bytesRead = 18 ∧ p = s.data.set s.fill b s.fill.isLt ∧ (s.push b).1.bytesRead = 0 := by
  rcases push_cases s b with ⟨-, heq⟩ | ⟨-, -, -, heq⟩ | ⟨-, -, -, heq⟩ | ⟨-, -, -, _, heq⟩ |
    ⟨-, hfill, heq⟩ | ⟨-, -, -, heq⟩ <;> simp [heq] at hp
  rw [heq]
  exact ⟨hfill, hp.symm, rfl⟩

/-- Setting entry `k` of a list and keeping `k + 1` entries is keeping `k` and adding the new
one. -/
theorem take_succ_set {l : List UInt8} {k : Nat} (hk : k < l.length) (b : UInt8) :
    (l.set k b).take (k + 1) = l.take k ++ [b] := by
  rw [List.take_add_one, List.getElem?_set_self hk, List.take_set_of_le (Nat.le_refl k)]
  rfl

theorem suffix_append_singleton {l₁ l₂ : List UInt8} (h : l₁ <:+ l₂) (b : UInt8) :
    l₁ ++ [b] <:+ l₂ ++ [b] := by
  obtain ⟨t, rfl⟩ := h
  exact ⟨t, by simp⟩

/-! ## The state invariant -/

/-- After the bytes `xs`, the state `s` skips at most eleven more bytes, collects nothing while
it skips, and holds as its collected bytes the last ones of `xs`, a sync byte first and not a
sync byte second. -/
structure Aligned (xs : List UInt8) (s : Synchronizer) : Prop where
  skip_le : s.skip ≤ hw4SignatureSkip
  idle_of_skip : 0 < s.skip → s.bytesRead = 0
  window_suffix : s.data.toList.take s.bytesRead <:+ xs
  sync_first : 0 < s.bytesRead → getElem s.data 0 (by decide) = hw4SyncByte
  second_ne : 1 < s.bytesRead → getElem s.data 1 (by decide) ≠ hw4SyncByte

theorem aligned_idle : Aligned [] idle where
  skip_le := by decide
  idle_of_skip := by decide
  window_suffix := by simp [idle, bytesRead]
  sync_first := by decide
  second_ne := by decide

/-- A state with nothing collected and nothing to skip is aligned after any bytes. -/
theorem aligned_of_empty {xs : List UInt8} {s : Synchronizer} (hfill : s.bytesRead = 0)
    (hskip : s.skip ≤ hw4SignatureSkip) : Aligned xs s where
  skip_le := hskip
  idle_of_skip := fun _ => hfill
  window_suffix := by simp [hfill]
  sync_first := by omega
  second_ne := by omega

theorem Aligned.push {xs : List UInt8} {s : Synchronizer} (h : Aligned xs s) (b : UInt8) :
    Aligned (xs ++ [b]) (s.push b).1 := by
  rcases push_cases s b with ⟨hskip, heq⟩ | ⟨hskip, hfill, hb, heq⟩ | ⟨hskip, hfill, hb, heq⟩ |
    ⟨hskip, hfill, hsecond, hroom, heq⟩ | ⟨hskip, hfill, heq⟩ | ⟨hskip, hfill, hb, heq⟩ <;>
    rw [heq]
  · exact aligned_of_empty (h.idle_of_skip hskip) (by have := h.skip_le; simp; omega)
  · refine ⟨by simp [hskip], by simp [hskip], ?_, fun _ => by simp [hb], by simp [bytesRead]⟩
    have hone : (s.data.set 0 b).toList.take 1 = [b] := by
      rw [Vector.toList_set, take_succ_set (by simp) b, List.take_zero, List.nil_append]
    show (s.data.set 0 b).toList.take 1 <:+ xs ++ [b]
    rw [hone]
    exact List.suffix_append xs [b]
  · exact aligned_of_empty rfl (Nat.le_refl _)
  · have hk : s.fill.val < s.data.toList.length := by simp
    refine ⟨by simp [hskip], by simp [hskip], ?_, fun _ => ?_, fun _ => ?_⟩
    · simp only [bytesRead, Vector.toList_set, take_succ_set hk]
      exact suffix_append_singleton h.window_suffix b
    · rw [Vector.getElem_set, if_neg (by simp [bytesRead] at hfill ⊢; omega)]
      exact h.sync_first hfill
    · rw [Vector.getElem_set]
      split
      · exact hsecond (by simp [bytesRead]; omega)
      · exact h.second_ne (by simp [bytesRead] at *; omega)
  · exact aligned_of_empty rfl (by simp [hskip])
  · exact aligned_of_empty hfill (by simp [hskip])

/-- A packet is emitted on the nineteenth collected byte, and it is the last nineteen bytes
of the stream, a sync byte first and not a sync byte second. -/
theorem Aligned.push_eq_some {xs : List UInt8} {s : Synchronizer} (h : Aligned xs s) {b : UInt8}
    {p : Vector UInt8 19} (hp : (s.push b).2 = some p) :
    s.bytesRead = 18 ∧ p.toList <:+ xs ++ [b] ∧ getElem p 0 (by decide) = hw4SyncByte ∧
      getElem p 1 (by decide) ≠ hw4SyncByte := by
  obtain ⟨hfill, rfl, -⟩ := push_of_eq_some hp
  have hk : s.fill.val < s.data.toList.length := by simp
  have hfill' : s.fill.val = 18 := hfill
  refine ⟨hfill, ?_, ?_, ?_⟩
  · have hall : (s.data.set s.fill b).toList =
        (s.data.toList.set s.fill b).take (s.fill.val + 1) := by
      rw [Vector.toList_set, List.take_of_length_le (by simp; omega)]
    rw [hall, take_succ_set hk]
    exact suffix_append_singleton h.window_suffix b
  · rw [Vector.getElem_set, if_neg (by omega)]
    exact h.sync_first (by omega)
  · rw [Vector.getElem_set, if_neg (by omega)]
    exact h.second_ne (by omega)

/-! ## The run invariant -/

/-- The packet `e.2`, emitted on byte `e.1` of the stream `xs`, is the nineteen bytes ending
there, a sync byte first and not a sync byte second. -/
structure Frames (xs : List UInt8) (e : Nat × Vector UInt8 19) : Prop where
  lt_length : e.1 < xs.length
  suffix : e.2.toList <:+ xs.take (e.1 + 1)
  sync_first : getElem e.2 0 (by decide) = hw4SyncByte
  second_ne : getElem e.2 1 (by decide) ≠ hw4SyncByte

/-- Later bytes do not change what an emitted packet was. -/
theorem Frames.append {xs : List UInt8} {e : Nat × Vector UInt8 19} (h : Frames xs e)
    (ys : List UInt8) : Frames (xs ++ ys) e := by
  obtain ⟨hlt, hsuf, hsync, hsecond⟩ := h
  refine ⟨by simp; omega, ?_, hsync, hsecond⟩
  rwa [List.take_append_of_le_length (by omega)]

/-- After the bytes `xs`, in state `s`, with the packets `ps` emitted with their positions:
`s` is aligned, each packet frames the bytes it was emitted on, the packets are at least
nineteen positions apart, and the bytes being collected all came after the last packet. -/
structure Delivered (xs : List UInt8) (s : Synchronizer) (ps : List (Nat × Vector UInt8 19)) :
    Prop where
  aligned : Aligned xs s
  framed : ∀ e ∈ ps, Frames xs e
  spaced : (ps.map Prod.fst).Pairwise fun i j => i + 19 ≤ j
  before_window : ∀ e ∈ ps, e.1 + s.bytesRead < xs.length

theorem Delivered.push {xs : List UInt8} {s : Synchronizer} {ps : List (Nat × Vector UInt8 19)}
    (h : Delivered xs s ps) (b : UInt8) :
    Delivered (xs ++ [b]) (s.push b).1 (ps ++ ((s.push b).2.map (xs.length, ·)).toList) := by
  have hstep := h.aligned.push b
  have hold : ∀ e ∈ ps, Frames (xs ++ [b]) e := fun e he => (h.framed e he).append [b]
  cases hout : (s.push b).2 with
  | none =>
    refine ⟨hstep, by simpa using hold, by simpa using h.spaced, fun e he => ?_⟩
    have hbefore := h.before_window e (by simpa using he)
    have hgrow := bytesRead_push_le s b
    simp
    omega
  | some p =>
    obtain ⟨hfull, hsuf, hsync, hsecond⟩ := h.aligned.push_eq_some hout
    have hidle := (push_of_eq_some hout).2.2
    refine ⟨hstep, fun e he => ?_, ?_, fun e he => ?_⟩
    · simp only [Option.map_some, Option.toList_some, List.mem_append, List.mem_singleton] at he
      rcases he with he | rfl
      · exact hold e he
      · refine ⟨by simp, ?_, hsync, hsecond⟩
        rw [List.take_of_length_le (by simp)]
        exact hsuf
    · simp only [Option.map_some, Option.toList_some, List.map_append, List.map_cons,
        List.map_nil, List.pairwise_append, List.pairwise_singleton, List.mem_singleton,
        forall_eq, true_and]
      refine ⟨h.spaced, fun i hi => ?_⟩
      obtain ⟨e, he, rfl⟩ := List.mem_map.mp hi
      have := h.before_window e he
      omega
    · rw [hidle]
      simp only [Option.map_some, Option.toList_some, List.mem_append, List.mem_singleton] at he
      rcases he with he | rfl
      · have := h.before_window e he
        simp
        omega
      · simp

theorem delivered_feed (xs : List UInt8) :
    Delivered xs (idle.feed xs).1 (idle.feed xs).2.packets.toList := by
  induction xs using List.reverseRecOn with
  | nil => exact ⟨aligned_idle, by simp [feed, feedFrom], by simp [feed, feedFrom],
      by simp [feed, feedFrom]⟩
  | append_singleton xs b ih =>
    rw [feed_append_singleton_fst, packets_feed_append_singleton]
    exact ih.push b

/-- Nineteen bytes that end the first `i + 1` bytes of a stream are the stream's bytes
`i - 18` to `i`. -/
theorem eq_slice_of_suffix {bytes : List UInt8} {i : Nat} {p : Vector UInt8 19}
    (hi : i < bytes.length) (hp : p.toList <:+ bytes.take (i + 1)) :
    18 ≤ i ∧ p.toList = (bytes.drop (i - 18)).take 19 := by
  have hlen : (bytes.take (i + 1)).length = i + 1 := by simp; omega
  have h18 : 18 ≤ i := by
    have := hp.length_le
    simp only [Vector.length_toList, hlen] at this
    omega
  have hstart : i + 1 - 19 = i - 18 := by omega
  have hcount : i + 1 - (i - 18) = 19 := by omega
  refine ⟨h18, ?_⟩
  rw [List.suffix_iff_eq_drop.mp hp, hlen, Vector.length_toList, hstart, List.drop_take, hcount]

/-- What the synchroniser does with any byte stream from the idle state: (a) it never skips
more than eleven bytes, collects nothing while skipping, and never holds more than eighteen
bytes; (b) each emitted packet is the nineteen bytes of the stream ending at the byte that
completed it, a sync byte first and not a sync byte second; (c) emitted packets are at least
nineteen positions apart, so their windows are disjoint; (d) after each byte it reports as
its fill level the number of bytes it holds, and those are the last bytes of the stream so
far. -/
theorem feed_reassembles_windows (bytes : List UInt8) :
    ((idle.feed bytes).1.skip ≤ hw4SignatureSkip ∧
      (0 < (idle.feed bytes).1.skip → (idle.feed bytes).1.bytesRead = 0) ∧
      (idle.feed bytes).1.bytesRead < hw4PacketSize) ∧
    (∀ e ∈ (idle.feed bytes).2.packets.toList,
      18 ≤ e.1 ∧ e.1 < bytes.length ∧ e.2.toList = (bytes.drop (e.1 - 18)).take 19 ∧
        getElem e.2 0 (by decide) = hw4SyncByte ∧ getElem e.2 1 (by decide) ≠ hw4SyncByte) ∧
    ((idle.feed bytes).2.packets.toList.map Prod.fst).Pairwise (fun i j => i + 19 ≤ j) ∧
    ((idle.feed bytes).2.fills.size = bytes.length ∧
      ∀ n < bytes.length,
        (idle.feed bytes).2.fills[n]? = some (idle.feed (bytes.take (n + 1))).1.bytesRead ∧
        (idle.feed (bytes.take (n + 1))).1.data.toList.take
            (idle.feed (bytes.take (n + 1))).1.bytesRead <:+ bytes.take (n + 1)) := by
  have hrun := delivered_feed bytes
  refine ⟨⟨hrun.aligned.skip_le, hrun.aligned.idle_of_skip, (idle.feed bytes).1.fill.isLt⟩,
    fun e he => ?_, hrun.spaced, size_fills_feed idle bytes,
    fun n hn => ⟨getElem?_fills_feed idle hn, ?_⟩⟩
  · obtain ⟨hlt, hsuf, hsync, hsecond⟩ := hrun.framed e he
    obtain ⟨hle, hslice⟩ := eq_slice_of_suffix hlt hsuf
    exact ⟨hle, hlt, hslice, hsync, hsecond⟩
  · exact (delivered_feed (bytes.take (n + 1))).aligned.window_suffix

end Synchronizer

end EscTelemetry
