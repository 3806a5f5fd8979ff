/-!
# A byte FIFO

The receive FIFO of a UART: bytes go in at the back and come out at the front. It is kept
as two lists, the front in order and the back reversed, so that putting `k` bytes in costs
time in proportion to `k` however long the FIFO already is, and taking bytes out costs
constant time on average.

`Fifo.toList` is the view, oldest byte first, and every operation is stated on it:
`toList_pushAll` (bytes go to the end), `toList_of_pop?` and `pop?_eq_none_iff` (the
oldest byte comes out), `toList_keepNewest` (the newest `n` bytes stay), `size_eq_length`.
-/

namespace EscTelemetry

/-- A FIFO of bytes: `front` in order, then `back` reversed. -/
structure Fifo where
  front : List UInt8 := []
  back : List UInt8 := []

namespace Fifo

/-- The bytes in the FIFO, oldest first. -/
def toList (q : Fifo) : List UInt8 := q.front ++ q.back.reverse

/-- How many bytes are waiting. -/
def size (q : Fifo) : Nat := q.front.length + q.back.length

/-- Put bytes in at the back, first of them first. -/
def pushAll (q : Fifo) (bytes : List UInt8) : Fifo := { q with back := bytes.reverse ++ q.back }

/-- Take the oldest byte out. -/
def pop? (q : Fifo) : Option (UInt8 × Fifo) :=
  match q.front with
  | b :: rest => some (b, { q with front := rest })
  | [] =>
    match q.back.reverse with
    | b :: rest => some (b, ⟨rest, []⟩)
    | [] => none

/-- Keep only the newest `n` bytes. -/
def keepNewest (q : Fifo) (n : Nat) : Fifo :=
  if q.size ≤ n then q else ⟨q.toList.drop (q.size - n), []⟩

@[simp]
theorem toList_empty : ({} : Fifo).toList = [] := rfl

theorem size_eq_length (q : Fifo) : q.size = q.toList.length := by
  simp [size, toList]

@[simp]
theorem toList_pushAll (q : Fifo) (bytes : List UInt8) :
    (q.pushAll bytes).toList = q.toList ++ bytes := by
  simp [pushAll, toList]

theorem toList_of_pop? {q r : Fifo} {b : UInt8} (h : q.pop? = some (b, r)) :
    q.toList = b :: r.toList := by
  unfold pop? at h
  split at h
  · rename_i rest hf
    simp only [Option.some.injEq, Prod.mk.injEq] at h
    obtain ⟨rfl, rfl⟩ := h
    simp [toList, hf]
  · rename_i hf
    split at h
    · rename_i rest hb
      simp only [Option.some.injEq, Prod.mk.injEq] at h
      obtain ⟨rfl, rfl⟩ := h
      simp [toList, hf, hb]
    · simp at h

theorem pop?_eq_none_iff (q : Fifo) : q.pop? = none ↔ q.toList = [] := by
  unfold pop?
  split
  · rename_i rest hf
    simp [toList, hf]
  · rename_i hf
    split
    · rename_i rest hb
      simp [toList, hf, hb]
    · rename_i hb
      simp [toList, hf, hb]

theorem toList_keepNewest (q : Fifo) (n : Nat) :
    (q.keepNewest n).toList = q.toList.drop (q.toList.length - n) := by
  unfold keepNewest
  rw [← size_eq_length]
  split
  · rename_i h
    rw [show q.size - n = 0 by omega, List.drop_zero]
  · simp [toList]

end Fifo

end EscTelemetry
