/-!
# The capture buffer of the KISS receive path

Replies arrive one byte at a time from the serial receive callback. The poller arms the
buffer for a frame of a given length (`startCapture`, at most 32 bytes); each received
byte is stored at the cursor until the armed length is reached, and bytes beyond it are
dropped. Re-arming moves the cursor back to the start but does not clear the slots, so a
snapshot shows whatever the slots last held.

A fresh buffer is armed for zero bytes, so it is complete before any capture starts. The
cursor never passes the armed length, and the armed length never passes the capacity:
both are fields of the structure.
-/

namespace EscTelemetry

/-- Slots of the capture buffer. -/
def captureCapacity : Nat := 32

/-- The capture buffer: data slots, armed length and cursor. -/
structure CaptureBuffer where
  slots : Vector UInt8 captureCapacity := Vector.replicate captureCapacity 0
  length : Nat := 0
  position : Nat := 0
  length_le : length ≤ captureCapacity := by decide
  position_le : position ≤ length := by decide

namespace CaptureBuffer

/-- Re-arm for a frame of `length` bytes, at most the capacity. -/
def startCapture (b : CaptureBuffer) (length : Nat) : CaptureBuffer :=
  { b with length := min length captureCapacity, position := 0,
           length_le := Nat.min_le_right _ _, position_le := Nat.zero_le _ }

/-- Store one received byte, unless the frame is already full. -/
def push (b : CaptureBuffer) (byte : UInt8) : CaptureBuffer :=
  if h : b.position < b.length then
    { b with slots := b.slots.set b.position byte (by have := b.length_le; omega),
             position := b.position + 1, position_le := h }
  else b

/-- Whether the armed frame is complete. -/
def isComplete (b : CaptureBuffer) : Bool := b.position == b.length

/-- Bytes captured since the buffer was armed. -/
def bytesRead (b : CaptureBuffer) : Nat := b.position

/-- The first `n` slots; positions past the capacity read as zero. -/
def snapshot (b : CaptureBuffer) (n : Nat) : List UInt8 :=
  (List.range n).map fun i => if h : i < captureCapacity then b.slots[i] else 0

/-- The first ten slots, the size of a KISS frame. -/
def frame (b : CaptureBuffer) : Vector UInt8 10 :=
  Vector.ofFn fun i =>
    have : i.val < captureCapacity := by have := i.isLt; unfold captureCapacity; omega
    b.slots[i.val]

@[simp]
theorem bytesRead_startCapture (b : CaptureBuffer) (length : Nat) :
    (b.startCapture length).bytesRead = 0 := rfl

@[simp]
theorem length_startCapture (b : CaptureBuffer) (length : Nat) :
    (b.startCapture length).length = min length captureCapacity := rfl

/-- A complete frame takes no more bytes. -/
theorem push_of_isComplete {b : CaptureBuffer} (h : b.isComplete = true) (byte : UInt8) :
    b.push byte = b := by
  simp only [isComplete, beq_iff_eq] at h
  simp [push, h]

/-- Each byte moves the cursor by one, up to the armed length. -/
theorem bytesRead_push (b : CaptureBuffer) (byte : UInt8) :
    (b.push byte).bytesRead = min (b.bytesRead + 1) b.length := by
  have := b.position_le
  unfold push bytesRead
  split
  · show b.position + 1 = _
    omega
  · omega

end CaptureBuffer

end EscTelemetry
