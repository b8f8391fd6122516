import FrameGrabber.Machine
import FrameGrabber.PixelFormat

/-!
# Buffers the hardware writes into

A buffer is one slot of a ring: a fixed piece of memory, the length of the
payload at its start, and what the transport reported about that payload. Its
identity is the generation of the ring that allocated it together with its
place in the ring, so that a buffer left over from an earlier ring is never
mistaken for one of the current.

Length, status, image information and memory are four separate pieces of
state, and each operation below says which of them it touches.

A new buffer of any capacity can be spoken of. A program that asks for one of more
bytes than memory can have panics.
-/

namespace FrameGrabber

abbrev Bytes := Array UInt8

/-- How the transport completed a buffer. -/
inductive BufferStatus where
  | success
  /-- The frame is incomplete, for example because packets are missing. -/
  | timeout
  | aborted
  deriving DecidableEq, Repr, Inhabited

def BufferStatus.name : BufferStatus → String
  | success => "Success"
  | timeout => "Timeout"
  | aborted => "Aborted"

/-- A slot of a ring: the ring's generation and the place in it. -/
structure BufferId where
  generation : UInt32
  index : Nat
  deriving DecidableEq, Repr, Inhabited

/-- Geometry and format that the transport reports for one payload. -/
structure ImageInfo where
  width : UInt32
  height : UInt32
  format : PixelFormat
  deriving DecidableEq, Repr, Inhabited

/-- One piece of memory that travels between the ring and the hardware. -/
structure Buffer where
  id : BufferId
  memory : Bytes
  /-- Length of the payload at the start of the memory. -/
  length : Nat
  status : BufferStatus
  info : Option ImageInfo
  deriving DecidableEq, Repr, Inhabited

namespace Buffer

/-- A fresh buffer: zeroed memory, no payload. -/
def new (id : BufferId) (capacity : Nat) : Buffer :=
  ⟨id, Array.replicate capacity 0, 0, .success, none⟩

/-- A fresh buffer, or none where the program panics over its size. -/
def new? (id : BufferId) (capacity : Nat) : Option Buffer :=
  room? capacity (new id capacity)

def capacity (b : Buffer) : Nat := b.memory.size

/-- The payload, the first `length` bytes of the memory. -/
def payload (b : Buffer) : Bytes := b.memory.extract 0 b.length

/-- Grant a payload region of `n` bytes. The bytes in it are the ones that
earlier writes left there; a region beyond the capacity is refused. -/
def grant? (b : Buffer) (n : Nat) : Option Buffer :=
  if n ≤ b.capacity then some { b with length := n } else none

/-- Overwrite the start of the memory; what lies beyond the new bytes stays. -/
def overwrite (b : Buffer) (bytes : Bytes) : Buffer :=
  { b with memory := bytes ++ b.memory.extract bytes.size b.memory.size }

/-- Copy a whole payload in. One that does not fit leaves an empty payload and
marks the buffer aborted. The answer says whether it fitted. -/
def write (b : Buffer) (bytes : Bytes) : Bool × Buffer :=
  match b.grant? bytes.size with
  | some granted => (true, { granted.overwrite bytes with status := .success })
  | none => (false, { b with length := 0, status := .aborted })

def setStatus (b : Buffer) (s : BufferStatus) : Buffer := { b with status := s }

def setInfo (b : Buffer) (i : ImageInfo) : Buffer := { b with info := some i }

/-- Forget the last frame before the buffer goes back to the hardware: no
payload, no failure, no image information. The memory is left alone. -/
def recycle (b : Buffer) : Buffer := { b with length := 0, status := .success, info := none }

/-! A region that is granted is as long as was asked. Overwriting goes by the start of the
memory alone, so it has three short laws: what is at each place afterwards, that bytes which
fit leave the capacity as it is, and that bytes as long as the payload are the payload. -/

theorem size_payload_granted {b : Buffer} {n : Nat} (h : n ≤ b.capacity) :
    ({ b with length := n } : Buffer).payload.size = n := by
  simp only [capacity] at h
  simp only [payload, Array.size_extract]
  omega

theorem overwrite_getElem? (b : Buffer) (bytes : Bytes) (place : Nat) :
    (b.overwrite bytes).memory[place]? =
      if place < bytes.size then bytes[place]? else b.memory[place]? := by
  rw [overwrite, Array.getElem?_append]
  split
  · rfl
  · rw [Array.getElem?_extract, Nat.min_self, Nat.add_sub_cancel' (by omega)]
    split
    · rfl
    · exact (Array.getElem?_eq_none (by omega)).symm

theorem capacity_overwrite {b : Buffer} {bytes : Bytes} (h : bytes.size ≤ b.capacity) :
    (b.overwrite bytes).capacity = b.capacity := by
  simp only [capacity] at h
  simp only [overwrite, capacity, Array.size_append, Array.size_extract]
  omega

/-- What was written into a region of its size is the payload. -/
theorem payload_overwrite {b : Buffer} {bytes : Bytes} (h : b.length = bytes.size) :
    (b.overwrite bytes).payload = bytes := by
  simp only [overwrite, payload, h, Array.extract_append]
  simp

end Buffer
end FrameGrabber
