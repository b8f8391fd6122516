import FrameGrabber.Buffer

/-!
# What is done with a buffer

A buffer goes around. Whoever has it asks for a region and stores into that, or copies a
whole payload in, says how it went and what the picture is, and recycles the buffer for
the next frame. What comes of it is a list of moves, and this list says by itself what
must be in the buffer in the end, without any buffer: of each piece of its state, what
the last move said that said anything about it. The moves that speak of one piece are not
those that speak of another.

The memory is one such piece for every place. A byte stays where it was stored until
another is stored in the same place, whether or not the payload reaches that far in
between.
-/

namespace FrameGrabber

inductive BufferMove where
  /-- Ask for a region and store into it, if it is granted: at each of its places the byte
  that `fill` has for it, and none where `fill` has none. What is stored may come from what
  was found there. -/
  | region (size : Nat) (fill : Nat → Option UInt8)
  /-- Copy a whole payload in. -/
  | write (bytes : Bytes)
  | setStatus (s : BufferStatus)
  | setInfo (i : ImageInfo)
  | recycle

inductive BufferAnswer where
  /-- What lay in the region when it was granted, if it was. -/
  | region (found : Option Bytes)
  | written (fits : Bool)
  | done
  deriving DecidableEq, Repr

namespace Buffer

def step (b : Buffer) : BufferMove → BufferAnswer × Buffer
  | .region size fill =>
    match b.grant? size with
    | none => (.region none, b)
    | some b =>
      (.region (some b.payload),
        b.overwrite (b.payload.mapIdx fun i byte => (fill i).getD byte))
  | .write bytes =>
    let (fits, b) := b.write bytes
    (.written fits, b)
  | .setStatus s => (.done, b.setStatus s)
  | .setInfo i => (.done, b.setInfo i)
  | .recycle => (.done, b.recycle)

def run (moves : List BufferMove) (b : Buffer) : Buffer :=
  moves.foldl (fun b m => (b.step m).2) b

end Buffer

/-! ## By the moves alone -/

namespace BufferMove

/-- The length of the payload that it leaves in a buffer of this capacity, if it changes
the length. -/
def length? (capacity : Nat) : BufferMove → Option Nat
  | region size _ => if size ≤ capacity then some size else none
  | write bytes => some (if bytes.size ≤ capacity then bytes.size else 0)
  | recycle => some 0
  | setStatus _ | setInfo _ => none

def status? (capacity : Nat) : BufferMove → Option BufferStatus
  | write bytes => some (if bytes.size ≤ capacity then .success else .aborted)
  | setStatus s => some s
  | recycle => some .success
  | region _ _ | setInfo _ => none

def info? : BufferMove → Option (Option ImageInfo)
  | setInfo i => some (some i)
  | recycle => some none
  | region _ _ | write _ | setStatus _ => none

/-- The byte that it stores at a place of a buffer of this capacity, if it stores any. -/
def byte? (capacity place : Nat) : BufferMove → Option UInt8
  | region size fill => if size ≤ capacity ∧ place < size then fill place else none
  | write bytes => if bytes.size ≤ capacity then bytes[place]? else none
  | setStatus _ | setInfo _ | recycle => none

/-- How far into the memory it stores, if it stores. -/
def extent : BufferMove → Nat
  | region size _ => size
  | write bytes => bytes.size
  | setStatus _ | setInfo _ | recycle => 0

/-- What the last of the moves said that said anything, and `first` if none did. -/
def latest {α : Type} (said? : BufferMove → Option α) (first : α)
    (moves : List BufferMove) : α :=
  (moves.reverse.findSome? said?).getD first

/-- The byte that was last stored at a place, zero where none was. -/
def stored (capacity : Nat) (moves : List BufferMove) (place : Nat) : UInt8 :=
  latest (byte? capacity place) 0 moves

/-- The bytes that were last stored at the first `n` places. -/
def storedBelow (capacity : Nat) (moves : List BufferMove) (n : Nat) : Bytes :=
  Array.ofFn fun place : Fin n => stored capacity moves place

end BufferMove

/-- The buffer that the moves must have made of a new one. -/
def Buffer.recalled (id : BufferId) (capacity : Nat) (moves : List BufferMove) : Buffer where
  id
  memory := BufferMove.storedBelow capacity moves capacity
  length := BufferMove.latest (BufferMove.length? capacity) 0 moves
  status := BufferMove.latest (BufferMove.status? capacity) .success moves
  info := BufferMove.latest BufferMove.info? none moves

end FrameGrabber
