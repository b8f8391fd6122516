import FrameGrabber.Buffer

/-!
# The ledger of a buffer ring

Buffers move between the ring's owner and the hardware; the ledger only
records, for each slot, which of the two has it. It refuses to hand a slot over
twice, and it refuses every buffer that is not its own: one of another
generation, or one whose place lies outside the ring.
-/

namespace FrameGrabber

/-- Where a slot's buffer is. -/
inductive SlotState where
  /-- With the hardware. -/
  | queued
  /-- With the owner of the ring. -/
  | held
  deriving DecidableEq, Repr, Inhabited

def SlotState.name : SlotState → String
  | queued => "Queued"
  | held => "Held"

/-- Why the ledger refused a transfer. -/
inductive PoolError where
  | foreign (id : BufferId)
  | wrongState (id : BufferId) (actual : SlotState)
  deriving DecidableEq, Repr, Inhabited

def BufferId.text (id : BufferId) : String :=
  "BufferId \x7b generation: " ++ toString id.generation ++
    ", index: " ++ toString id.index ++ " \x7d"

def PoolError.message : PoolError → String
  | foreign id => s!"buffer {id.text} does not belong to this pool"
  | wrongState id actual => s!"buffer {id.text} is already {actual.name}"

/-- The supply of generations. Numbers come around after `2^32` of them; the
first ring has generation one. -/
structure Generations where
  next : UInt32 := 1
  deriving DecidableEq, Repr, Inhabited

/-- The ledger of one ring. -/
structure Pool where
  generation : UInt32
  /-- Capacity of each buffer of the ring. -/
  bufferSize : Nat
  slots : List SlotState
  deriving DecidableEq, Repr, Inhabited

namespace Pool

def size (p : Pool) : Nat := p.slots.length

/-- Slots whose buffer is with the hardware. -/
def queued (p : Pool) : Nat := p.slots.count .queued

/-- Slots whose buffer is with the owner. -/
def held (p : Pool) : Nat := p.slots.count .held

/-- Allocate a ring of `count` buffers; its owner holds all of them. -/
def allocate (g : Generations) (count bufferSize : Nat) : (Pool × List Buffer) × Generations :=
  ((⟨g.next, bufferSize, List.replicate count .held⟩,
    (List.range count).map fun i => Buffer.new ⟨g.next, i⟩ bufferSize),
    ⟨g.next + 1⟩)

/-- Are these buffers of a ring more than memory can have? The program panics over the
first of them. -/
def overdraws (count bufferSize : Nat) : Bool := count ≠ 0 && memoryLimit < bufferSize

/-- Allocate a ring, unless the program panics over it. -/
def allocate? (g : Generations) (count bufferSize : Nat) :
    Option ((Pool × List Buffer) × Generations) :=
  if overdraws count bufferSize then none else some (allocate g count bufferSize)

/-- Where the buffer is, if it belongs to this ring. -/
def state? (p : Pool) (id : BufferId) : Option SlotState :=
  if id.generation = p.generation then p.slots[id.index]? else none

def transfer (p : Pool) (id : BufferId) (source target : SlotState) : Except PoolError Pool :=
  match p.state? id with
  | none => .error (.foreign id)
  | some actual =>
    if actual = source then .ok { p with slots := p.slots.set id.index target }
    else .error (.wrongState id actual)

def checkIn (p : Pool) (id : BufferId) : Except PoolError Pool := p.transfer id .held .queued

def checkOut (p : Pool) (id : BufferId) : Except PoolError Pool := p.transfer id .queued .held

end Pool
end FrameGrabber
