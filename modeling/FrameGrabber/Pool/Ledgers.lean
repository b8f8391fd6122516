import FrameGrabber.Pool

/-!
# Several rings side by side

Rings are allocated one after the other, and a buffer of one may be presented to the
ledger of another. What is kept here is the ledger of every ring in the order of their
allocation, and beside them what they granted: which ledger let which buffer pass, and
which way. The ledgers do not read this list.
-/

namespace FrameGrabber

/-- The two ways between the owner of a ring and the hardware. -/
inductive Transfer where
  /-- The hardware is given the buffer. -/
  | checkIn
  /-- The owner has the buffer back. -/
  | checkOut
  deriving DecidableEq, Repr

namespace Transfer

/-- Where a buffer has to be for the transfer. -/
def source : Transfer → SlotState
  | checkIn => .held
  | checkOut => .queued

/-- Where it is afterwards. -/
def target : Transfer → SlotState
  | checkIn => .queued
  | checkOut => .held

def perform (t : Transfer) (p : Pool) (id : BufferId) : Except PoolError Pool :=
  match t with
  | checkIn => p.checkIn id
  | checkOut => p.checkOut id

end Transfer

/-- A transfer that a ledger let happen; the rings are counted from zero. -/
structure Grant where
  ring : Nat
  id : BufferId
  transfer : Transfer
  deriving DecidableEq, Repr

inductive LedgerMove where
  | allocate (count bufferSize : Nat)
  | transfer (t : Transfer) (ring : Nat) (id : BufferId)
  deriving DecidableEq, Repr

structure Ledgers where
  generations : Generations := {}
  pools : List Pool := []
  granted : List Grant := []
  deriving DecidableEq, Repr

namespace Ledgers

def allocate (l : Ledgers) (count bufferSize : Nat) : Ledgers :=
  let ((pool, _), generations) := Pool.allocate l.generations count bufferSize
  { l with generations, pools := l.pools ++ [pool] }

/-- Ask the ledger of a ring for a transfer. The answer is its answer; there is none if
there is no such ring. -/
def transfer (l : Ledgers) (t : Transfer) (ring : Nat) (id : BufferId) :
    Option (Except PoolError Unit) × Ledgers :=
  match l.pools[ring]? with
  | none => (none, l)
  | some p =>
    match t.perform p id with
    | .error e => (some (.error e), l)
    | .ok p =>
      (some (.ok ()), { l with
        pools := l.pools.set ring p
        granted := l.granted ++ [⟨ring, id, t⟩] })

def step (l : Ledgers) : LedgerMove → Ledgers
  | .allocate count bufferSize => l.allocate count bufferSize
  | .transfer t ring id => (l.transfer t ring id).2

def run (moves : List LedgerMove) (l : Ledgers) : Ledgers := moves.foldl step l

/-- Where a buffer is by the ledger of a ring. -/
def state? (l : Ledgers) (ring : Nat) (id : BufferId) : Option SlotState :=
  l.pools[ring]?.bind (·.state? id)

/-- The transfers of a buffer that these rings granted, the first one first. -/
def transfersOf (l : Ledgers) (rings : List Nat) (id : BufferId) : List Transfer :=
  (l.granted.filter fun g => g.ring ∈ rings ∧ g.id = id).map (·.transfer)

end Ledgers
end FrameGrabber
