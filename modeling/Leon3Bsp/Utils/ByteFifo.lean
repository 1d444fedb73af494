import Mathlib.Algebra.GroupWithZero.Nat
import Mathlib.Logic.Function.Basic
import Mathlib.Tactic.Common

/-!
# `Utils/ByteFifo`: the byte queue on a circular buffer

The queue is four pointers into a memory block that it does not own. Pointers
are addresses; `NULL` is address zero and the only value a queue tells empty
from full by. A block never holds `NULL`, and C lets a pointer stand one past
its end, so addresses do not wrap. `size_t` and `intptr_t` are the 32-bit types
of the target.
-/

namespace Leon3Bsp
set_option autoImplicit false

abbrev Byte := BitVec 8
abbrev Word := BitVec 32


/-- The bytes of the address space. -/
abbrev Memory := Nat → Byte

def NULL : Nat := 0

/-- `PTRDIFF_MAX` of the 32-bit target. -/
def PTRDIFF_MAX : Nat := 2 ^ 31 - 1

/-- `*address = data`. -/
abbrev Memory.store (mem : Memory) (address : Nat) (data : Byte) : Memory :=
  Function.update mem address data

structure ByteFifo where
  /-- Beginning of the buffer area. -/
  begin : Nat
  /-- End of the buffer area. -/
  end_ : Nat
  /-- Oldest item in the queue. -/
  first : Nat
  /-- Next insert location. -/
  last : Nat
  deriving DecidableEq, Repr

namespace ByteFifo

/-- `ByteFifo_init`: an empty queue on the block. -/
def init (fifo : ByteFifo) (memoryBlock : Nat) (memoryBlockSize : Nat) : ByteFifo :=
  if memoryBlockSize = 0 then fifo
  else { begin := memoryBlock, end_ := memoryBlock + memoryBlockSize, first := NULL, last := memoryBlock }

/-- `ByteFifo_initFromBytes`: a queue of the bytes already in the block. -/
def initFromBytes (fifo : ByteFifo) (memoryBlock : Nat) (memoryBlockSize : Nat) : ByteFifo :=
  if memoryBlockSize = 0 then fifo
  else { begin := memoryBlock, end_ := memoryBlock + memoryBlockSize, first := memoryBlock, last := memoryBlock }

/-- `ByteFifo_clear`. -/
def clear (fifo : ByteFifo) : ByteFifo :=
  { fifo with first := NULL, last := fifo.begin }

/-- `ByteFifo_isFull`. -/
def isFull (fifo : ByteFifo) : Bool :=
  fifo.first == fifo.last

/-- `ByteFifo_isEmpty`. -/
def isEmpty (fifo : ByteFifo) : Bool :=
  fifo.first == NULL

/-- `ByteFifo_getCount`; pointer differences are `intptr_t`, the result `size_t`. -/
def getCount (fifo : ByteFifo) : Word :=
  if fifo.isEmpty then 0
  else
    let ptrDifference : Word := BitVec.ofInt 32 (fifo.last - fifo.first)
    if ptrDifference.sle 0 then ptrDifference + BitVec.ofInt 32 (fifo.end_ - fifo.begin)
    else ptrDifference

/-- `ByteFifo_push`: the result, the queue and the memory after the call. -/
def push (fifo : ByteFifo) (mem : Memory) (data : Byte) : Bool × ByteFifo × Memory :=
  if fifo.isFull then (false, fifo, mem)
  else
    let fifo := if fifo.first = NULL then { fifo with first := fifo.last } else fifo
    let mem := mem.store fifo.last data
    let fifo := { fifo with last := fifo.last + 1 }
    let fifo := if fifo.last = fifo.end_ then { fifo with last := fifo.begin } else fifo
    (true, fifo, mem)

/-- `ByteFifo_pull`: the result, `*data` and the queue after the call. -/
def pull (fifo : ByteFifo) (mem : Memory) (data : Byte) : Bool × Byte × ByteFifo :=
  if fifo.isEmpty then (false, data, fifo)
  else
    let data := mem fifo.first
    let fifo := { fifo with first := fifo.first + 1 }
    let fifo := if fifo.first = fifo.end_ then { fifo with first := fifo.begin } else fifo
    let fifo := if fifo.first = fifo.last then { fifo with first := NULL } else fifo
    (true, data, fifo)

end ByteFifo

end Leon3Bsp
