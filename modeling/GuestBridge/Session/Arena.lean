import GuestBridge.Memory
import GuestBridge.Bridge.Error
import GuestBridge.Wire.Text
/-!
# The arena

The memory that host and guest share. It is created with a fixed number of pages and may grow by one
page more. The host's accessors refuse a range that leaves it.
-/

namespace GuestBridge

def pageBytes : Nat := 65536

/-- The shared memory, with the limit to which it may grow. -/
structure Arena where
  memory : Memory
  maxPages : Nat

namespace Arena

/-- A zeroed arena with one page of headroom. -/
def create (pages : Nat) : Arena := ⟨.zeros (pages * pageBytes), pages + 1⟩

def size (a : Arena) : Nat := a.memory.size

def pages (a : Arena) : Nat := a.size / pageBytes

/-- Adds zeroed pages, unless that exceeds the limit. -/
def grow? (a : Arena) (extra : Nat) : Option Arena :=
  if a.pages + extra ≤ a.maxPages then
    some { a with memory := { a.memory with size := a.size + extra * pageBytes } }
  else none

def read (a : Arena) (p : Pointer) (length : Nat) : Except BridgeError (List UInt8) := do
  (Slots.checkRange a.memory p.offset length).mapError .codec
  return a.memory.read p.offset length

def write (a : Arena) (p : Pointer) (bytes : List UInt8) : Except BridgeError Arena := do
  (Slots.checkRange a.memory p.offset bytes.length).mapError .codec
  return { a with memory := a.memory.write p.offset bytes }

/-- The text of `length` slots at a pointer. -/
def readText (a : Arena) (p : Pointer) (length : Nat) : Except BridgeError String :=
  (Slots.decode a.memory p length).mapError .codec

end Arena

end GuestBridge
