import GuestBridge.Guest.Trap
import GuestBridge.Session.Basic
/-!
# Allocation

The host gets writable space only from the guest's allocator. What the allocator answers is checked:
a block is granted when it has a positive address and lies in the arena. Blocks are never freed by
the host.
-/

namespace GuestBridge.Allocation

variable {σ : Type}

/-- The guest's allocator takes a signed number of slots. -/
def maxSlots : Nat := 0x7FFFFFFF

/-- The block that an allocator's answer grants in an arena of `size` bytes. -/
def granted? (size slots : Nat) (raw : Int32) : Option Pointer :=
  match Pointer.ofRaw? raw with
  | none => none
  | some p => if !p.isNull && p.offset + Slots.slotBytes * slots ≤ size then some p else none

/-- Asks the guest for a block of 32-bit slots. -/
def allocate (malloc : Int32 → Action Trap σ Int32) (slots : Nat) :
    Action BridgeError σ Pointer := do
  if maxSlots < slots then throw (.allocationFailed slots 0)
  else
    let raw ← (malloc (Int32.ofNat slots)).mapError Trap.toBridgeError
    match granted? (← get).arena.size slots raw with
    | some p => pure p
    | none => throw (.allocationFailed slots raw)

/-- Copies a text, closed by a zero slot, into a fresh block. -/
def writeText (malloc : Int32 → Action Trap σ Int32) (text : String) :
    Action BridgeError σ Pointer := do
  let p ← allocate malloc (Slots.count text)
  Action.writeMemory p (Slots.encode text)
  return p

end GuestBridge.Allocation
