import GuestBridge.Text.Hexadecimal
/-!
# Guest pointers

A pointer is an unsigned 32-bit byte offset into the guest's memory. Zero is the guest's null.
-/

namespace GuestBridge

/-- A byte offset into the guest's memory. -/
structure Pointer where
  address : UInt32
  deriving DecidableEq, Repr

namespace Pointer

def null : Pointer := ⟨0⟩

def isNull (p : Pointer) : Bool := p.address == 0

def offset (p : Pointer) : Nat := p.address.toNat

/-- The pointer in the guest's signed parameter type. -/
def toInt32 (p : Pointer) : Int32 := p.address.toInt32

/-- Reads a guest's signed number as the unsigned offset with the same bits. -/
def ofInt32 (raw : Int32) : Pointer := ⟨raw.toUInt32⟩

/-- A pointer comes back from the guest as it was handed over. -/
@[simp] theorem ofInt32_toInt32 (p : Pointer) : ofInt32 p.toInt32 = p := by
  cases p
  simp only [ofInt32, toInt32, UInt32.toUInt32_toInt32]

/-- A guest's signed number as an address; negative numbers are no addresses. -/
def ofRaw? (raw : Int32) : Option Pointer :=
  if raw < 0 then none else some (ofInt32 raw)

/-- Eight hexadecimal digits behind `0x`. -/
def text (p : Pointer) : String := "0x" ++ Text.paddedHex 8 p.offset

end Pointer

end GuestBridge
