import GuestBridge.Wire.Text
import GuestBridge.Wire.Value
/-!
# Call frames

A frame is a run of 64-bit little-endian words in guest memory. Word 0 holds the number of values;
then each value has a tag word and its payload words:

* an integer: one word with its value,
* a double: one word with its bits,
* a text: a word with its length and a word with its pointer.

A reader's state is the index of the next word. It moves past every word it was given, also when
that word is then refused, and stays where it is when there is none.
-/

namespace GuestBridge

def wordBytes : Nat := 8

/-- A run of words that lies in the memory. -/
structure Frame where
  memory : Memory
  start : Nat
  words : Nat
  inBounds : start + wordBytes * words ≤ memory.size

namespace Frame

def empty (m : Memory) : Frame := ⟨m, 0, 0, by simp [wordBytes]⟩

/-- The frame of `words` words at a pointer. A null pointer or no words make the empty frame. -/
def at? (m : Memory) (p : Pointer) (words : Nat) : Except Fault Frame :=
  if p.isNull || words == 0 then .ok (empty m)
  else if h : p.offset + wordBytes * words ≤ m.size then .ok ⟨m, p.offset, words, h⟩
  else .error (.outOfBounds p.offset (min (wordBytes * words) maxByteCount) m.size)

def word (f : Frame) (index : Nat) : Except Fault UInt64 :=
  if index < f.words then
    .ok (UInt64.ofNat (f.memory.word (f.start + wordBytes * index) wordBytes))
  else .error (.frameTooShort index f.words)

/-- A signed word as a count. -/
def countOf (raw : Int64) : Except Fault Nat :=
  if raw < 0 then .error (.invalidCount raw) else .ok raw.toInt.toNat

def count (f : Frame) : Except Fault Nat :=
  if f.words = 0 then .ok 0 else do countOf (← f.word 0).toInt64

/-! ## Reading -/

/-- A computation that reads on from the word with the index in its state. -/
abbrev Reader := EStateM Fault Nat

/-- The first word after the header. -/
def firstPosition : Nat := 1

/-- Runs a computation that reads nothing. -/
def lift {α : Type} (r : Except Fault α) : Reader α :=
  match r with
  | .ok a => pure a
  | .error e => throw e

/-- Delivers the next word and moves past it. -/
def next (f : Frame) : Reader UInt64 := fun position =>
  match f.word position with
  | .ok w => .ok w (position + 1)
  | .error e => .error e position

def readTag (f : Frame) : Reader Tag := do
  let raw := (← f.next).toInt64
  match Tag.ofWire? raw with
  | some tag => pure tag
  | none => throw (.invalidTag raw)

def readInt (f : Frame) : Reader Int32 := do
  let raw := (← f.next).toInt64
  if raw.toInt32.toInt64 = raw then pure raw.toInt32 else throw (.intOutOfRange raw)

def readReal (f : Frame) : Reader Double := do
  return ⟨← f.next⟩

/-- A pointer word must be a 32-bit offset, and the text must lie in the memory. -/
def readString (f : Frame) : Reader String := do
  let rawLength := (← f.next).toInt64
  let rawPointer ← f.next
  let length ← lift (countOf rawLength)
  if rawPointer.toNat < UInt32.size then
    lift (Slots.decode f.memory ⟨rawPointer.toUInt32⟩ length)
  else throw (.outOfBounds rawPointer.toNat length f.memory.size)

/-- The payload of a value whose tag is known. -/
def readPayload (f : Frame) : Tag → Reader Value
  | .int => return .int (← f.readInt)
  | .real => return .real (← f.readReal)
  | .string => return .string (← f.readString)
  | .array => throw (.unsupported .array)

/-- A tag and its payload. -/
def readValue (f : Frame) : Reader Value := do
  let tag ← f.readTag
  f.readPayload tag

end Frame

end GuestBridge
