import GuestBridge.Wire.Tag
import GuestBridge.Text.Hexadecimal
/-!
# What can be wrong with encoded data

Each fault names its cause and carries what was found. Counts of bytes saturate at the largest
64-bit number.
-/

namespace GuestBridge

inductive Fault
  | typeMismatch (expected found : Tag)
  | invalidTag (raw : Int64)
  | invalidCodePoint (index : Nat) (value : UInt32)
  | outOfBounds (offset length limit : Nat)
  | frameTooShort (index words : Nat)
  | intOutOfRange (raw : Int64)
  | invalidCount (raw : Int64)
  | unsupported (tag : Tag)
  deriving DecidableEq, Repr

namespace Fault

def message : Fault → String
  | typeMismatch expected found =>
    "Type mismatch: expected " ++ expected.name ++ ", got " ++ found.name
  | invalidTag raw => "Invalid type tag: " ++ toString raw.toInt
  | invalidCodePoint index value =>
    "Invalid code point 0x" ++ String.ofList (Text.hexDigits value.toNat) ++
      " at slot " ++ toString index
  | outOfBounds offset length limit =>
    "Out of bounds: " ++ toString length ++ " bytes at offset " ++ toString offset ++
      " exceed " ++ toString limit
  | frameTooShort index words =>
    "Frame too short: word " ++ toString index ++ " requested, frame holds " ++ toString words
  | intOutOfRange raw => "Integer " ++ toString raw.toInt ++ " does not fit in 32 bits"
  | invalidCount raw => "Invalid count: " ++ toString raw.toInt
  | unsupported tag => "Unsupported value kind: " ++ tag.name

end Fault

/-- The largest count of bytes that a report can carry. -/
def maxByteCount : Nat := UInt64.size - 1

end GuestBridge
