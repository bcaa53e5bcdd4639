import GuestBridge.Wire.Pointer
import GuestBridge.Wire.Tag
import GuestBridge.Wire.Word
/-!
# Function descriptors

A descriptor tells the guest about one external function. It is a run of 32-bit little-endian slots:
the pointer to the name, the number of arguments, the number of returns, then the tags of the
arguments and of the returns.
-/

namespace GuestBridge.Descriptor

/-- Slots before the tags. -/
def headerSlots : Nat := 3

/-- How many slots the descriptor of a signature takes. -/
def slots (s : Signature) : Nat := headerSlots + s.args.length + s.rets.length

def encode (name : Pointer) (s : Signature) : List UInt8 :=
  Word.toBytes 4 name.offset ++ Word.toBytes 4 s.args.length ++ Word.toBytes 4 s.rets.length ++
    (s.args ++ s.rets).flatMap fun t => Word.toBytes 4 t.wire

/-- A descriptor fills its slots exactly. -/
theorem length_encode (name : Pointer) (s : Signature) :
    (encode name s).length = 4 * slots s := by
  have tags (l : List Tag) : (l.flatMap fun t => Word.toBytes 4 t.wire).length = 4 * l.length := by
    induction l with
    | nil => rfl
    | cons t rest ih => simp only [List.flatMap_cons, List.length_append, Word.length_toBytes,
        List.length_cons, ih]; omega
  simp only [encode, List.length_append, Word.length_toBytes, tags, slots, headerSlots]
  omega

end GuestBridge.Descriptor
