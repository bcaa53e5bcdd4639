/-!
# Little-endian words

Numbers as byte sequences, the least significant byte first. Main statement: writing the number that
bytes spell gives the bytes back (`toBytes_ofBytes`).
-/

namespace GuestBridge.Word

/-- The `width` low bytes of a number, the least significant first. -/
def toBytes : (width : Nat) → Nat → List UInt8
  | 0, _ => []
  | width + 1, n => UInt8.ofNat n :: toBytes width (n / 256)

/-- The number that a byte sequence spells. -/
def ofBytes : List UInt8 → Nat
  | [] => 0
  | b :: rest => b.toNat + 256 * ofBytes rest

@[simp] theorem length_toBytes (width n : Nat) : (toBytes width n).length = width := by
  induction width generalizing n with
  | zero => rfl
  | succ width ih => simp [toBytes, ih]

/-- The bytes of the spelled number are the bytes themselves. -/
theorem toBytes_ofBytes (bytes : List UInt8) : toBytes bytes.length (ofBytes bytes) = bytes := by
  induction bytes with
  | nil => rfl
  | cons b rest ih =>
    have hb : b.toNat < 256 := b.toNat_lt
    have hdiv : (b.toNat + 256 * ofBytes rest) / 256 = ofBytes rest := by omega
    simp only [List.length_cons, ofBytes, toBytes, hdiv, ih, List.cons.injEq, and_true]
    apply UInt8.toNat_inj.mp
    simp

end GuestBridge.Word
