import Mathlib.Algebra.Order.Ring.Nat
import GuestBridge.Wire.Word
/-!
# Words and the numbers they hold

A word of `width` bytes holds the numbers below `256 ^ width`. Main statements: reading what was
written gives the number modulo that bound (`ofBytes_toBytes_mod`), hence the number itself when it
fits (`ofBytes_toBytes`), and no word spells a larger number (`ofBytes_lt`).
-/

namespace GuestBridge.Word

/-- Writing keeps the number modulo the bound of the width. -/
theorem ofBytes_toBytes_mod (width n : Nat) : ofBytes (toBytes width n) = n % 256 ^ width := by
  induction width generalizing n with
  | zero => simp [toBytes, ofBytes, Nat.mod_one]
  | succ width ih =>
    have byte : (UInt8.ofNat n).toNat = n % 256 := by simp
    rw [toBytes, ofBytes, ih, byte, pow_succ, Nat.mul_comm (256 ^ width) 256, Nat.mod_mul]

/-- A number that fits is read back. -/
theorem ofBytes_toBytes {width n : Nat} (h : n < 256 ^ width) : ofBytes (toBytes width n) = n := by
  rw [ofBytes_toBytes_mod, Nat.mod_eq_of_lt h]

/-- No word spells a number that is too large for its width. -/
theorem ofBytes_lt (bytes : List UInt8) : ofBytes bytes < 256 ^ bytes.length := by
  induction bytes with
  | nil => exact Nat.one_pos
  | cons b rest ih =>
    have hb : b.toNat < 256 := b.toNat_lt
    rw [ofBytes, List.length_cons, pow_succ]
    omega

end GuestBridge.Word
