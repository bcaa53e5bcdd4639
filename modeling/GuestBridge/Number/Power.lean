/-!
# Powers of two and ten

The two scales between which numbers are converted when a double is written in decimal.
-/

namespace GuestBridge

def powerOfTwo (exponent : Nat) : Nat := Nat.pow 2 exponent

def powerOfTen (exponent : Nat) : Nat := Nat.pow 10 exponent

end GuestBridge
