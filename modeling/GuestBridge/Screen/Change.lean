/-!
# Changes of the text screen

What a callback may do to the screen besides printing.
-/

namespace GuestBridge.Screen

/-- A change of the screen that is not output. -/
inductive Change
  | clear
  | color (rgba : UInt32)
  deriving DecidableEq, Repr

end GuestBridge.Screen
