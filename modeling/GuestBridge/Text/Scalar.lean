/-!
# Code points as characters

Output comes as numbers; a number that is no Unicode scalar value is shown as U+FFFD.
-/

namespace GuestBridge.Text

/-- Stands for a number that is no character. -/
def replacement : Char := '\uFFFD'

def charOfCode (code : UInt32) : Char :=
  if h : code.isValidChar then ⟨code, h⟩ else replacement

end GuestBridge.Text
