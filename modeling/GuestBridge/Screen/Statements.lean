import GuestBridge.Bridge.Function
/-!
# Statements of the screen

The external functions by which a program clears the screen and sets the pen colour, each with and
without the number of a screen. A number that names no screen changes nothing.
-/

namespace GuestBridge.Screen

/-- The screens have the numbers 0 to 4, and all name the one grid. -/
def isScreen (number : Int32) : Bool := 0 ≤ number && number ≤ 4

/-- The screen of the statements without a number. -/
def defaultScreen : Int32 := 4

/-- Changes a screen, if the number names one. -/
def onScreen (number : Int32) (change : Change) : Callback Unit :=
  if isScreen number then Callback.screen change else pure ()

/-- The pen colour of a signed number is the unsigned number with the same bits. -/
def penColor (rgba : Int32) : Change := .color rgba.toUInt32

/-- The statements, in the order in which they are registered. -/
def statements : List ExternalFunction := [
  .procedure0 "CLS" (onScreen defaultScreen .clear),
  .procedure1 Int32 "CLS" fun number => onScreen number .clear,
  .procedure1 Int32 "COLOR" fun rgba => onScreen defaultScreen (penColor rgba),
  .new "COLOR" [.int, .int] fun
    | .int number :: .int rgba :: _ => onScreen number (penColor rgba)
    | _ => Callback.fail "expected (screen, rgba)"]

end GuestBridge.Screen
