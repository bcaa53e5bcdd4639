import GuestBridge.Number.Shortest
import GuestBridge.Text.Quoted
import GuestBridge.Wire.Fault
/-!
# Values that cross the boundary

A value is an integer, a double or a text. `Argument` names the host types that a value converts
to; a conversion never coerces.
-/

namespace GuestBridge

inductive Value
  | int (v : Int32)
  | real (v : Double)
  | string (v : String)
  deriving DecidableEq, Repr

namespace Value

def tag : Value → Tag
  | int _ => .int
  | real _ => .real
  | string _ => .string

/-- Numerals for numbers, quoted text for texts. -/
def text : Value → String
  | int v => toString v.toInt
  | real v => v.text
  | string v => Text.quote v

/-- Equality by content, where doubles compare as numbers. -/
def equal : Value → Value → Bool
  | int v, int w => v == w
  | real v, real w => v.equal w
  | string v, string w => v == w
  | _, _ => false

end Value

/-- Host types that can be a parameter of a typed external function. -/
class Argument (α : Type) where
  /-- The tag under which the parameter is declared. -/
  tag : Tag
  /-- The content of a value of that tag. -/
  ofValue? : Value → Option α

instance : Argument Int32 where
  tag := .int
  ofValue?
    | .int v => some v
    | _ => none

instance : Argument Double where
  tag := .real
  ofValue?
    | .real v => some v
    | _ => none

instance : Argument String where
  tag := .string
  ofValue?
    | .string v => some v
    | _ => none

/-- The content of a value, or the mismatch of its tag. -/
def Value.to (α : Type) [Argument α] (v : Value) : Except Fault α :=
  match Argument.ofValue? v with
  | some content => .ok content
  | none => .error (.typeMismatch (Argument.tag α) v.tag)

end GuestBridge
