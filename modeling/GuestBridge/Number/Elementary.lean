import GuestBridge.Number.Double
/-!
# Elementary functions

The numeric functions the host offers to its guests, by name.
-/

namespace GuestBridge

inductive Unary
  | floor | round | ceil | sqrt | exp | log | log10 | log2
  | sin | cos | tan | asin | acos | atan | sinh | cosh | tanh
  deriving DecidableEq, Repr

inductive Binary
  | pow | atan2
  deriving DecidableEq, Repr

/-- Questions about one double, answered by 0 or 1. -/
inductive Test
  | isInfinite | isNaN
  deriving DecidableEq, Repr

namespace Unary

def all : List Unary :=
  [.floor, .round, .ceil, .sqrt, .exp, .log, .log10, .log2,
   .sin, .cos, .tan, .asin, .acos, .atan, .sinh, .cosh, .tanh]

def name : Unary → String
  | floor => "floor" | round => "round" | ceil => "ceil" | sqrt => "sqrt"
  | exp => "exp" | log => "log" | log10 => "log10" | log2 => "log2"
  | sin => "sin" | cos => "cos" | tan => "tan" | asin => "asin" | acos => "acos"
  | atan => "atan" | sinh => "sinh" | cosh => "cosh" | tanh => "tanh"

def apply (f : Unary) (x : Double) : Double :=
  let on (g : Float → Float) : Double := .ofFloat (g x.toFloat)
  match f with
  | floor => on Float.floor
  | round => x.roundHalfUp
  | ceil => on Float.ceil
  | sqrt => on Float.sqrt
  | exp => on Float.exp
  | log => on Float.log
  | log10 => on Float.log10
  | log2 => on Float.log2
  | sin => on Float.sin
  | cos => on Float.cos
  | tan => on Float.tan
  | asin => on Float.asin
  | acos => on Float.acos
  | atan => on Float.atan
  | sinh => on Float.sinh
  | cosh => on Float.cosh
  | tanh => on Float.tanh

end Unary

namespace Binary

def all : List Binary := [.pow, .atan2]

def name : Binary → String
  | pow => "pow"
  | atan2 => "atan2"

/-- The power. One to any exponent and any base to zero are one, with a quiet not-a-number too; a
signaling one always gives not-a-number. -/
def power (x y : Double) : Double :=
  if x.isSignaling || y.isSignaling then .nan
  else .ofFloat (Float.pow x.toFloat y.toFloat)

def apply (f : Binary) (x y : Double) : Double :=
  match f with
  | pow => power x y
  | atan2 => .ofFloat (Float.atan2 x.toFloat y.toFloat)

end Binary

namespace Test

def all : List Test := [.isInfinite, .isNaN]

def name : Test → String
  | isInfinite => "isinf"
  | isNaN => "isNan"

/-- One for yes, zero for no. -/
def apply (t : Test) (x : Double) : Int32 :=
  match t with
  | isInfinite => if x.isInfinite then 1 else 0
  | isNaN => if x.isNaN then 1 else 0

end Test

end GuestBridge
