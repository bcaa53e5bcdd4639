import GuestBridge.Number.Power
/-!
# Doubles by their bits

A double is its 64 bits, so that every not-a-number keeps its payload and the two zeros stay
apart: `decide` tells two doubles equal exactly when their bits are. What the bits denote is read
off in exact arithmetic (`significand`, `exponent`): a finite double is
`± significand * 2 ^ exponent`. Arithmetic goes through the machine's `Float`.
-/

namespace GuestBridge

/-- An IEEE-754 binary64 number, as its bits. -/
structure Double where
  bits : UInt64
  deriving DecidableEq, Repr, Inhabited

namespace Double

/-! ## Reading the bits -/

def isNegative (x : Double) : Bool := x.bits >>> 63 == 1

/-- The place of the leading one that normal doubles do not store: above fifty-two fraction bits. -/
def hiddenBit : Nat := 0x10000000000000

def biasedExponent (x : Double) : Nat := x.bits.toNat / hiddenBit % 2048

def fraction (x : Double) : Nat := x.bits.toNat % hiddenBit

/-- Not a number: all exponent bits set and a fraction. -/
def isNaN (x : Double) : Bool := x.biasedExponent == 2047 && x.fraction != 0

/-- The highest fraction bit, which a quiet not-a-number has set. -/
def quietBit : Nat := 0x8000000000000

/-- A not-a-number that arithmetic never passes over: its highest fraction bit is clear. -/
def isSignaling (x : Double) : Bool := x.isNaN && x.fraction < quietBit

def isInfinite (x : Double) : Bool := x.biasedExponent == 2047 && x.fraction == 0

def isZero (x : Double) : Bool := x.biasedExponent == 0 && x.fraction == 0

/-- The integer that a finite double scales: subnormal doubles have no implicit leading one. -/
def significand (x : Double) : Nat :=
  if x.biasedExponent = 0 then x.fraction else hiddenBit + x.fraction

/-- The power of two by which a finite double scales its `significand`. -/
def exponent (x : Double) : Int :=
  if x.biasedExponent = 0 then -1074 else (x.biasedExponent : Int) - 1075

/-- The magnitude of a finite double as a quotient of naturals, numerator first. -/
def magnitude (x : Double) : Nat × Nat :=
  if 0 ≤ x.exponent then (x.significand * powerOfTwo x.exponent.toNat, 1)
  else (x.significand, powerOfTwo (-x.exponent).toNat)

/-! ## Arithmetic -/

def ofFloat (x : Float) : Double := ⟨x.toBits⟩

def toFloat (x : Double) : Float := Float.ofBits x.bits

/-- The quiet not-a-number without a payload. -/
def nan : Double := ⟨0x7FF8000000000000⟩

/-- Numeric equality: a not-a-number equals nothing, and the two zeros are equal. -/
def equal (x y : Double) : Bool :=
  !x.isNaN && !y.isNaN && (x == y || (x.isZero && y.isZero))

/-- Rounds to the nearest integer, a half upward. -/
def roundHalfUp (x : Double) : Double :=
  let v := x.toFloat
  let below := v.floor
  if v - below ≥ 0.5 then ofFloat (below + 1.0) else ofFloat below

end Double

end GuestBridge
