import GuestBridge.Number.Double
/-!
# Random numbers

A stream of doubles in `[0, 1)` that a seed determines: the seed is advanced by a fixed odd step for
each draw, its bits are mixed, and the upper fifty-three become the fraction.
-/

namespace GuestBridge.Random

/-- The step between two draws: an odd number near `2 ^ 64` over the golden ratio. -/
def step : UInt64 := 0x9E3779B97F4A7C15

/-- Spreads every bit over the whole word. -/
def mix (x : UInt64) : UInt64 :=
  let x := (x ^^^ (x >>> 30)) * 0xBF58476D1CE4E5B9
  let x := (x ^^^ (x >>> 27)) * 0x94D049BB133111EB
  x ^^^ (x >>> 31)

/-- The draw with a given number. -/
def draw (seed : UInt64) (n : Nat) : Double :=
  let bits := mix (seed + UInt64.ofNat (n + 1) * step) >>> 11
  .ofFloat (bits.toFloat / 9007199254740992.0)

end GuestBridge.Random
