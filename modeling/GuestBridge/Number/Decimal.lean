/-!
# Decimal numerals

A natural number scaled by a power of ten, and its two written forms: positional
(`123.45`, `0.00012`, `120000`) and scientific (`1.2345e2`). Neither form pads: trailing zeros of
the coefficient are dropped by `normalize` before a number is written.
-/

namespace GuestBridge

/-- The number `coefficient * 10 ^ exponent`. -/
structure Decimal where
  coefficient : Nat
  exponent : Int
  deriving DecidableEq, Repr

namespace Decimal

/-- The decimal digits of a natural number, the most significant first. -/
def digits (n : Nat) : List Char := Nat.toDigits 10 n

def zeros (n : Nat) : List Char := List.replicate n '0'

/-- Drops up to `fuel` trailing zeros of the coefficient. -/
def dropZeros : Nat → Decimal → Decimal
  | 0, x => x
  | fuel + 1, x =>
    if x.coefficient ≠ 0 ∧ x.coefficient % 10 = 0 then
      dropZeros fuel ⟨x.coefficient / 10, x.exponent + 1⟩
    else x

/-- The same number with no trailing zero in its coefficient. -/
def normalize (x : Decimal) : Decimal := dropZeros (digits x.coefficient).length x

/-- Digits with a point where it belongs; a whole number has no point, a number below one a leading
zero. -/
def positional (x : Decimal) : String :=
  let ds := digits x.coefficient
  if 0 ≤ x.exponent then String.ofList (ds ++ zeros x.exponent.toNat)
  else
    let places := (-x.exponent).toNat
    if places < ds.length then
      String.ofList (ds.take (ds.length - places) ++ '.' :: ds.drop (ds.length - places))
    else String.ofList ('0' :: '.' :: zeros (places - ds.length) ++ ds)

/-- One digit before the point, then `mark` and the exponent. -/
def scientific (mark : String) (x : Decimal) : String :=
  let ds := digits x.coefficient
  let power := x.exponent + (ds.length : Int) - 1
  let tail := ds.drop 1
  String.ofList (ds.take 1 ++ if tail.isEmpty then [] else '.' :: tail) ++ mark ++ toString power

end Decimal

end GuestBridge
