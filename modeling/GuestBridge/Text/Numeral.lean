/-!
# Decimal numerals in arguments

A numeral is an optional sign and at least one ASCII digit. Only signed kinds admit a minus sign.
-/

namespace GuestBridge.Text

/-- The value of an ASCII digit. -/
def digit? (c : Char) : Option Nat :=
  if '0' ≤ c ∧ c ≤ '9' then some (c.toNat - '0'.toNat) else none

/-- Extends the number `n` by decimal digits; `none` at any other character. -/
def foldDigits? (n : Nat) : List Char → Option Nat
  | [] => some n
  | c :: rest => do foldDigits? (10 * n + (← digit? c)) rest

/-- The number that a non-empty run of decimal digits denotes. -/
def digits? : List Char → Option Nat
  | [] => none
  | cs => foldDigits? 0 cs

/-- A number with an optional plus sign. -/
def natural? : List Char → Option Nat
  | '+' :: cs => digits? cs
  | cs => digits? cs

/-- A number with an optional sign. -/
def integer? : List Char → Option Int
  | '-' :: cs => (digits? cs).map fun n => -(n : Int)
  | cs => (natural? cs).map Int.ofNat

end GuestBridge.Text
