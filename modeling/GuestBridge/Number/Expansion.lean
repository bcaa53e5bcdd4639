import GuestBridge.Number.Decimal
/-!
# Decimal expansions

The digits of a quotient on both sides of its point. An expansion is rounded on its digits: the
first digit that is cut off decides, and a carry runs through the nines before it. When all digits
are nines, the carry becomes a digit of its own and the whole part grows.
-/

namespace GuestBridge

/-- The digits before and after a decimal point. -/
structure Expansion where
  whole : List Char
  fraction : List Char
  deriving DecidableEq, Repr

namespace Expansion

/-- The first fractional digits of `rem / den`, by long division. -/
def fractionOf (den : Nat) : (places rem : Nat) → List Char
  | 0, _ => []
  | places + 1, rem => (10 * rem / den).digitChar :: fractionOf den places (10 * rem % den)

/-- The expansion of `num / den`, as far as `places` fractional digits go. -/
def ofQuotient (num den places : Nat) : Expansion where
  whole := Decimal.digits (num / den)
  fraction := fractionOf den places (num % den)

/-- Digits with the point after the first `width` of them. -/
def split (width : Nat) (digits : List Char) : Expansion :=
  ⟨digits.take width, digits.drop width⟩

/-- Adds one to the last digit. The flag says that all digits were nines: the carry is left over. -/
def increment : List Char → List Char × Bool
  | [] => ([], true)
  | digit :: rest =>
    match increment rest with
    | (rest', false) => (digit :: rest', false)
    | (rest', true) =>
      if digit = '9' then ('0' :: rest', true) else (Char.ofNat (digit.toNat + 1) :: rest', false)

/-- The first digit that is cut off is five or more. -/
def roundsUp (e : Expansion) (places : Nat) : Bool := e.fraction[places]?.any fun d => '5' ≤ d

/-- The digits that are not cut off. -/
def kept (e : Expansion) (places : Nat) : List Char := e.whole ++ e.fraction.take places

/-- The expansion rounded to so many fractional digits. -/
def rounded (e : Expansion) (places : Nat) : Expansion :=
  if e.roundsUp places then
    match increment (e.kept places) with
    | (digits, false) => split e.whole.length digits
    | (digits, true) => split (e.whole.length + 1) ('1' :: digits)
  else split e.whole.length (e.kept places)

/-- A whole number is written without a point. -/
def text (e : Expansion) : String :=
  if e.fraction.isEmpty then String.ofList e.whole
  else String.ofList (e.whole ++ '.' :: e.fraction)

end Expansion

end GuestBridge
