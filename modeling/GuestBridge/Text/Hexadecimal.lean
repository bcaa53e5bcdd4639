/-!
# Hexadecimal numerals

Lower-case hexadecimal text of numbers and of byte sequences, and its reading back.
-/

namespace GuestBridge.Text

def hexDigits (n : Nat) : List Char := Nat.toDigits 16 n

/-- At least `width` hexadecimal digits, padded with zeros on the left. -/
def paddedHex (width n : Nat) : String :=
  let ds := hexDigits n
  String.ofList (List.replicate (width - ds.length) '0' ++ ds)

/-- Two digits for each byte. -/
def hexOfBytes (bytes : List UInt8) : String :=
  String.join (bytes.map fun b => paddedHex 2 b.toNat)

/-- The value of a hexadecimal digit of either case. -/
def hexDigit? (c : Char) : Option Nat :=
  if '0' ≤ c ∧ c ≤ '9' then some (c.toNat - '0'.toNat)
  else if 'a' ≤ c ∧ c ≤ 'f' then some (c.toNat - 'a'.toNat + 10)
  else if 'A' ≤ c ∧ c ≤ 'F' then some (c.toNat - 'A'.toNat + 10)
  else none

/-- Extends the number `n` by hexadecimal digits; `none` at any other character. -/
def foldHex? (n : Nat) : List Char → Option Nat
  | [] => some n
  | c :: rest => do foldHex? (16 * n + (← hexDigit? c)) rest

/-- The number that hexadecimal digits denote; no digits denote nothing. -/
def hexNumber? (s : String) : Option Nat :=
  if s.isEmpty then none else foldHex? 0 s.toList

/-- Reads two digits a byte. -/
def pairsToBytes? : List Char → Option (List UInt8)
  | [] => some []
  | [_] => none
  | high :: low :: rest => do
    let h ← hexDigit? high
    let l ← hexDigit? low
    return UInt8.ofNat (16 * h + l) :: (← pairsToBytes? rest)

/-- The bytes that a hexadecimal text spells, two digits each. -/
def bytesOfHex? (s : String) : Option (List UInt8) := pairsToBytes? s.toList

end GuestBridge.Text
