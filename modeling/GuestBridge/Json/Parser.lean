import GuestBridge.Json.Basic
import GuestBridge.Text.Hexadecimal
import GuestBridge.Text.Numeral
/-!
# Reading JSON text

Strict JSON: no comments, no trailing commas, no leading zeros, no control characters in strings. A
step takes the characters that are left and gives its result with what it left over.
-/

namespace GuestBridge.Json

def isSpace (c : Char) : Bool := c == ' ' || c == '\t' || c == '\n' || c == '\r'

def skipSpace (cs : List Char) : List Char := cs.dropWhile isSpace

/-! ## Strings -/

/-- A piece of a string: a character, or a UTF-16 unit given by its number. -/
inductive Piece
  | char (c : Char)
  | unit (n : Nat)

/-- The number that four hexadecimal digits denote. -/
def unit? (a b c d : Char) : Option Nat := Text.foldHex? 0 [a, b, c, d]

/-- The pieces of a string up to its closing quote. -/
def stringPieces : List Char → List Piece → Option (List Piece × List Char)
  | '"' :: rest, pieces => some (pieces.reverse, rest)
  | '\\' :: 'u' :: a :: b :: c :: d :: rest, pieces =>
    match unit? a b c d with
    | some n => stringPieces rest (.unit n :: pieces)
    | none => none
  | '\\' :: c :: rest, pieces =>
    let escaped (c : Char) := stringPieces rest (.char c :: pieces)
    match c with
    | '"' | '\\' | '/' => escaped c
    | 'b' => escaped '\x08'
    | 'f' => escaped '\x0c'
    | 'n' => escaped '\n'
    | 'r' => escaped '\r'
    | 't' => escaped '\t'
    | _ => none
  | c :: rest, pieces =>
    if c.toNat < 0x20 || c == '\\' then none else stringPieces rest (.char c :: pieces)
  | [], _ => none

def isHighSurrogate (n : Nat) : Bool := 0xD800 ≤ n && n < 0xDC00

def isLowSurrogate (n : Nat) : Bool := 0xDC00 ≤ n && n < 0xE000

/-- The characters that pieces spell: a high surrogate takes the low one after it, and neither
stands alone. -/
def spell : List Piece → Option (List Char)
  | [] => some []
  | .char c :: rest => (spell rest).map (c :: ·)
  | .unit high :: .unit low :: rest =>
    if isHighSurrogate high then
      if isLowSurrogate low then
        (spell rest).map (Char.ofNat (0x10000 + (high - 0xD800) * 0x400 + (low - 0xDC00)) :: ·)
      else none
    else if isLowSurrogate high then none
    else (spell (.unit low :: rest)).map (Char.ofNat high :: ·)
  | .unit n :: rest =>
    if isHighSurrogate n || isLowSurrogate n then none
    else (spell rest).map (Char.ofNat n :: ·)

/-- A string behind its opening quote. -/
def string (cs : List Char) : Option (Option String × List Char) := do
  let (pieces, rest) ← stringPieces cs []
  return ((spell pieces).map String.ofList, rest)

/-! ## Numbers -/

/-- A non-empty run of digits. -/
def digitRun (cs : List Char) : Option (List Char × List Char) :=
  let run := cs.takeWhile Char.isDigit
  if run.isEmpty then none else some (run, cs.drop run.length)

/-- The digits before the point: a leading zero stands alone. -/
def wholePart : List Char → Option (List Char × List Char)
  | '0' :: rest => some (['0'], rest)
  | cs => digitRun cs

/-- A point and digits, if there is a point. -/
def fractionPart : List Char → Option (List Char × List Char)
  | '.' :: rest => do
    let (run, rest) ← digitRun rest
    return ('.' :: run, rest)
  | cs => some ([], cs)

/-- An exponent, if there is one. -/
def exponentPart : List Char → Option (List Char × List Char)
  | e :: sign :: rest =>
    if e == 'e' || e == 'E' then
      if sign == '+' || sign == '-' then do
        let (run, rest) ← digitRun rest
        return (e :: sign :: run, rest)
      else do
        let (run, rest) ← digitRun (sign :: rest)
        return (e :: run, rest)
    else some ([], e :: sign :: rest)
  | [e] => if e == 'e' || e == 'E' then none else some ([], [e])
  | [] => some ([], [])

/-- A number, the sign already taken. -/
def number (negative : Bool) (cs : List Char) : Option (Json × List Char) := do
  let (whole, rest) ← wholePart cs
  let (fraction, rest) ← fractionPart rest
  let (exponent, rest) ← exponentPart rest
  let n ← Text.digits? whole
  let sign := if negative then ['-'] else []
  if fraction.isEmpty && exponent.isEmpty && !(negative && n == 0) then
    return (.int (if negative then -(n : Int) else n), rest)
  else return (.real (String.ofList (sign ++ whole ++ fraction ++ exponent)), rest)

/-! ## Documents -/

/-- Takes the given word. -/
def word (w : List Char) (j : Json) (cs : List Char) : Option (Json × List Char) :=
  if w.isPrefixOf cs then some (j, cs.drop w.length) else none

mutual

/-- A value, with at most `fuel` steps inside each other. -/
def value : (fuel : Nat) → List Char → Option (Json × List Char)
  | 0, _ => none
  | fuel + 1, cs =>
    match skipSpace cs with
    | '"' :: rest => do
      let (text, rest) ← string rest
      return (.str text, rest)
    | '[' :: rest =>
      match skipSpace rest with
      | ']' :: rest => some (.arr [], rest)
      | rest => elements fuel rest []
    | '\x7b' :: rest =>
      match skipSpace rest with
      | '\x7d' :: rest => some (.obj [], rest)
      | rest => members fuel rest []
    | '-' :: rest => number true rest
    | 't' :: rest => word ['r', 'u', 'e'] (.bool true) rest
    | 'f' :: rest => word ['a', 'l', 's', 'e'] (.bool false) rest
    | 'n' :: rest => word ['u', 'l', 'l'] .null rest
    | rest => number false rest

/-- The elements of an array up to its bracket. -/
def elements : (fuel : Nat) → List Char → List Json → Option (Json × List Char)
  | 0, _, _ => none
  | fuel + 1, cs, items =>
    match value fuel cs with
    | none => none
    | some (item, rest) =>
      match skipSpace rest with
      | ',' :: rest => elements fuel rest (item :: items)
      | ']' :: rest => some (.arr (item :: items).reverse, rest)
      | _ => none

/-- The members of an object up to its brace. -/
def members : (fuel : Nat) → List Char → List (Option String × Json) →
    Option (Json × List Char)
  | 0, _, _ => none
  | fuel + 1, cs, pairs =>
    match skipSpace cs with
    | '"' :: rest =>
      match string rest with
      | none => none
      | some (key, rest) =>
        match skipSpace rest with
        | ':' :: rest =>
          match value fuel rest with
          | none => none
          | some (item, rest) =>
            match skipSpace rest with
            | ',' :: rest => members fuel rest ((key, item) :: pairs)
            | '\x7d' :: rest => some (.obj ((key, item) :: pairs).reverse, rest)
            | _ => none
        | _ => none
    | _ => none

end

/-- The document that a text spells. Every step inside another takes a character, so the length of
the text is fuel enough. -/
def parse? (text : String) : Option Json :=
  let cs := text.toList
  match value (cs.length + 1) cs with
  | some (j, rest) => if (skipSpace rest).isEmpty then some j else none
  | none => none

end GuestBridge.Json
