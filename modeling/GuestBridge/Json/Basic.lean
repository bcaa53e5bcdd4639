import GuestBridge.Text.Numeral
/-!
# JSON documents

A document keeps what a reader may need to tell apart: whole numbers from other numerals, the order
and repetition of an object's keys, and strings that spell no text because a surrogate stands alone
in them.
-/

namespace GuestBridge

inductive Json
  | null
  | bool (b : Bool)
  /-- A numeral without fraction and exponent, other than a negative zero. -/
  | int (n : Int)
  /-- Any other numeral, as written. -/
  | real (numeral : String)
  /-- A string; nothing when a surrogate stands alone in it. -/
  | str (text : Option String)
  | arr (items : List Json)
  /-- The members in the order in which they stand, repeated keys included. -/
  | obj (members : List (Option String × Json))
  deriving Inhabited

namespace Json

def ofString (s : String) : Json := str (some s)

def ofNat (n : Nat) : Json := int n

/-- An object whose keys are all texts. -/
def ofMembers (members : List (String × Json)) : Json :=
  obj (members.map fun (key, value) => (some key, value))

/-! ## Reading -/

def text? : Json → Option String
  | str text => text
  | _ => none

/-- A whole number, as a numeral or as its text. -/
def number? : Json → Option Int
  | int n => some n
  | str (some text) => Text.integer? text.toList
  | _ => none

/-- A whole number in `[0, limit)`. -/
def below? (limit : Nat) : Json → Option Nat
  | int n => if 0 ≤ n ∧ n < limit then some n.toNat else none
  | _ => none

def items? : Json → Option (List Json)
  | arr items => some items
  | _ => none

def members? : Json → Option (List (Option String × Json))
  | obj members => some members
  | _ => none

/-- The first member with a given key. -/
def member? (j : Json) (key : String) : Option Json := do
  let members ← j.members?
  (members.find? fun m => m.1 == some key).map (·.2)

/-- A text, or nothing for `null`. -/
def textOrNull? : Json → Option (Option String)
  | null => some none
  | str (some text) => some (some text)
  | _ => none

/-- The values that a document gives for named fields. An object gives them by key: other keys are
passed over, a repeated field or a key that spells no text is refused. An array gives them in order
and may leave out the last ones. -/
def fields? (names : List String) : Json → Option (List (Option Json))
  | obj members =>
    if members.any fun m => m.1.isNone then none
    else names.mapM fun name =>
      match members.filter fun m => m.1 == some name with
      | [] => some none
      | [m] => some (some m.2)
      | _ => none
  | arr items =>
    if names.length < items.length then none
    else some (items.map some ++ List.replicate (names.length - items.length) none)
  | _ => none

end Json

end GuestBridge
