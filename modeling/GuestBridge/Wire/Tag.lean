/-!
# Type tags and signatures

A tag says which kind of value stands in a call frame or is declared in a function descriptor. On
the wire it is a small positive number. A signature lists the tags of a function's arguments and
returns.
-/

namespace GuestBridge

/-- The kinds of value that a frame or a descriptor can name. Arrays are reserved: no frame holds a
value of that kind. -/
inductive Tag
  | int | real | string | array
  deriving DecidableEq, Repr

namespace Tag

def name : Tag → String
  | int => "int"
  | real => "real"
  | string => "string"
  | array => "array"

def wire : Tag → Nat
  | int => 1
  | real => 2
  | string => 3
  | array => 4

def ofWire? (raw : Int64) : Option Tag :=
  if raw = 1 then some int
  else if raw = 2 then some real
  else if raw = 3 then some string
  else if raw = 4 then some array
  else none

/-- How many frame words follow the tag word of a value. -/
def payloadWords : Tag → Nat
  | int | real => 1
  | string => 2
  | array => 0

theorem wire_injective {s t : Tag} (h : s.wire = t.wire) : s = t := by
  cases s <;> cases t <;> simp_all [wire]

/-- Only the number of a tag is read as that tag. -/
theorem ofWire?_eq_some_iff {raw : Int64} {t : Tag} :
    ofWire? raw = some t ↔ raw = Int64.ofNat t.wire := by
  constructor
  · intro h
    unfold ofWire? at h
    repeat' split at h
    all_goals cases h
    all_goals assumption
  · rintro rfl
    cases t <;> decide

end Tag

/-- The tags of a function's arguments and returns, in order. -/
structure Signature where
  args : List Tag
  rets : List Tag
  deriving DecidableEq, Repr

namespace Signature

def usesArray (s : Signature) : Bool := (s.args ++ s.rets).any (· == .array)

/-- Argument names and return names, each in parentheses. -/
def text (s : Signature) : String :=
  let names (tags : List Tag) : String := ", ".intercalate (tags.map Tag.name)
  "(" ++ names s.args ++ ") -> (" ++ names s.rets ++ ")"

end Signature

end GuestBridge
