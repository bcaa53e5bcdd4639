import GuestBridge.Json.Basic
import GuestBridge.Text.Hexadecimal
/-!
# Writing JSON text

Two layouts: on one line without spaces, and one item a line, indented by two spaces a level, where
an empty array or object stays on its line.
-/

namespace GuestBridge.Json

/-- How a character is written inside a string. -/
def escapeChar (c : Char) : List Char :=
  match c with
  | '"' => ['\\', '"']
  | '\\' => ['\\', '\\']
  | '\x08' => ['\\', 'b']
  | '\x0c' => ['\\', 'f']
  | '\n' => ['\\', 'n']
  | '\r' => ['\\', 'r']
  | '\t' => ['\\', 't']
  | c =>
    if c.toNat < 0x20 then '\\' :: 'u' :: (Text.paddedHex 4 c.toNat).toList else [c]

/-- A text between quotes. -/
def quoted (s : String) : String :=
  String.ofList ('"' :: (s.toList.flatMap escapeChar ++ ['"']))

/-- A string that spells no text is written as the empty one. -/
def quotedOrEmpty (s : Option String) : String := quoted (s.getD "")

mutual

def compact : Json → String
  | null => "null"
  | bool b => if b then "true" else "false"
  | int n => toString n
  | real numeral => numeral
  | str text => quotedOrEmpty text
  | arr items => "[" ++ ",".intercalate (compactItems items) ++ "]"
  | obj members => "\x7b" ++ ",".intercalate (compactMembers members) ++ "\x7d"

def compactItems : List Json → List String
  | [] => []
  | j :: rest => j.compact :: compactItems rest

def compactMembers : List (Option String × Json) → List String
  | [] => []
  | (key, j) :: rest => (quotedOrEmpty key ++ ":" ++ j.compact) :: compactMembers rest

end

/-- A new line indented by two spaces a level. -/
def newline (level : Nat) : String := String.ofList ('\n' :: List.replicate (2 * level) ' ')

/-- Lines between brackets, or the brackets alone. -/
def block (opening closing : String) (level : Nat) (lines : List String) : String :=
  if lines.isEmpty then opening ++ closing
  else
    opening ++ newline (level + 1) ++ ("," ++ newline (level + 1)).intercalate lines ++
      newline level ++ closing

mutual

/-- The document with one item a line; the first line is not indented. -/
def prettyAt (level : Nat) : Json → String
  | arr items => block "[" "]" level (prettyItems (level + 1) items)
  | obj members => block "\x7b" "\x7d" level (prettyMembers (level + 1) members)
  | null => "null"
  | bool b => if b then "true" else "false"
  | int n => toString n
  | real numeral => numeral
  | str text => quotedOrEmpty text

def prettyItems (level : Nat) : List Json → List String
  | [] => []
  | j :: rest => j.prettyAt level :: prettyItems level rest

def prettyMembers (level : Nat) : List (Option String × Json) → List String
  | [] => []
  | (key, j) :: rest => (quotedOrEmpty key ++ ": " ++ j.prettyAt level) :: prettyMembers level rest

end

def pretty (j : Json) : String := j.prettyAt 0

end GuestBridge.Json
