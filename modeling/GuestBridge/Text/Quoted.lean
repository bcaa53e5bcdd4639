import GuestBridge.Text.Escaped
import GuestBridge.Text.Hexadecimal
/-!
# Quoted texts

A text between double quotes on one line: the quote, the backslash and the common controls have
short escapes, other characters without a visible mark are written by number.
-/

namespace GuestBridge.Text

/-- How one character is written between double quotes. -/
def quoteChar (c : Char) : List Char :=
  match c with
  | '"' => ['\\', '"']
  | '\\' => ['\\', '\\']
  | '\n' => ['\\', 'n']
  | '\r' => ['\\', 'r']
  | '\t' => ['\\', 't']
  | '\x00' => ['\\', '0']
  | c =>
    if isEscaped c then ['\\', 'u', '\x7b'] ++ hexDigits c.toNat ++ ['\x7d']
    else [c]

def quote (s : String) : String :=
  String.ofList ('"' :: (s.toList.flatMap quoteChar ++ ['"']))

end GuestBridge.Text
