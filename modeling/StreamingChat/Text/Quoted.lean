import StreamingChat.Text.Invisible

/-!
# Quoted text

A text that is shown inside a message stands between double quotes. Quotes, backslashes and the
common control characters have short escapes, and any other character that would not be seen is
written by its code point.
-/

namespace StreamingChat.Text

/-- The digits of a number in lower-case hexadecimal. -/
def hexDigits (value : Nat) : List Char :=
  Nat.toDigits 16 value

/-- One character inside quotes. -/
def quoteChar (character : Char) : List Char :=
  match character with
  | '"' => ['\\', '"']
  | '\\' => ['\\', '\\']
  | '\t' => ['\\', 't']
  | '\r' => ['\\', 'r']
  | '\n' => ['\\', 'n']
  | '\x00' => ['\\', '0']
  | other =>
      if isInvisible other then
        ['\\', 'u', '\x7b'] ++ hexDigits other.toNat ++ ['\x7d']
      else [other]

/-- A text between double quotes. -/
def quoted (text : String) : String :=
  String.ofList ('"' :: (text.toList.flatMap quoteChar ++ ['"']))

end StreamingChat.Text
