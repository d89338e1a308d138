import StreamingChat.Text.Hex

/-!
# Percent encoding

Bytes that cannot stand in a part of a URL are written as `%` and two hexadecimal digits. Which
bytes these are depends on the part; bytes past ASCII are always written so.
-/

namespace StreamingChat.Url

/-- ASCII control characters, which no part may hold. -/
def isControl (character : Char) : Bool :=
  character.toNat < 0x20 || character.toNat = 0x7F

/-- The characters that are encoded in a fragment. -/
def fragmentSet (character : Char) : Bool :=
  isControl character || [' ', '"', '<', '>', '\x60'].contains character

/-- The characters that are encoded in a path. -/
def pathSet (character : Char) : Bool :=
  fragmentSet character || ['#', '?', '\x7b', '\x7d'].contains character

/-- The characters that are encoded in a user name or a password. -/
def userinfoSet (character : Char) : Bool :=
  pathSet character || ['/', ':', ';', '=', '@', '[', '\\', ']', '^', '|'].contains character

/-- The characters that are encoded in a query. -/
def querySet (character : Char) : Bool :=
  isControl character || [' ', '"', '#', '<', '>'].contains character

/-- The characters that are encoded in a query of a special scheme. -/
def specialQuerySet (character : Char) : Bool :=
  querySet character || character = '\''

/-- A digit of an encoded byte. -/
def upperHexDigit (value : Nat) : Char :=
  (Nat.digitChar value).toUpper

/-- An encoded byte. -/
def encodeByte (byte : UInt8) : List Char :=
  ['%', upperHexDigit (byte.toNat / 16), upperHexDigit (byte.toNat % 16)]

/-- Encodes the characters of a set and those past ASCII. -/
def percentEncode (set : Char → Bool) (text : List Char) : List Char :=
  text.flatMap fun character =>
    if set character || 0x80 ≤ character.toNat then
      (String.singleton character).toUTF8.toList.flatMap encodeByte
    else [character]

/-- The bytes of a text whose encoded bytes are decoded. A `%` that no two digits follow stands for
itself. -/
def percentDecode : List Char → List UInt8
  | '%' :: high :: low :: rest =>
      match Text.hexValue high, Text.hexValue low with
      | some first, some second => UInt8.ofNat (first * 16 + second) :: percentDecode rest
      | _, _ => 0x25 :: percentDecode (high :: low :: rest)
  | character :: rest => (String.singleton character).toUTF8.toList ++ percentDecode rest
  | [] => []

end StreamingChat.Url
