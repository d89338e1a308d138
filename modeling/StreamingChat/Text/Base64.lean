/-!
# Base64

Image bytes travel as text in the standard Base64 alphabet, padded to a multiple of four.
-/

namespace StreamingChat.Text.Base64

/-- The sixty-four digits in order. -/
def alphabet : Array Char :=
  "ABCDEFGHIJKLMNOPQRSTUVWXYZabcdefghijklmnopqrstuvwxyz0123456789+/".toList.toArray

/-- The digit of a value below sixty-four. -/
def digit (value : Nat) : Char :=
  alphabet.getD value '='

/-- Writes bytes after the digits already `done`, three bytes as four digits. -/
def encodeOnto (done : Array Char) : List UInt8 → Array Char
  | [] => done
  | [first] =>
      let bits := first.toNat * 16
      done ++ [digit (bits / 64), digit (bits % 64), '=', '=']
  | [first, second] =>
      let bits := (first.toNat * 256 + second.toNat) * 4
      done ++ [digit (bits / 4096), digit (bits / 64 % 64), digit (bits % 64), '=']
  | first :: second :: third :: rest =>
      let bits := (first.toNat * 256 + second.toNat) * 256 + third.toNat
      encodeOnto
        (done ++ [digit (bits / 262144), digit (bits / 4096 % 64), digit (bits / 64 % 64),
          digit (bits % 64)])
        rest

/-- The Base64 text of a byte sequence. -/
def encode (bytes : List UInt8) : String :=
  String.ofList (encodeOnto #[] bytes).toList

end StreamingChat.Text.Base64
