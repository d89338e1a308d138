/-!
# White space

A character is blank when it has the Unicode property `White_Space`. Prompts and event payloads
are trimmed of blank characters on both ends. Control characters such as U+001F and the zero
width characters U+200B and U+FEFF are not blank.
-/

namespace StreamingChat.Text

/-- Whether a character has the Unicode property `White_Space`. -/
def isBlank (character : Char) : Bool :=
  let code := character.toNat
  (0x09 ≤ code && code ≤ 0x0D) || code == 0x20 || code == 0x85 || code == 0xA0 ||
    code == 0x1680 || (0x2000 ≤ code && code ≤ 0x200A) || code == 0x2028 || code == 0x2029 ||
    code == 0x202F || code == 0x205F || code == 0x3000

/-- Drops the blank characters at the front. -/
def trimStart (text : List Char) : List Char :=
  text.dropWhile isBlank

/-- Drops the blank characters at the end. -/
def trimEnd (text : List Char) : List Char :=
  (text.reverse.dropWhile isBlank).reverse

/-- Drops the blank characters on both ends. -/
def trim (text : List Char) : List Char :=
  trimEnd (trimStart text)

/-- Drops the blank characters on both ends of a string. -/
def trimString (text : String) : String :=
  String.ofList (trim text.toList)

theorem isBlank_of_isWhitespace {character : Char} (blank : character.isWhitespace = true) :
    isBlank character = true := by
  simp only [Char.isWhitespace, Bool.or_eq_true, decide_eq_true_eq] at blank
  rcases blank with ((rfl | rfl) | rfl) | rfl <;> decide

end StreamingChat.Text
