import StreamingChat.Json.Text

/-!
# Writing JSON

Values are written in two layouts: on one line without any space, and over several lines with two
spaces for each level, where an empty list or object stays on its line.
-/

namespace StreamingChat.Json

/-- A value to write. Members keep the order in which they are given. -/
inductive Value where
  | boolean (value : Bool)
  | natural (value : Nat)
  | string (value : String)
  | list (elements : List Value)
  | object (members : List (String × Value))
  deriving Repr

namespace Value

/-- A truth value or a number. -/
def writeBoolean (value : Bool) : List Char :=
  if value then ['t', 'r', 'u', 'e'] else ['f', 'a', 'l', 's', 'e']

mutual

/-- A value on one line. -/
def compactChars : Value → List Char
  | .boolean value => writeBoolean value
  | .natural value => Nat.toDigits 10 value
  | .string value => writeString value
  | .list [] => ['[', ']']
  | .list (first :: rest) => '[' :: (first.compactChars ++ compactElements rest)
  | .object [] => ['\x7b', '\x7d']
  | .object ((key, value) :: rest) =>
      '\x7b' :: (writeString key ++ ':' :: (value.compactChars ++ compactMembers rest))

/-- The further elements of a list on one line. -/
def compactElements : List Value → List Char
  | [] => [']']
  | value :: rest => ',' :: (value.compactChars ++ compactElements rest)

/-- The further members of an object on one line. -/
def compactMembers : List (String × Value) → List Char
  | [] => ['\x7d']
  | (key, value) :: rest =>
      ',' :: (writeString key ++ ':' :: (value.compactChars ++ compactMembers rest))

end

/-- A new line at a level. -/
def newLine (level : Nat) : List Char :=
  '\n' :: List.replicate (2 * level) ' '

mutual

/-- A value over several lines, inside `level` brackets. -/
def prettyChars (level : Nat) : Value → List Char
  | .boolean value => writeBoolean value
  | .natural value => Nat.toDigits 10 value
  | .string value => writeString value
  | .list [] => ['[', ']']
  | .list (first :: rest) =>
      '[' :: (newLine (level + 1) ++ first.prettyChars (level + 1) ++ prettyElements level rest)
  | .object [] => ['\x7b', '\x7d']
  | .object ((key, value) :: rest) =>
      '\x7b' :: (newLine (level + 1) ++ writeString key ++ [':', ' '] ++
        value.prettyChars (level + 1) ++ prettyMembers level rest)

/-- The further elements of a list over several lines. -/
def prettyElements (level : Nat) : List Value → List Char
  | [] => newLine level ++ [']']
  | value :: rest =>
      ',' :: (newLine (level + 1) ++ value.prettyChars (level + 1) ++ prettyElements level rest)

/-- The further members of an object over several lines. -/
def prettyMembers (level : Nat) : List (String × Value) → List Char
  | [] => newLine level ++ ['\x7d']
  | (key, value) :: rest =>
      ',' :: (newLine (level + 1) ++ writeString key ++ [':', ' '] ++
        value.prettyChars (level + 1) ++ prettyMembers level rest)

end

/-- The text of a value on one line. -/
def compact (value : Value) : String :=
  String.ofList value.compactChars

/-- The text of a value over several lines. -/
def pretty (value : Value) : String :=
  String.ofList (value.prettyChars 0)

end Value

end StreamingChat.Json
