import StreamingChat.Settings.Environment
import StreamingChat.Text.Blank
import StreamingChat.Text.ByteLines
import StreamingChat.Text.LetterOrDigit
import StreamingChat.Text.Utf8.Strict

/-!
# Environment files

A file may provide environment variables: one assignment a line, perhaps after the word `export`,
with comments, quotes, escapes and the values of other variables in place of their names. The
first line that cannot be read ends the file; variables that are set already keep their values.
Main function: `EnvFile.load`.
-/

namespace StreamingChat.EnvFile

/-! ## Values -/

/-- What the next character of a value is part of. -/
inductive Part where
  | text
  /-- An escape, after its backslash. -/
  | escape
  /-- A piece between single quotes, which is taken as it is. -/
  | quoted
  /-- The name of a variable after a dollar sign. The last character comes first. -/
  | name (characters : List Char)
  /-- The name of a variable in braces. The last character comes first. -/
  | braced (characters : List Char)
  /-- The space after a value, which only a comment may follow. -/
  | space
  | comment
  deriving DecidableEq, Repr

/-- A value that is being read. -/
structure Reading where
  part : Part
  /-- Whether the reading is between double quotes. -/
  inQuotes : Bool
  /-- The characters of the value so far, last one first. -/
  characters : List Char
  deriving DecidableEq, Repr

namespace Reading

/-- Nothing has been read. -/
def start : Reading := ⟨.text, false, []⟩

/-- Adds a character to the value. -/
def push (reading : Reading) (character : Char) : Reading :=
  { reading with part := .text, characters := character :: reading.characters }

/-- Adds the value of a variable. One that is not set adds nothing. -/
def pushVariable (reading : Reading) (environment : Environment) (name : List Char) : Reading :=
  let value := (environment.get? (String.ofList name.reverse)).getD ""
  { reading with part := .text, characters := value.toList.reverse ++ reading.characters }

/-- The character that an escape stands for. -/
def escaped? (character : Char) : Option Char :=
  if character = 'n' then some '\n'
  else if ['\\', '\'', '"', '$', ' '].contains character then some character
  else none

/-- Reads a character of plain text. -/
def stepText (reading : Reading) (character : Char) : Reading :=
  if character = '$' then { reading with part := .name [] }
  else if character = '\\' then { reading with part := .escape }
  else if character = '"' then { reading with inQuotes := !reading.inQuotes }
  else if reading.inQuotes then reading.push character
  else if character = '\'' then { reading with part := .quoted }
  else if character = ' ' || character = '\t' then { reading with part := .space }
  else reading.push character

/-- Reads a character. A name ends at the first character that is no letter or digit, and that
character is taken as it is. -/
def step (environment : Environment) (reading : Reading) (character : Char) : Option Reading :=
  match reading.part with
  | .text => some (reading.stepText character)
  | .escape => (escaped? character).map reading.push
  | .quoted =>
      if character = '\'' then some { reading with part := .text }
      else some { reading.push character with part := .quoted }
  | .name name =>
      if Text.isLetterOrDigit character then
        some { reading with part := .name (character :: name) }
      else if character = '\x7b' && name.isEmpty then some { reading with part := .braced [] }
      else
        let replaced := reading.pushVariable environment name
        if character = '$' then some { replaced with part := .name [] }
        else some (replaced.push character)
  | .braced name =>
      if character = '\x7d' then some (reading.pushVariable environment name)
      else some { reading with part := .braced (character :: name) }
  | .space =>
      if character = ' ' || character = '\t' then some reading
      else if character = '#' then some { reading with part := .comment }
      else none
  | .comment => some reading

/-- The value, if all quotes and braces are closed. -/
def finish (environment : Environment) (reading : Reading) : Option String :=
  let value (reading : Reading) : Option String :=
    if reading.inQuotes then none else some (String.ofList reading.characters.reverse)
  match reading.part with
  | .quoted => none
  | .braced _ => none
  | .name name => value (reading.pushVariable environment name)
  | _ => value reading

end Reading

/-- The value that a text assigns. -/
def readValue (environment : Environment) (text : List Char) : Option String := do
  let reading ← text.foldlM (Reading.step environment) Reading.start
  reading.finish environment

/-! ## Lines -/

/-- What a line says. -/
inductive Line where
  | empty
  | assignment (name value : String)
  /-- The line cannot be read. -/
  | malformed
  deriving DecidableEq, Repr

/-- Whether a name may begin with a character. -/
def beginsName (character : Char) : Bool :=
  character.isAlpha || character = '_'

/-- Whether a character may stand in a name. -/
def isNameChar (character : Char) : Bool :=
  character.isAlphanum || character = '_' || character = '.'

/-- A name and the text after it. -/
def cutName (text : List Char) : Option (List Char × List Char) :=
  match text with
  | first :: _ =>
      if beginsName first then some (text.takeWhile isNameChar, text.dropWhile isNameChar) else none
  | [] => none

/-- Consumes an equals sign and the space around it. -/
def cutEquals (text : List Char) : Option (List Char) :=
  match Text.trimStart text with
  | '=' :: rest => some (Text.trimStart rest)
  | _ => none

/-- The name that is assigned to, and the text of its value. The word `export` may stand in front
of the name, or be the name. -/
def cutAssignment (text : List Char) : Option (List Char × List Char) := do
  let (name, rest) ← cutName text
  match cutEquals rest with
  | some value => some (name, value)
  | none =>
      if String.ofList name = "export" then
        let (name, rest) ← cutName (Text.trimStart rest)
        some (name, ← cutEquals rest)
      else none

/-- Whether nothing or only a comment is left. -/
def isVoid (text : List Char) : Bool :=
  text.isEmpty || text.head? = some '#'

/-- Reads a line. -/
def readLine (environment : Environment) (line : String) : Line :=
  let text := Text.trim line.toList
  if isVoid text then .empty
  else
    match cutAssignment text with
    | none => .malformed
    | some (name, value) =>
        if isVoid value then .assignment (String.ofList name) ""
        else
          match readValue environment value with
          | some value => .assignment (String.ofList name) value
          | none => .malformed

/-! ## Files -/

/-- Provides the variables of some lines. There is no answer when a variable would have to hold a
zero character, which none can. -/
def loadLines (environment : Environment) : List (List UInt8) → Option Environment
  | [] => some environment
  | line :: rest =>
      match Text.Utf8.decodeStrict line with
      | .error _ => some environment
      | .ok text =>
          match readLine environment text with
          | .malformed => some environment
          | .empty => loadLines environment rest
          | .assignment name value =>
              if (environment.get? name).isNone && value.toList.contains '\x00' then none
              else loadLines (environment.provide name value) rest

/-- Provides the variables of a file. -/
def load (environment : Environment) (file : List UInt8) : Option Environment :=
  loadLines environment (Text.byteLines file)

/-- The pieces of a file that could be names of variables, whose values its lines may use. -/
def mentioned (file : List UInt8) : List String :=
  let text := (Text.Utf8.decode file).toList
  let pieces :=
    text.foldr
      (fun character pieces =>
        if isNameChar character then
          match pieces with
          | piece :: rest => (character :: piece) :: rest
          | [] => [[character]]
        else [] :: pieces)
      [[]]
  (pieces.filter fun piece => !piece.isEmpty).map String.ofList

/-- The paths where the file may be: in a directory, or else in the nearest one above it. -/
def candidates (directory : String) : List String :=
  let parts := (directory.splitOn "/").filter fun part => !part.isEmpty
  (List.range (parts.length + 1)).reverse.map fun count =>
    String.join ((parts.take count).map ("/" ++ ·)) ++ "/.env"

end StreamingChat.EnvFile
