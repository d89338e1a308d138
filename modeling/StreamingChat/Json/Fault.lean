import StreamingChat.Text.Quoted

/-!
# Faults in JSON texts

A reader that refuses a text names the cause and the text it had not consumed yet. The place of a
fault, a line and a column counted in bytes, follows from what remains: no reader keeps a position.
-/

namespace StreamingChat.Json

/-- What stands where something else was wanted. -/
inductive Found where
  | null
  | boolean (value : Bool)
  | integer (value : Int)
  /-- A number with a fraction or an exponent, or one past the integers, in its shortest form. -/
  | decimal (text : String)
  | string (value : String)
  | list
  | object
  deriving DecidableEq, Repr

/-- How a value that was found is told. -/
def Found.describe : Found → String
  | .null => "null"
  | .boolean value => s!"boolean `{value}`"
  | .integer value => s!"integer `{value}`"
  | .decimal text => s!"floating point `{text}`"
  | .string value => s!"string {Text.quoted value}"
  | .list => "sequence"
  | .object => "map"

/-- Why a text is refused. -/
inductive Cause where
  | endInValue
  | endInList
  | endInObject
  | endInString
  | expectedColon
  | expectedListCommaOrEnd
  | expectedObjectCommaOrEnd
  | expectedWord
  | expectedValue
  | invalidEscape
  | invalidNumber
  | numberOutOfRange
  | controlCharacter
  /-- A surrogate without its partner. -/
  | loneSurrogate
  /-- A leading surrogate that no further escape follows. -/
  | unfinishedSurrogate
  | keyNotString
  | trailingComma
  | trailingCharacters
  /-- A value of another type than the `wanted` one. -/
  | wrongType (found : Found) (wanted : String)
  /-- A value of the right type outside the `wanted` range. -/
  | wrongValue (found : Found) (wanted : String)
  /-- A positional record that ends before its field at position `count`. -/
  | wrongLength (count : Nat) (wanted : String)
  /-- A name that is none of the `known` ones. -/
  | unknownName (name : String) (known : String)
  | missingField (name : String)
  | duplicateField (name : String)
  /-- A string whose own format refuses it for the given reason. -/
  | refused (reason : String)
  deriving DecidableEq, Repr

/-- How a cause is told. -/
def Cause.message : Cause → String
  | .endInValue => "EOF while parsing a value"
  | .endInList => "EOF while parsing a list"
  | .endInObject => "EOF while parsing an object"
  | .endInString => "EOF while parsing a string"
  | .expectedColon => "expected `:`"
  | .expectedListCommaOrEnd => "expected `,` or `]`"
  | .expectedObjectCommaOrEnd => "expected `,` or `\x7d`"
  | .expectedWord => "expected ident"
  | .expectedValue => "expected value"
  | .invalidEscape => "invalid escape"
  | .invalidNumber => "invalid number"
  | .numberOutOfRange => "number out of range"
  | .controlCharacter => "control character (\\u0000-\\u001F) found while parsing a string"
  | .loneSurrogate => "lone leading surrogate in hex escape"
  | .unfinishedSurrogate => "unexpected end of hex escape"
  | .keyNotString => "key must be a string"
  | .trailingComma => "trailing comma"
  | .trailingCharacters => "trailing characters"
  | .wrongType found wanted => s!"invalid type: {found.describe}, expected {wanted}"
  | .wrongValue found wanted => s!"invalid value: {found.describe}, expected {wanted}"
  | .wrongLength count wanted => s!"invalid length {count}, expected {wanted}"
  | .unknownName name known => s!"unknown variant `{name}`, expected {known}"
  | .missingField name => s!"missing field `{name}`"
  | .duplicateField name => s!"duplicate field `{name}`"
  | .refused reason => reason

/-- A refusal: its cause, the text that was not consumed, and how many bytes of that text the
refusal is about. -/
structure Fault where
  cause : Cause
  rest : List Char
  ahead : Nat
  deriving DecidableEq, Repr

/-- A refusal right after what was consumed. -/
def Fault.after (cause : Cause) (rest : List Char) : Fault := ⟨cause, rest, 0⟩

/-- A refusal of the next byte. -/
def Fault.upon (cause : Cause) (rest : List Char) : Fault := ⟨cause, rest, 1⟩

/-- The number of bytes of a text. -/
def byteCount (text : List Char) : Nat :=
  text.foldl (fun count character => count + character.utf8Size) 0

/-- A line, counted from one, and the number of bytes before the place on that line. -/
structure Place where
  line : Nat
  column : Nat
  deriving DecidableEq, Repr

/-- Moves a place over the first `count` bytes of a text. -/
def Place.advance (place : Place) (count : Nat) : List Char → Place
  | [] => place
  | character :: rest =>
      if character.utf8Size ≤ count then
        let next :=
          if character = '\n' then ⟨place.line + 1, 0⟩
          else { place with column := place.column + character.utf8Size }
        next.advance (count - character.utf8Size) rest
      else { place with column := place.column + count }

/-- The place of a fault in the text that was read. -/
def Fault.place (fault : Fault) (text : List Char) : Place :=
  Place.advance ⟨1, 0⟩ (byteCount text - byteCount fault.rest + fault.ahead) text

/-- How a fault in a text is told. -/
def Fault.message (fault : Fault) (text : List Char) : String :=
  let place := fault.place text
  s!"{fault.cause.message} at line {place.line} column {place.column}"

end StreamingChat.Json
