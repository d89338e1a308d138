import StreamingChat.Http.Head
import StreamingChat.Text.Charset

/-!
# Media types

The media type of a body may name the charset of its text as a parameter. Main function:
`MediaType.charsetOf`, by which the text of a body is decoded.
-/

namespace StreamingChat.Http

/-- A media type. -/
structure MediaType where
  /-- The two names around the slash, in lower case. -/
  essence : String × String
  /-- The parameters in order, with their names in lower case. -/
  parameters : List (String × String)
  deriving DecidableEq, Repr

namespace MediaType

/-- A text that consists of printable ASCII characters and tabs. -/
def asciiText? (bytes : List UInt8) : Option (List Char) :=
  if bytes.all fun byte => byte = 0x09 || (0x20 ≤ byte && byte < 0x7F) then
    some (bytes.map fun byte => Char.ofNat byte.toNat)
  else none

/-- Whether a character may stand in a name. -/
def isNameChar (character : Char) : Bool :=
  character.isAlphanum || "!#$%&'*+-.^_\x60|~".toList.contains character

/-- A name in lower case. -/
def lowerName (name : List Char) : String :=
  String.ofList (name.map Char.toLower)

/-- Goes on after a quoted value: spaces, and a semicolon unless the text ends. -/
def afterQuoted? (text : List Char) : Option (List Char) :=
  match text.dropWhile (· = ' ') with
  | [] => some []
  | ';' :: rest => some rest
  | _ => none

/-- The value of a parameter and the text after it and its semicolon. The first character between
quotes belongs to the value whatever it is. -/
def readValue? (text : List Char) : Option (String × List Char) :=
  match text with
  | '"' :: first :: rest =>
      let isInside (character : Char) : Bool := character ≠ '"' && 0x20 ≤ character.toNat
      let value := rest.takeWhile isInside
      match rest.dropWhile isInside with
      | '"' :: after =>
          if 0x20 ≤ first.toNat then
            (afterQuoted? after).map fun rest => (String.ofList (first :: value), rest)
          else none
      | _ => none
  | _ =>
      let value := text.takeWhile isNameChar
      match text.dropWhile isNameChar with
      | [] => some (String.ofList value, [])
      | ';' :: rest => if value.isEmpty then none else some (String.ofList value, rest)
      | _ => none

/-- At most `fuel` parameters. -/
def readParameters? : Nat → List Char → Option (List (String × String))
  | 0, _ => some []
  | fuel + 1, text =>
      match text.dropWhile (· = ' ') with
      | [] => some []
      | parameter => do
          let name := parameter.takeWhile isNameChar
          match parameter.dropWhile isNameChar with
          | '=' :: rest =>
              if name.isEmpty then none
              else
                let (value, after) ← readValue? rest
                let parameters ← readParameters? fuel after
                some ((lowerName name, value) :: parameters)
          | _ => none

/-- Reads a media type. -/
def read? (text : List Char) : Option MediaType :=
  let first := text.takeWhile isNameChar
  match text.dropWhile isNameChar with
  | '/' :: rest =>
      let second := rest.takeWhile isNameChar
      if first.isEmpty then none
      else
        match rest.dropWhile isNameChar with
        | [] => some ⟨(lowerName first, lowerName second), []⟩
        | ';' :: parameters =>
            if second.isEmpty then none
            else
              (readParameters? (parameters.length + 1) parameters).map fun parameters =>
                ⟨(lowerName first, lowerName second), parameters⟩
        | _ => none
  | _ => none

/-- The charset that a media type names, or UTF-8 when it names none that is known. -/
def charsetOf (fieldValue : Option (List UInt8)) : Text.Charset :=
  let known : Option Text.Charset := do
    let mediaType ← read? (← asciiText? (← fieldValue))
    Text.Charset.ofLabel? (← mediaType.parameters.lookup "charset")
  known.getD .utf8

end MediaType

end StreamingChat.Http
