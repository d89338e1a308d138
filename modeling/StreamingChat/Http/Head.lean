/-!
# Heads of HTTP responses

A response begins with a head: a line with the status, lines with fields, and an empty line. Main
function: `Head.read`.
-/

namespace StreamingChat.Http

/-- The head of a response. -/
structure Head where
  /-- The second number of the version, whose first one is 1. -/
  minorVersion : Nat
  status : Nat
  /-- The fields in order, with their names in lower case. -/
  fields : List (String × List UInt8)
  deriving DecidableEq, Repr

/-- What the bytes received so far say about the head of a response. -/
inductive HeadReading where
  | incomplete
  | invalid
  /-- The head, and the bytes after it. -/
  | complete (head : Head) (rest : List UInt8)
  deriving DecidableEq, Repr

namespace Head

/-- Cuts a line off some bytes, without its end: a line feed, perhaps after a carriage return. -/
def cutLine (bytes : List UInt8) : Option (List UInt8 × List UInt8) :=
  let line := bytes.takeWhile (· ≠ 0x0A)
  match bytes.drop line.length with
  | [] => none
  | _ :: rest => some (if line.getLast? = some 0x0D then line.dropLast else line, rest)

/-- At most `fuel` lines up to an empty one, and the bytes after that. -/
def cutLines : Nat → List UInt8 → Option (List (List UInt8) × List UInt8)
  | 0, _ => none
  | fuel + 1, bytes =>
      match cutLine bytes with
      | none => none
      | some ([], rest) => some ([], rest)
      | some (line, rest) =>
          (cutLines fuel rest).map fun (lines, after) => (line :: lines, after)

/-- The bytes after any empty lines at the front. -/
def dropEmptyLines : List UInt8 → List UInt8
  | 0x0D :: 0x0A :: rest => dropEmptyLines rest
  | 0x0A :: rest => dropEmptyLines rest
  | bytes => bytes

/-- Whether a byte may stand in the value of a field or in a reason. -/
def isText (byte : UInt8) : Bool :=
  byte = 0x09 || (0x20 ≤ byte && byte ≠ 0x7F)

/-- Whether a byte may stand in the name of a field. -/
def isToken (byte : UInt8) : Bool :=
  let character := Char.ofNat byte.toNat
  byte < 0x80 && (character.isAlphanum || "!#$%&'*+-.^_\x60|~".toList.contains character)

/-- A space or a tab. -/
def isSpace (byte : UInt8) : Bool :=
  byte = 0x20 || byte = 0x09

/-- The value of a decimal digit. -/
def digit? (byte : UInt8) : Option Nat :=
  if 0x30 ≤ byte && byte ≤ 0x39 then some (byte.toNat - 0x30) else none

/-- The version and the status in the first line of a head. -/
def readStatusLine (line : List UInt8) : Option (Nat × Nat) :=
  match line with
  | 0x48 :: 0x54 :: 0x54 :: 0x50 :: 0x2F :: 0x31 :: 0x2E :: minor :: 0x20 :: first :: second ::
      third :: reason => do
      let minorVersion ← digit? minor
      let hundreds ← digit? first
      let tens ← digit? second
      let ones ← digit? third
      let separated :=
        match reason with
        | [] => true
        | space :: rest => space = 0x20 && rest.all isText
      if minorVersion ≤ 1 && 1 ≤ hundreds && separated then
        some (minorVersion, hundreds * 100 + tens * 10 + ones)
      else none
  | _ => none

/-- Some bytes without the spaces on both ends. -/
def trimSpace (bytes : List UInt8) : List UInt8 :=
  ((bytes.dropWhile isSpace).reverse.dropWhile isSpace).reverse

/-- The characters of ASCII bytes in lower case. -/
def lowerAscii (bytes : List UInt8) : String :=
  String.ofList (bytes.map fun byte => (Char.ofNat byte.toNat).toLower)

/-- The greatest number of bytes in the name of a field. -/
def maxNameLength : Nat := 65535

/-- A field from its line. -/
def readField (line : List UInt8) : Option (String × List UInt8) :=
  let name := line.takeWhile isToken
  match line.drop name.length with
  | 0x3A :: value =>
      if name.isEmpty || maxNameLength < name.length || !value.all isText then none
      else some (lowerAscii name, trimSpace value)
  | _ => none

/-- The greatest number of fields that a head may have. -/
def maxFields : Nat := 100

/-- The greatest number of bytes that a head may have. -/
def maxLength : Nat := 417792

/-- Reads a head, once all of it has been received. -/
def read (bytes : List UInt8) : HeadReading :=
  match cutLines (bytes.length + 1) (dropEmptyLines bytes) with
  | none => if bytes.length < maxLength then .incomplete else .invalid
  | some ([], _) => .invalid
  | some (first :: lines, rest) =>
      match readStatusLine first, lines.mapM readField with
      | some (minorVersion, status), some fields =>
          if maxFields < fields.length || maxLength < bytes.length - rest.length then .invalid
          else .complete ⟨minorVersion, status, fields⟩ rest
      | _, _ => .invalid

/-- The values of a field. -/
def values (head : Head) (name : String) : List (List UInt8) :=
  (head.fields.filter fun field => field.1 = name).map Prod.snd

/-- The first value of a field. -/
def value? (head : Head) (name : String) : Option (List UInt8) :=
  (head.values name).head?

/-- Whether the status says that the request was successful. -/
def isSuccess (head : Head) : Bool :=
  200 ≤ head.status && head.status < 300

/-- Whether another head follows in the place of a body. -/
def isInterim (head : Head) : Bool :=
  head.status < 200 && head.status ≠ 101

end Head

end StreamingChat.Http
