import StreamingChat.Json.Skip

/-!
# Readers of typed values

A reader consumes one value of a known type and gives what remains. A value of another type is
refused together with what was found. Readers work on the text itself, so a fault is always that
of the first character that makes the text unreadable.
-/

namespace StreamingChat.Json

/-- Reads one value and gives the text after it. -/
abbrev Reader (α : Type) := StateT (List Char) (Except Fault) α

namespace Reader

variable {α β : Type}

/-- Gives the value that a text holds, with nothing but space after it. -/
def parse (reader : Reader α) (text : List Char) : Except Fault α := do
  let (value, rest) ← reader.run text
  match skipSpace rest with
  | [] => .ok value
  | other => .error (.upon .trailingCharacters other)

/-- Reads a constant after its first letter. -/
def word (letters : List Char) (value : α) : Reader α := fun rest =>
  (scanWord letters rest).map fun after => (value, after)

/-- Reads a string after its opening quote. -/
def stringBody : Reader String := fun rest =>
  (scanString rest).map fun (characters, after) => (String.ofList characters, after)

/-- Reads a value that is no list and no object, only to say what was found. -/
def scalar (text : List Char) : Except Fault (Found × List Char) :=
  match text with
  | [] => .error (.after .endInValue [])
  | 'n' :: rest => word ['u', 'l', 'l'] .null rest
  | 't' :: rest => word ['r', 'u', 'e'] (.boolean true) rest
  | 'f' :: rest => word ['a', 'l', 's', 'e'] (.boolean false) rest
  | '-' :: rest => (scanNumber true rest).map fun (number, after) => (number.found, after)
  | '"' :: rest => (stringBody.run rest).map fun (value, after) => (.string value, after)
  | character :: _ =>
      if character.isDigit then
        (scanNumber false text).map fun (number, after) => (number.found, after)
      else .error (.upon .expectedValue text)

/-- Refuses the value that a text begins with, when another type was wanted. -/
def mismatch (wanted : String) (text : List Char) : Fault :=
  match text with
  | '[' :: _ => .after (.wrongType .list wanted) text
  | '\x7b' :: _ => .after (.wrongType .object wanted) text
  | _ =>
      match scalar text with
      | .ok (found, after) => .after (.wrongType found wanted) after
      | .error fault => fault

/-- Reads a string, called `wanted` when something else is found. -/
def stringCalled (wanted : String) : Reader String := fun text =>
  match skipSpace text with
  | '"' :: rest => stringBody rest
  | other => .error (mismatch wanted other)

/-- Reads a string. -/
def string : Reader String := stringCalled "a string"

/-- Reads a truth value. -/
def boolean : Reader Bool := fun text =>
  match skipSpace text with
  | 't' :: rest => word ['r', 'u', 'e'] true rest
  | 'f' :: rest => word ['a', 'l', 's', 'e'] false rest
  | other => .error (mismatch "a boolean" other)

/-- Reads the constant that stands for nothing. -/
def unit : Reader Unit := fun text =>
  match skipSpace text with
  | 'n' :: rest => word ['u', 'l', 'l'] () rest
  | other => .error (mismatch "unit" other)

/-- How a sixty-four bit natural number is called. -/
def naturalName : String := "u64"

/-- Accepts a number that is a sixty-four bit natural number. -/
def asNatural (number : Number) (rest : List Char) : Except Fault (UInt64 × List Char) :=
  match number with
  | .natural value => .ok (UInt64.ofNat value, rest)
  | .negative _ => .error (.after (.wrongValue number.found naturalName) rest)
  | .decimal _ => .error (.after (.wrongType number.found naturalName) rest)

/-- Reads a sixty-four bit natural number. -/
def natural : Reader UInt64 := fun text =>
  match skipSpace text with
  | '-' :: rest => do
      let (number, after) ← scanNumber true rest
      asNatural number after
  | character :: rest =>
      if character.isDigit then do
        let (number, after) ← scanNumber false (character :: rest)
        asNatural number after
      else .error (mismatch naturalName (character :: rest))
  | [] => .error (.after .endInValue [])

/-- Reads a value, or the constant that stands for none. -/
def optional (reader : Reader α) : Reader (Option α) := fun text =>
  match skipSpace text with
  | 'n' :: rest => word ['u', 'l', 'l'] none rest
  | other => (reader.run other).map fun (value, after) => (some value, after)

/-- Reads a string and what it stands for, where a refused string is told by its reason. -/
def decoded (wanted : String) (decode : String → Except Cause α) : Reader α := fun text => do
  let (value, after) ← (stringCalled wanted).run text
  match decode value with
  | .ok result => .ok (result, after)
  | .error cause => .error (.after cause after)

/-- Consumes the end of a list. -/
def closeList (text : List Char) : Except Fault (List Char) :=
  match skipSpace text with
  | [] => .error (.after .endInList [])
  | ']' :: rest => .ok rest
  | ',' :: rest =>
      match skipSpace rest with
      | ']' :: after => .error (.upon .trailingComma (']' :: after))
      | other => .error (.upon .trailingCharacters other)
  | other => .error (.upon .trailingCharacters other)

/-- Goes to the next element of a list: `none` when the list is at its end. -/
def nextElement (first : Bool) (text : List Char) : Except Fault (Option (List Char)) :=
  match skipSpace text with
  | [] => .error (.after .endInList [])
  | ']' :: _ => .ok none
  | character :: rest =>
      if first then .ok (some (character :: rest))
      else if character ≠ ',' then
        .error (.upon .expectedListCommaOrEnd (character :: rest))
      else
        match skipSpace rest with
        | [] => .error (.after .endInValue [])
        | ']' :: after => .error (.upon .trailingComma (']' :: after))
        | element => .ok (some element)

/-- Reads at most `fuel` elements up to the end of their list, after those already `done`. -/
def elements (reader : Reader α) : Nat → Array α → Reader (Array α)
  | 0, _, text => .error (.after .endInList text)
  | fuel + 1, done, text => do
      match ← nextElement done.isEmpty text with
      | none => .ok (done, text)
      | some element =>
          let (value, after) ← reader.run element
          elements reader fuel (done.push value) after

/-- Reads a list. Each element takes at least one character, which bounds their number. -/
def list (reader : Reader α) : Reader (List α) := fun text =>
  match skipSpace text with
  | '[' :: rest => do
      let (values, after) ← elements reader (rest.length + 1) #[] rest
      let closed ← closeList after
      .ok (values.toList, closed)
  | other => .error (mismatch "a sequence" other)

end Reader

end StreamingChat.Json
