import StreamingChat.Json.Reader

/-!
# Records

A record is read from an object, whose members may come in any order and among members that nobody
asks for, or from a list of its fields in the order of their declaration. A shape says what the
fields are; a draft holds the fields read so far. When the fields themselves are refused, because
one is missing or comes twice, the fault is told at the end of the record if its end is in reach.
-/

namespace StreamingChat.Json

variable {δ α : Type}

/-- A field of a record with drafts `δ`. -/
structure Field (δ : Type) where
  name : String
  /-- Whether a record without the field is refused. -/
  required : Bool
  /-- Whether a draft holds the field. -/
  given : δ → Bool
  /-- Reads the field into a draft. -/
  read : δ → Reader δ

/-- What a record with values `α` consists of. -/
structure Shape (δ α : Type) where
  name : String
  fields : List (Field δ)
  /-- The draft that holds no field. -/
  blank : δ
  /-- The record of a draft, or the name of the first required field that is missing. -/
  finish : δ → Except String α

namespace Shape

/-- How a record is called. -/
def title (shape : Shape δ α) : String :=
  s!"struct {shape.name}"

/-- How a record is called together with the number of its fields. -/
def titleWithLength (shape : Shape δ α) : String :=
  let count := shape.fields.length
  let noun := if count = 1 then "element" else "elements"
  s!"{shape.title} with {count} {noun}"

/-- The text after the end of an object, if that is what comes next. -/
def reachObjectEnd (text : List Char) : List Char :=
  match skipSpace text with
  | '\x7d' :: rest => rest
  | other => other

/-- The text after the end of a list, if that is what comes next, also after a comma. -/
def reachListEnd (text : List Char) : List Char :=
  match skipSpace text with
  | ']' :: rest => rest
  | ',' :: rest => skipSpace rest
  | other => other

/-- Goes to the next key of an object, after its quote: `none` when the object is at its end. -/
def nextKey (first : Bool) (text : List Char) : Except Fault (Option (List Char)) :=
  match skipSpace text with
  | [] => .error (.after .endInObject [])
  | '\x7d' :: _ => .ok none
  | character :: rest =>
      if first then
        if character = '"' then .ok (some rest)
        else .error (.upon .keyNotString (character :: rest))
      else if character ≠ ',' then
        .error (.upon .expectedObjectCommaOrEnd (character :: rest))
      else
        match skipSpace rest with
        | [] => .error (.after .endInValue [])
        | '"' :: key => .ok (some key)
        | '\x7d' :: after => .error (.upon .trailingComma ('\x7d' :: after))
        | other => .error (.upon .keyNotString other)

/-- Consumes the colon after a key. -/
def colon (text : List Char) : Except Fault (List Char) :=
  match skipSpace text with
  | [] => .error (.after .endInObject [])
  | ':' :: rest => .ok rest
  | other => .error (.upon .expectedColon other)

/-- Reads the value of a member into a draft. -/
def member (shape : Shape δ α) (draft : δ) (key : String) (text : List Char) :
    Except Fault (δ × List Char) :=
  match shape.fields.find? (fun field => field.name == key) with
  | some field =>
      if field.given draft then
        .error (.after (.duplicateField field.name) (reachObjectEnd text))
      else do (field.read draft).run (← colon text)
  | none => do .ok (draft, ← skipValue (← colon text))

/-- Reads at most `fuel` members up to the end of their object. -/
def members (shape : Shape δ α) : Nat → Bool → δ → Reader δ
  | 0, _, _, text => .error (.after .endInObject text)
  | fuel + 1, first, draft, text => do
      match ← nextKey first text with
      | none => .ok (draft, text)
      | some key =>
          let (characters, afterKey) ← scanString key
          let (draft, after) ← shape.member draft (String.ofList characters) afterKey
          shape.members fuel false draft after

/-- Reads the given fields from a list, beginning with the one at position `count`. -/
def positions (shape : Shape δ α) : Nat → List (Field δ) → δ → Reader δ
  | _, [], draft, text => .ok (draft, text)
  | count, field :: fields, draft, text => do
      match ← Reader.nextElement (count == 0) text with
      | none =>
          if field.required then
            .error (.after (.wrongLength count shape.titleWithLength) (reachListEnd text))
          else shape.positions (count + 1) fields draft text
      | some element =>
          let (draft, after) ← (field.read draft).run element
          shape.positions (count + 1) fields draft after

/-- Consumes the end of an object. -/
def closeObject (text : List Char) : Except Fault (List Char) :=
  match skipSpace text with
  | [] => .error (.after .endInObject [])
  | '\x7d' :: rest => .ok rest
  | ',' :: rest => .error (.upon .trailingComma (',' :: rest))
  | other => .error (.upon .trailingCharacters other)

/-- Completes a draft, or refuses it at the given place. -/
def complete (shape : Shape δ α) (draft : δ) (place : List Char) : Except Fault α :=
  match shape.finish draft with
  | .ok record => .ok record
  | .error name => .error (.after (.missingField name) place)

/-- Reads a record. -/
def reader (shape : Shape δ α) : Reader α := fun text =>
  match skipSpace text with
  | '\x7b' :: rest => do
      let (draft, after) ← shape.members (rest.length + 1) true shape.blank rest
      let record ← shape.complete draft (reachObjectEnd after)
      .ok (record, ← closeObject after)
  | '[' :: rest => do
      let (draft, after) ← shape.positions 0 shape.fields shape.blank rest
      let record ← shape.complete draft (reachListEnd after)
      .ok (record, ← Reader.closeList after)
  | other => .error (Reader.mismatch shape.title other)

end Shape

end StreamingChat.Json
