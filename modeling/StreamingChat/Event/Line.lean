import StreamingChat.Event.Basic
import StreamingChat.Json.Record
import StreamingChat.Text.Blank

/-!
# Lines of an event stream

A line that begins with `data: ` carries a payload, trimmed of blank characters. The payload is the
word that ends the stream, or a JSON record with the kind of an event and its content. Every other
line is ignored, and a payload that is no event is skipped with the reason.
-/

namespace StreamingChat

/-- Why an event line is skipped. -/
inductive SkipReason where
  /-- The payload is no event record. -/
  | malformed (payload : String) (fault : String)
  /-- An event of a known kind has no content. -/
  | missingContent (kind : String)
  deriving DecidableEq, Repr

/-- How a skipped line is told. -/
def SkipReason.message : SkipReason → String
  | .malformed payload fault => s!"malformed event payload {Text.quoted payload}: {fault}"
  | .missingContent kind => s!"'{kind}' event without content"

/-- What a line says. -/
inductive LineReading where
  /-- It carries no payload. -/
  | ignored
  /-- The stream is complete. -/
  | terminator
  | parsed (event : Event)
  | skipped (reason : SkipReason)
  deriving DecidableEq, Repr

namespace EventLine

/-- What an event line begins with. -/
def payloadMark : List Char := "data: ".toList

/-- The payload that ends a stream. -/
def endMark : List Char := "[DONE]".toList

/-- The fields of an event record read so far. -/
structure Draft where
  kind : Option String
  content : Option (Option String)
  deriving DecidableEq, Repr

/-- The fields of an event record: the name of its kind, and its content, if any. -/
def shape : Json.Shape Draft (String × Option String) where
  name := "RawEvent"
  fields := [
    { name := "type"
      required := true
      given := fun draft => draft.kind.isSome
      read := fun draft => do
        let kind ← Json.Reader.string
        pure { draft with kind := some kind } },
    { name := "content"
      required := false
      given := fun draft => draft.content.isSome
      read := fun draft => do
        let content ← Json.Reader.optional Json.Reader.string
        pure { draft with content := some content } }]
  blank := ⟨none, none⟩
  finish := fun draft =>
    match draft.kind with
    | some kind => .ok (kind, draft.content.join)
    | none => .error "type"

/-- The event with a name and maybe a content. Only an event of another kind may lack it. -/
def interpret (name : String) (content : Option String) : LineReading :=
  let kind := EventKind.ofName name
  match content with
  | some content => .parsed ⟨kind, content⟩
  | none => if kind.isOther then .parsed ⟨kind, ""⟩ else .skipped (.missingContent name)

/-- Reads a trimmed payload. -/
def readPayload (payload : List Char) : LineReading :=
  if payload = endMark then .terminator
  else
    match shape.reader.parse payload with
    | .ok (name, content) => interpret name content
    | .error fault => .skipped (.malformed (String.ofList payload) (fault.message payload))

/-- Reads the characters of a line. -/
def readChars (line : List Char) : LineReading :=
  if payloadMark.isPrefixOf line then
    readPayload (Text.trim (line.drop payloadMark.length))
  else .ignored

/-- Reads a line. -/
def read (line : String) : LineReading :=
  readChars line.toList

end EventLine

end StreamingChat
