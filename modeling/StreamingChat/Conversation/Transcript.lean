import StreamingChat.Conversation.Store
import StreamingChat.Json.Record
import StreamingChat.Json.Value

/-!
# Transcripts

A conversation is saved as a JSON record with the list of its messages, over several lines, and
resumed from any such record. A message without images is written without them; logs, images and
the error flag may be left out when reading.
-/

namespace StreamingChat

namespace Role

/-- What a name of a role must be. -/
def knownNames : String := "`user` or `assistant`"

/-- Reads the name of a role. -/
def nameReader : Json.Reader Role :=
  Json.Reader.decoded "variant identifier" fun name =>
    match ofName? name with
    | some role => .ok role
    | none => .error (.unknownName name knownNames)

/-- Reads the name of a role where it is the key of an object. -/
def keyReader : Json.Reader Role := fun text =>
  match Json.skipSpace text with
  | [] => .error (.after .endInObject [])
  | '"' :: rest => nameReader.run ('"' :: rest)
  | '\x7d' :: rest => .error (.upon .expectedValue ('\x7d' :: rest))
  | other => .error (.upon .keyNotString other)

/-- Reads a role: its name, or an object with the name as its key and no value. -/
def reader : Json.Reader Role := fun text =>
  match Json.skipSpace text with
  | [] => .error (.after .endInValue [])
  | '\x7b' :: rest => do
      let (role, afterName) ← keyReader.run rest
      let ((), afterValue) ← Json.Reader.unit.run (← Json.Shape.colon afterName)
      match Json.skipSpace afterValue with
      | [] => .error (.after .endInObject [])
      | '\x7d' :: after => .ok (role, after)
      | other => .error (.after .expectedValue other)
  | '"' :: rest => nameReader.run ('"' :: rest)
  | other => .error (.upon .expectedValue other)

end Role

/-- Reads a written timestamp. -/
def Time.Timestamp.reader : Json.Reader Time.Timestamp :=
  Json.Reader.decoded "an RFC 3339 formatted date and time string" fun text =>
    match Time.Timestamp.read text with
    | .ok timestamp => .ok timestamp
    | .error flaw => .error (.refused flaw.message)

namespace Image

/-- The fields of an image read so far. -/
structure Draft where
  mediaType : Option String
  data : Option String
  deriving DecidableEq, Repr

/-- The fields of an image. -/
def shape : Json.Shape Draft Image where
  name := "ImageAttachment"
  fields := [
    { name := "media_type"
      required := true
      given := fun draft => draft.mediaType.isSome
      read := fun draft => do
        let mediaType ← Json.Reader.string
        pure { draft with mediaType := some mediaType } },
    { name := "data"
      required := true
      given := fun draft => draft.data.isSome
      read := fun draft => do
        let data ← Json.Reader.string
        pure { draft with data := some data } }]
  blank := ⟨none, none⟩
  finish := fun draft =>
    match draft.mediaType, draft.data with
    | some mediaType, some data => .ok ⟨mediaType, data⟩
    | none, _ => .error "media_type"
    | _, none => .error "data"

/-- The record of an image. -/
def toValue (image : Image) : Json.Value :=
  .object [("media_type", .string image.mediaType), ("data", .string image.data)]

end Image

namespace Message

/-- The fields of a message read so far. -/
structure Draft where
  id : Option MessageId
  role : Option Role
  content : Option String
  logs : Option (List String)
  images : Option (List Image)
  error : Option Bool
  createdAt : Option Time.Timestamp
  deriving DecidableEq, Repr

/-- The message of a draft, or the name of the first required field that is missing. -/
def Draft.finish (draft : Draft) : Except String Message :=
  match draft.id, draft.role, draft.content, draft.createdAt with
  | none, _, _, _ => .error "id"
  | _, none, _, _ => .error "role"
  | _, _, none, _ => .error "content"
  | _, _, _, none => .error "created_at"
  | some id, some role, some content, some createdAt =>
      .ok ⟨id, role, content, draft.logs.getD [], draft.images.getD [], draft.error.getD false,
        createdAt⟩

/-- The fields of a message. -/
def shape : Json.Shape Draft Message where
  name := "Message"
  fields := [
    { name := "id"
      required := true
      given := fun draft => draft.id.isSome
      read := fun draft => do
        let id ← Json.Reader.natural
        pure { draft with id := some ⟨id⟩ } },
    { name := "role"
      required := true
      given := fun draft => draft.role.isSome
      read := fun draft => do
        let role ← Role.reader
        pure { draft with role := some role } },
    { name := "content"
      required := true
      given := fun draft => draft.content.isSome
      read := fun draft => do
        let content ← Json.Reader.string
        pure { draft with content := some content } },
    { name := "logs"
      required := false
      given := fun draft => draft.logs.isSome
      read := fun draft => do
        let logs ← Json.Reader.list Json.Reader.string
        pure { draft with logs := some logs } },
    { name := "images"
      required := false
      given := fun draft => draft.images.isSome
      read := fun draft => do
        let images ← Json.Reader.list Image.shape.reader
        pure { draft with images := some images } },
    { name := "error"
      required := false
      given := fun draft => draft.error.isSome
      read := fun draft => do
        let error ← Json.Reader.boolean
        pure { draft with error := some error } },
    { name := "created_at"
      required := true
      given := fun draft => draft.createdAt.isSome
      read := fun draft => do
        let createdAt ← Time.Timestamp.reader
        pure { draft with createdAt := some createdAt } }]
  blank := ⟨none, none, none, none, none, none, none⟩
  finish := Draft.finish

/-- The record of a message. -/
def toValue (message : Message) : Json.Value :=
  let images :=
    if message.images.isEmpty then []
    else [("images", Json.Value.list (message.images.map Image.toValue))]
  .object ([("id", .natural message.id.value.toNat), ("role", .string message.role.name),
    ("content", .string message.content), ("logs", .list (message.logs.map .string))] ++ images ++
    [("error", .boolean message.error), ("created_at", .string message.createdAt.write)])

end Message

/-- A saved conversation. -/
structure Transcript where
  messages : List Message
  deriving DecidableEq, Repr

namespace Transcript

/-- The one field of a transcript. -/
def shape : Json.Shape (Option (List Message)) Transcript where
  name := "Transcript"
  fields := [
    { name := "messages"
      required := true
      given := fun draft => draft.isSome
      read := fun _ => do
        let messages ← Json.Reader.list Message.shape.reader
        pure (some messages) }]
  blank := none
  finish := fun draft =>
    match draft with
    | some messages => .ok ⟨messages⟩
    | none => .error "messages"

/-- Reads a saved conversation. -/
def read (text : String) : Except Json.Fault Transcript :=
  shape.reader.parse text.toList

/-- The text that saves a conversation. -/
def write (transcript : Transcript) : String :=
  (Json.Value.object [("messages", .list (transcript.messages.map Message.toValue))]).pretty

/-- The transcript of a conversation. -/
def ofStore (store : Store) : Transcript := ⟨store.messages⟩

/-- Why a saved conversation is not resumed. -/
inductive LoadFailure where
  | trouble (trouble : Trouble)
  /-- No number is left above those of the messages. -/
  | exhausted
  deriving DecidableEq, Repr

/-- Resumes the conversation saved in a file, or begins one when there is no file yet. -/
def load (path : String) (file : FileState) : Except LoadFailure Store :=
  if !file.exists then .ok Store.empty
  else
    match file.text with
    | .error failure =>
        .error (.trouble ⟨s!"Failed to read transcript {path}", some failure.message⟩)
    | .ok text =>
        match read text with
        | .error fault =>
            .error (.trouble ⟨s!"Invalid transcript {path}", some (fault.message text.toList)⟩)
        | .ok transcript =>
            match Store.ofMessages? transcript.messages with
            | some store => .ok store
            | none => .error .exhausted

/-- How a failure to write is told. -/
def writeTrouble (path : String) (failure : FileFailure) : Trouble :=
  ⟨s!"Failed to write transcript {path}", some failure.message⟩

end Transcript

end StreamingChat
