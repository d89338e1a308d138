import StreamingChat.File
import StreamingChat.Text.Base64
import StreamingChat.Time.Stamp

/-!
# Messages

A conversation is a list of messages of the user and the assistant. Contents and logs only grow, and
the error flag stays set once it is set.
-/

namespace StreamingChat

/-- The number of a message, unique within a conversation that this program has made. -/
structure MessageId where
  value : UInt64
  deriving DecidableEq, Repr

/-- How a message is named in logs. -/
def MessageId.label (id : MessageId) : String :=
  s!"#{id.value.toNat}"

/-- Who speaks. -/
inductive Role where
  | user
  | assistant
  deriving DecidableEq, Repr

/-- The name of a role. -/
def Role.name : Role → String
  | .user => "user"
  | .assistant => "assistant"

/-- The role with a given name. -/
def Role.ofName? (name : String) : Option Role :=
  if name = "user" then some .user
  else if name = "assistant" then some .assistant
  else none

/-- An image that goes with a prompt. Its data is kept as it is and never looked into. -/
structure Image where
  mediaType : String
  /-- The Base64 text of the bytes. -/
  data : String
  deriving DecidableEq, Repr

namespace Image

/-- The image of some bytes. -/
def ofBytes (mediaType : String) (bytes : List UInt8) : Image :=
  ⟨mediaType, Text.Base64.encode bytes⟩

/-- The last part of a path. -/
def fileName (path : List Char) : List Char :=
  let trimmed := (path.reverse.dropWhile (· = '/')).reverse
  (trimmed.reverse.takeWhile (· ≠ '/')).reverse

/-- What follows the last dot of a file name, unless the name begins with that dot. -/
def extension (name : List Char) : Option (List Char) :=
  let reversed := name.reverse
  let suffix := reversed.takeWhile (· ≠ '.')
  match reversed.drop suffix.length with
  | _ :: _ :: _ => some suffix.reverse
  | _ => none

/-- The media type that the extension of a file name stands for. -/
def mediaTypeOf (path : String) : String :=
  let lowered (name : List Char) : String := String.ofList (name.map Char.toLower)
  match (extension (fileName path.toList)).map lowered with
  | some "png" => "image/png"
  | some "jpg" => "image/jpeg"
  | some "jpeg" => "image/jpeg"
  | some "gif" => "image/gif"
  | some "webp" => "image/webp"
  | _ => "application/octet-stream"

/-- The image in a file, whose path says what it is. -/
def ofFile (path : String) (file : FileState) : Except Trouble Image :=
  match file.bytes with
  | .ok bytes => .ok (ofBytes (mediaTypeOf path) bytes)
  | .error failure => .error ⟨s!"Failed to read image {path}", some failure.message⟩

end Image

/-- One message of a conversation. -/
structure Message where
  id : MessageId
  role : Role
  content : String
  /-- The lines received beside the content. -/
  logs : List String
  images : List Image
  /-- Whether the send that the message answers has failed. -/
  error : Bool
  createdAt : Time.Timestamp
  deriving DecidableEq, Repr

namespace Message

/-- A message that has just been made. -/
def fresh (id : MessageId) (role : Role) (content : String) (images : List Image)
    (now : Time.Timestamp) : Message :=
  ⟨id, role, content, [], images, false, now⟩

/-- Adds to the content. -/
def appendContent (message : Message) (piece : String) : Message :=
  { message with content := message.content ++ piece }

/-- Adds a line to the log. -/
def appendLog (message : Message) (entry : String) : Message :=
  { message with logs := message.logs ++ [entry] }

/-- Records a failure: its note becomes the last line of the log. -/
def markError (message : Message) (note : String) : Message :=
  { message.appendLog note with error := true }

end Message

end StreamingChat
