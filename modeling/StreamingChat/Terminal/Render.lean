import StreamingChat.Conversation.Store
import StreamingChat.Terminal.Palette

/-!
# Incremental rendering

A `Terminal` shows a conversation by writing whatever is new in each snapshot: a header for each
message, its log lines, and its content. It remembers for each message how much has been written,
and whether the output stands at the start of a line. Writing may fail, and a message that changed
so that the written part of its content ends inside a character cannot be continued; both leave
the terminal without a memory of the message that it was drawing.
-/

namespace StreamingChat

/-- How much of a message has been written below its header. -/
structure Progress where
  /-- The number of bytes of the content. -/
  content : Nat
  /-- The number of log lines. -/
  logs : Nat
  deriving DecidableEq, Repr

/-- What a terminal remembers between two snapshots. -/
structure Terminal where
  palette : Palette
  /-- The messages whose header has been written. -/
  progress : List (MessageId × Progress)
  atLineStart : Bool
  /-- Whether a send was active in the last snapshot. -/
  wasLoading : Bool
  deriving DecidableEq, Repr

/-- Why a rendering stops. -/
inductive RenderFailure where
  /-- The output takes no more. -/
  | outputClosed
  /-- The written part of a content ends inside a character. -/
  | insideCharacter
  deriving DecidableEq, Repr

/-- What the header of a message with a number of images says. -/
def Palette.headerText (palette : Palette) (role : Role) (images : Nat) : String :=
  match role with
  | .user =>
      let count :=
        if images = 0 then "" else s!"{palette.dim}[{images} image(s)]{palette.reset} "
      s!"{palette.green}{palette.bold}You:{palette.reset} " ++ count
  | .assistant => s!"{palette.cyan}{palette.bold}Oswald:{palette.reset} "

/-- What a log line says. The note of a failure has a mark of its own. -/
def Palette.logText (palette : Palette) (failure : Bool) (entry : String) : String :=
  if failure then s!"  {palette.red}✗ {entry}{palette.reset}\n"
  else s!"  {palette.dim}{palette.italic}· {entry}{palette.reset}\n"

/-- A piece of output, told apart by what it shows of which message. -/
inductive Stroke where
  /-- The end of a line that has been left unfinished. -/
  | lineEnd
  | header (id : MessageId) (role : Role) (images : Nat)
  /-- A line of the log, perhaps the note of a failure. -/
  | log (id : MessageId) (failure : Bool) (entry : String)
  /-- A part of the content. -/
  | content (id : MessageId) (piece : String)
  deriving DecidableEq, Repr

namespace Stroke

/-- What is written. -/
def text (palette : Palette) : Stroke → String
  | .lineEnd => "\n"
  | .header _ role images => palette.headerText role images
  | .log _ failure entry => palette.logText failure entry
  | .content _ piece => piece

/-- Whether the output stands at the start of a line after it. -/
def endsLine : Stroke → Bool
  | .lineEnd => true
  | .header _ _ _ => false
  | .log _ _ _ => true
  | .content _ piece => piece.toList.getLast? = some '\n'

end Stroke

/-- An output and the number of bytes that it still takes, if that number is limited. -/
structure Output where
  /-- The bytes that were taken. -/
  taken : Array UInt8
  room : Option Nat
  deriving DecidableEq, Repr

/-- An output without a limit. -/
def Output.unlimited : Output := ⟨#[], none⟩

/-- An output that takes a number of bytes. -/
def Output.limited (room : Nat) : Output := ⟨#[], some room⟩

/-- Writes a text, and tells whether the output has taken it as a whole. -/
def Output.put (output : Output) (text : String) : Bool × Output :=
  let bytes := text.toUTF8.toList
  match output.room with
  | none => (true, { output with taken := output.taken ++ bytes })
  | some room =>
      (bytes.length ≤ room,
        ⟨output.taken ++ bytes.take room, some (room - bytes.length)⟩)

namespace Terminal

/-- A terminal that has written nothing. -/
def start (palette : Palette) : Terminal := ⟨palette, [], true, false⟩

/-- Begins a new line unless the output stands at the start of one. -/
def startLine (atLineStart : Bool) : List Stroke :=
  if atLineStart then [] else [.lineEnd]

/-- The header of a message that has none yet. -/
def headerStrokes (atLineStart : Bool) (message : Message) : List Stroke :=
  startLine atLineStart ++ [.header message.id message.role message.images.length]

/-- The given log lines of a message, the last of which is its last one. That one is the note of a
failure if the message has failed. -/
def logStrokes (id : MessageId) (atLineStart error : Bool) : List String → List Stroke
  | [] => []
  | entry :: rest =>
      startLine atLineStart ++
        .log id (error && rest.isEmpty) entry :: logStrokes id true error rest

/-- What follows the first bytes of a text, if they end with a whole character. -/
def dropBytes : Nat → List Char → Option (List Char)
  | 0, text => some text
  | _ + 1, [] => some []
  | count + 1, character :: rest =>
      if character.utf8Size ≤ count + 1 then dropBytes (count + 1 - character.utf8Size) rest
      else none

/-- The content that has not been written yet. -/
def contentStrokes (id : MessageId) (written : Nat) (content : String) :
    Except RenderFailure (List Stroke) :=
  if content.utf8ByteSize ≤ written then .ok []
  else
    match dropBytes written content.toList with
    | none => .error .insideCharacter
    | some piece => .ok [.content id (String.ofList piece)]

/-- Whether the output stands at the start of a line after some strokes. -/
def endsLine (atLineStart : Bool) (strokes : List Stroke) : Bool :=
  strokes.foldl (fun _ stroke => stroke.endsLine) atLineStart

/-- The header and the log lines of a message that have not been written yet. -/
def upperStrokes (terminal : Terminal) (message : Message) : List Stroke :=
  let known := terminal.progress.lookup message.id
  let header := if known.isSome then [] else headerStrokes terminal.atLineStart message
  let written := (known.map Progress.logs).getD 0
  header ++
    logStrokes message.id (endsLine terminal.atLineStart header) message.error
      (message.logs.drop written)

/-- Writes strokes one after the other, up to the first that the output does not take. -/
def write (terminal : Terminal) (output : Output) : List Stroke → Bool × Terminal × Output
  | [] => (true, terminal, output)
  | stroke :: rest =>
      let (whole, output) := output.put (stroke.text terminal.palette)
      if whole then { terminal with atLineStart := stroke.endsLine }.write output rest
      else (false, terminal, output)

/-- The terminal without a memory of a message. -/
def forget (terminal : Terminal) (id : MessageId) : Terminal :=
  { terminal with progress := terminal.progress.filter fun entry => entry.1 ≠ id }

/-- The terminal after a message has been written as a whole. -/
def remember (terminal : Terminal) (message : Message) (written : Nat) : Terminal :=
  let progress := ⟨max written message.content.utf8ByteSize, message.logs.length⟩
  { terminal with progress := (message.id, progress) :: terminal.progress }

/-- Writes what is new in a message. -/
def draw (terminal : Terminal) (output : Output) (message : Message) :
    Except RenderFailure Unit × Terminal × Output :=
  let written := ((terminal.progress.lookup message.id).map Progress.content).getD 0
  let (whole, drawing, output) :=
    (terminal.forget message.id).write output (terminal.upperStrokes message)
  if !whole then (.error .outputClosed, drawing, output)
  else
    match contentStrokes message.id written message.content with
    | .error failure => (.error failure, drawing, output)
    | .ok strokes =>
        let (whole, drawing, output) := drawing.write output strokes
        if whole then (.ok (), drawing.remember message written, output)
        else (.error .outputClosed, drawing, output)

/-- Writes what is new in some messages. -/
def drawAll (terminal : Terminal) (output : Output) :
    List Message → Except RenderFailure Unit × Terminal × Output
  | [] => (.ok (), terminal, output)
  | message :: rest =>
      match terminal.draw output message with
      | (.ok (), terminal, output) => terminal.drawAll output rest
      | stopped => stopped

/-- Writes what is new in a snapshot. The line of an answer is finished once its send is over. -/
def render (terminal : Terminal) (output : Output) (snapshot : Snapshot) :
    Except RenderFailure Unit × Terminal × Output :=
  match terminal.drawAll output snapshot.messages with
  | (.ok (), terminal, output) =>
      let ending :=
        if terminal.wasLoading && !snapshot.loading then startLine terminal.atLineStart else []
      let (whole, terminal, output) := terminal.write output ending
      if whole then (.ok (), { terminal with wasLoading := snapshot.loading }, output)
      else (.error .outputClosed, terminal, output)
  | stopped => stopped

end Terminal

end StreamingChat
