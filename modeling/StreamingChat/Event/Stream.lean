import StreamingChat.Event.Line
import StreamingChat.Text.Lines
import StreamingChat.Text.Utf8

/-!
# Event streams

The bytes of a response are decoded, cut into lines, and each line is read. An `EventStream` does so
chunk by chunk; `readBody` is the same reading of a whole body at once.
-/

namespace StreamingChat

/-- The reading of a body that arrives in chunks, between two of them. -/
structure EventStream where
  /-- Whether a last line without a newline is read, too. -/
  flushes : Bool
  decoder : Text.Utf8.Decoder
  framer : Text.Framer
  deriving DecidableEq, Repr

namespace EventStream

/-- The reading of a body of which nothing has arrived. -/
def start (flushes : Bool) : EventStream :=
  ⟨flushes, Text.Utf8.Decoder.start, Text.Framer.start⟩

/-- Reads a chunk and gives the readings of the lines that it completes. -/
def feed (stream : EventStream) (chunk : List UInt8) : EventStream × List LineReading :=
  let (decoder, text) := stream.decoder.feed chunk
  let (framer, lines) := stream.framer.push text
  ({ stream with decoder, framer }, lines.map EventLine.read)

/-- Ends the body. A last line without a newline is dropped unless the stream flushes it. -/
def finish (stream : EventStream) : EventStream × List LineReading :=
  let (decoder, text) := stream.decoder.finish
  let (framer, lines) := stream.framer.push text
  let (framer, rest) := framer.take
  let last := if stream.flushes then rest.toList else []
  ({ stream with decoder, framer }, (lines ++ last).map EventLine.read)

end EventStream

/-- The readings of the lines of a whole body. -/
def readBody (flushes : Bool) (body : List UInt8) : List LineReading :=
  let (lines, rest) := Text.splitLines (Text.Utf8.decode body).toList
  let last := if flushes && !rest.isEmpty then [String.ofList rest] else []
  (lines ++ last).map EventLine.read

end StreamingChat
