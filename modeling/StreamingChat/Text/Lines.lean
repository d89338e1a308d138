import StreamingChat.Transducer

/-!
# Lines

A `Framer` cuts a text that arrives in pieces into lines. A line ends at a newline, which is not
part of it; the characters after the last newline stay pending.
-/

namespace StreamingChat.Text

/-- Reads one character of a line whose characters so far are kept last one first. -/
def lineStep (line : List Char) (character : Char) : List Char × List String :=
  if character = '\n' then ([], [String.ofList line.reverse]) else (character :: line, [])

/-- The reader of lines. -/
def lineReader : Transducer (List Char) Char String := ⟨lineStep⟩

/-- The complete lines of a text, and the characters after its last newline. -/
def splitLines (text : List Char) : List String × List Char :=
  let (line, lines) := lineReader.run [] text
  (lines, line.reverse)

/-- A text that arrives in pieces, between two of them. -/
structure Framer where
  /-- The characters after the last newline, the last one first. -/
  line : List Char
  deriving DecidableEq, Repr

namespace Framer

/-- A framer that has read nothing. -/
def start : Framer := ⟨[]⟩

/-- The text that no newline has ended yet. -/
def pending (framer : Framer) : String :=
  String.ofList framer.line.reverse

/-- Reads a piece of text and hands out the lines it completes. -/
def push (framer : Framer) (piece : String) : Framer × List String :=
  let (line, lines) := lineReader.run framer.line piece.toList
  (⟨line⟩, lines)

/-- Takes the pending text, if there is any. -/
def take (framer : Framer) : Framer × Option String :=
  if framer.line.isEmpty then (framer, none) else (start, some framer.pending)

end Framer

end StreamingChat.Text
