import StreamingChat.Event.Stream
import StreamingChat.Proofs.Text.Lines
import StreamingChat.Proofs.Text.Utf8.Chunks
import StreamingChat.Proofs.Text.Utf8.Decoding

/-!
# Event streams and the cuts between chunks

An event stream holds back bytes of an unfinished character and characters of an unfinished line.
Both are determined by the bytes that it has read, and not by the cuts between the chunks:
`EventStream.after` is the state after some bytes, and each chunk gives the readings of the lines
that it completes. From this it follows by induction that a body read in chunks gives the readings
of the lines of its whole text, where the text is the one that `Decodes` determines.
-/

namespace StreamingChat

namespace EventStream

open Text

def takeIn (stream : EventStream) : StreamInput → EventStream × List LineReading
  | .chunk bytes => stream.feed bytes
  | .ended => stream.finish

def machine : Transducer EventStream StreamInput LineReading := ⟨takeIn⟩

/-- The stream that has read some bytes. -/
def after (flushes : Bool) (bytes : List UInt8) : EventStream :=
  ⟨flushes, Utf8.Decoder.after bytes, Framer.after (Utf8.delivered bytes)⟩

theorem after_nil (flushes : Bool) : after flushes [] = start flushes := by
  simp [after, start, Utf8.Decoder.after, Utf8.Decoder.start, Framer.after, Framer.start,
    Utf8.delivered, Utf8.dropMark]

theorem feed_after (flushes : Bool) (bytes chunk : List UInt8) :
    ∃ lines, (after flushes bytes).feed chunk =
        (after flushes (bytes ++ chunk), lines.map EventLine.read) ∧
      completeLines (Utf8.delivered (bytes ++ chunk)) =
        completeLines (Utf8.delivered bytes) ++ lines := by
  rcases Utf8.Decoder.feed_after bytes chunk with ⟨piece, decoded, grown⟩
  rcases Framer.push_after (Utf8.delivered bytes) piece with ⟨lines, pushed, completed⟩
  refine ⟨lines, ?_, ?_⟩
  · simp only [feed, after, decoded, pushed, grown]
  · rw [grown, completed]

/-- Whether the end of the body has been read. -/
def Ended (stream : EventStream) : Prop :=
  stream.decoder.ended = true ∧ stream.framer = Framer.start

theorem finish_after (flushes : Bool) (bytes : List UInt8) :
    ∃ ended lines, (after flushes bytes).finish = (ended, lines.map EventLine.read) ∧
      ended.Ended ∧
      linesOf flushes (Utf8.dropMark (Utf8.characters bytes)) =
        completeLines (Utf8.delivered bytes) ++ lines := by
  rcases Utf8.Decoder.finish_after bytes with ⟨piece, decoder, decoded, decoderEnded, grown⟩
  rcases Framer.push_after (Utf8.delivered bytes) piece with ⟨lines, pushed, completed⟩
  have taken := Framer.take_after (Utf8.delivered bytes ++ piece)
  have whole : linesOf flushes (Utf8.dropMark (Utf8.characters bytes)) =
      completeLines (Utf8.delivered bytes) ++ (lines ++
        if flushes = true ∧ unterminated (Utf8.delivered bytes ++ piece) ≠ [] then
          [String.ofList (unterminated (Utf8.delivered bytes ++ piece))]
        else []) := by
    rw [grown, linesOf, completed, List.append_assoc]
  refine ⟨⟨flushes, decoder, Framer.start⟩, _, ?_, ⟨decoderEnded, rfl⟩, whole⟩
  simp only [finish, after, decoded, pushed, taken]
  by_cases empty : unterminated (Utf8.delivered bytes ++ piece) = []
  · simp [empty]
  · simp [empty]

theorem takeIn_of_ended {stream : EventStream} (ended : stream.Ended) (input : StreamInput) :
    stream.takeIn input = (stream, []) := by
  rcases stream with ⟨flushes, decoder, framer⟩
  rcases ended with ⟨decoderEnded, rfl⟩
  have nothing : Framer.start.push "" = (Framer.start, []) := rfl
  have noRest : Framer.start.take = (Framer.start, none) := rfl
  cases input with
  | chunk bytes =>
      simp [takeIn, feed, Utf8.Decoder.feed_of_ended decoderEnded, nothing]
  | ended =>
      simp [takeIn, finish, Utf8.Decoder.finish_of_ended decoderEnded, nothing, noRest]

/-- Nothing is read after the end. -/
theorem run_machine_of_ended {stream : EventStream} (ended : stream.Ended)
    (inputs : List StreamInput) : machine.run stream inputs = (stream, []) := by
  induction inputs with
  | nil => simp
  | cons input rest ih =>
      have step : machine.step stream input = (stream, []) := takeIn_of_ended ended input
      simp [Transducer.run_cons, step, ih]

theorem run_machine_chunks (flushes : Bool) (bytes : List UInt8) (chunks : List (List UInt8)) :
    ∃ lines, machine.run (after flushes bytes) (chunks.map .chunk) =
        (after flushes (bytes ++ chunks.flatten), lines.map EventLine.read) ∧
      completeLines (Utf8.delivered (bytes ++ chunks.flatten)) =
        completeLines (Utf8.delivered bytes) ++ lines := by
  induction chunks generalizing bytes with
  | nil => exact ⟨[], by simp, by simp⟩
  | cons chunk rest ih =>
      rcases feed_after flushes bytes chunk with ⟨first, fed, grown⟩
      rcases ih (bytes ++ chunk) with ⟨later, run, grownLater⟩
      have step : machine.step (after flushes bytes) (.chunk chunk) =
          (after flushes (bytes ++ chunk), first.map EventLine.read) := fed
      refine ⟨first ++ later, ?_, ?_⟩
      · simp [Transducer.run_cons, step, run]
      · rw [List.flatten_cons, ← List.append_assoc, grownLater, grown, List.append_assoc]

/-- The end of the input adds at most one U+FFFD, which completes no line. -/
theorem completeLines_delivered (bytes : List UInt8) :
    completeLines (Utf8.delivered bytes) =
      completeLines (Utf8.dropMark (Utf8.characters bytes)) := by
  have other : Utf8.replacement ≠ '\n' := by decide
  rw [Utf8.characters_eq_readFrom, Utf8.readFrom, Utf8.delivered]
  unfold Utf8.flush
  split
  · rw [Utf8.dropMark_append]
    split
    · rename_i nothing
      rw [nothing]
      exact (completeLines_append_singleton other []).symm
    · exact (completeLines_append_singleton other _).symm
  · rw [List.append_nil]

/-- A body in chunks that does not end gives the readings of its complete lines. -/
theorem run_machine_start_chunks (flushes : Bool) (chunks : List (List UInt8)) :
    machine.run (start flushes) (chunks.map .chunk) =
      (after flushes chunks.flatten,
        (completeLines (Utf8.dropMark (Utf8.characters chunks.flatten))).map EventLine.read) := by
  rcases run_machine_chunks flushes [] chunks with ⟨lines, run, grown⟩
  have nothing : completeLines (Utf8.delivered []) = [] := rfl
  simp only [nothing, List.nil_append, completeLines_delivered] at run grown
  rw [← after_nil, run, ← grown]

/-- A body in chunks that ends gives the readings of the lines of its text. -/
theorem run_machine_start_ended (flushes : Bool) (chunks : List (List UInt8)) :
    ∃ ended, machine.run (start flushes) (chunks.map .chunk ++ [.ended]) =
        (ended, (linesOf flushes (Utf8.dropMark (Utf8.characters chunks.flatten))).map
          EventLine.read) ∧
      ended.Ended := by
  rcases finish_after flushes chunks.flatten with ⟨ended, lines, finished, isEnded, whole⟩
  refine ⟨ended, ?_, isEnded⟩
  have step : machine.run (after flushes chunks.flatten) [.ended] =
      (ended, lines.map EventLine.read) := by
    have taken : machine.step (after flushes chunks.flatten) .ended =
        (ended, lines.map EventLine.read) := finished
    simp [Transducer.run_cons, taken]
  rw [Transducer.run_append, run_machine_start_chunks, step, whole, completeLines_delivered,
    List.map_append]

end EventStream

theorem readBody_eq (flushes : Bool) (body : List UInt8) :
    readBody flushes body =
      (Text.linesOf flushes (Text.Utf8.dropMark (Text.Utf8.characters body))).map
        EventLine.read := by
  simp only [readBody, Text.Utf8.decode, String.toList_ofList, Text.splitLines_eq, Text.linesOf]
  congr 2
  grind

/-- However a body is cut into chunks, its readings are those of the lines of its text, which is
determined by its bytes; and nothing is read after its end. -/
theorem EventStream.readings_of_chunks (flushes : Bool) (chunks : List (List UInt8)) :
    ∃ text, (∀ other, Text.Utf8.Decodes chunks.flatten other ↔ other = text) ∧
      (machine.run (start flushes) (chunks.map .chunk ++ [.ended])).2 =
        (Text.linesOf flushes (Text.Utf8.dropMark text)).map EventLine.read ∧
      readBody flushes chunks.flatten =
        (Text.linesOf flushes (Text.Utf8.dropMark text)).map EventLine.read ∧
      ∀ later, (machine.run
        (machine.run (start flushes) (chunks.map .chunk ++ [.ended])).1 later).2 = [] := by
  rcases run_machine_start_ended flushes chunks with ⟨ended, run, isEnded⟩
  refine ⟨Text.Utf8.characters chunks.flatten, fun other => Text.Utf8.decodes_iff, ?_, ?_, ?_⟩
  · rw [run]
  · exact readBody_eq flushes chunks.flatten
  · intro later
    rw [run, run_machine_of_ended isEnded]

/-- A byte order mark in front of the first line is cut twice. -/
example :
    let line := "data: [DONE]\n".toUTF8.toList
    (EventStream.machine.run (EventStream.start false)
      [.chunk [0xEF], .chunk [0xBB], .chunk (0xBF :: line), .ended]).2 = [.terminator] := by
  decide +kernel

end StreamingChat
