import StreamingChat.Transducer

/-!
# Lines of bytes

Input and files are cut into lines before they are decoded, so that a flaw in one line does not
touch the others. Main statement: `flatten_byteLines`, by which cutting loses nothing.
-/

namespace StreamingChat.Text

/-- Reads one byte of a line whose bytes so far are kept last one first. -/
def byteLineStep (line : List UInt8) (byte : UInt8) : List UInt8 × List (List UInt8) :=
  if byte = 0x0A then ([], [(byte :: line).reverse]) else (byte :: line, [])

/-- The reader of lines of bytes. -/
def byteLineReader : Transducer (List UInt8) UInt8 (List UInt8) := ⟨byteLineStep⟩

/-- The lines of an input, each with its newline; the last one may have none. -/
def byteLines (input : List UInt8) : List (List UInt8) :=
  let (rest, lines) := byteLineReader.run [] input
  if rest.isEmpty then lines else lines ++ [rest.reverse]

theorem flatten_run_byteLineReader (line input : List UInt8) :
    (byteLineReader.run line input).2.flatten ++ (byteLineReader.run line input).1.reverse =
      line.reverse ++ input := by
  induction input generalizing line with
  | nil => simp
  | cons byte rest ih =>
      simp only [Transducer.run_cons, List.flatten_append, List.append_assoc, ih]
      by_cases newline : byte = 0x0A <;> simp [byteLineReader, byteLineStep, newline]

/-- Cutting an input into lines loses nothing. -/
theorem flatten_byteLines (input : List UInt8) : (byteLines input).flatten = input := by
  have whole := flatten_run_byteLineReader [] input
  simp only [byteLines]
  split
  · rename_i empty
    simpa [List.isEmpty_iff.mp empty] using whole
  · simpa using whole

end StreamingChat.Text
