import StreamingChat.Proofs.Text.Lines
import StreamingChat.Proofs.Text.Trimming
import StreamingChat.Proofs.Text.Utf8.Lines
import StreamingChat.Proofs.Text.Utf8.Strict
import StreamingChat.Terminal.Prompt
import StreamingChat.Text.ByteLines

/-!
# Lines of typed text

Input is cut into lines while it is still bytes, and each line is decoded by itself. For the bytes
of a text this makes no difference: a newline occurs in the encoding of no other character, so that
the lines of the bytes are those of the text. The prompts of an input are therefore the lines of its
text, trimmed.
-/

namespace StreamingChat

namespace Text

/-! ## Trimming -/

theorem trimString_append_newline (line : String) :
    trimString (line ++ "\n") = trimString line := by
  have blank : isBlank '\n' = true := by decide
  rw [trimString, trimString, String.toList_append]
  exact congrArg String.ofList (trim_append_singleton blank line.toList)

theorem trimString_trimString (text : String) : trimString (trimString text) = trimString text := by
  rw [trimString, trimString, String.toList_ofList, trim_trim]

/-! ## Lines of bytes -/

/-- The bytes of some characters. -/
def encoded (text : List Char) : List UInt8 :=
  text.flatMap String.utf8EncodeChar

theorem run_byteLineReader_of_notMem {bytes : List UInt8} (noNewline : 0x0A ∉ bytes)
    (line : List UInt8) : byteLineReader.run line bytes = (bytes.reverse ++ line, []) := by
  induction bytes generalizing line with
  | nil => simp
  | cons byte rest ih =>
      rw [List.mem_cons, not_or] at noNewline
      have kept : byteLineReader.step line byte = (byte :: line, []) :=
        if_neg (Ne.symm noNewline.1)
      rw [Transducer.run_cons, kept, ih noNewline.2]
      simp

/-- The lines of bytes are the encodings of the lines of characters. -/
theorem run_byteLineReader_encoded (line text : List Char) :
    let read := lineReader.run line text
    byteLineReader.run (encoded line.reverse).reverse (encoded text) =
      ((encoded read.1.reverse).reverse,
        read.2.map fun line => (line ++ "\n").toUTF8.toList) := by
  intro read
  induction text generalizing line with
  | nil => simp [read, encoded]
  | cons character rest ih =>
      have parts : encoded (character :: rest) =
          String.utf8EncodeChar character ++ encoded rest := rfl
      rw [parts, Transducer.run_append]
      by_cases newline : character = '\n'
      · subst newline
        have ended : byteLineReader.run (encoded line.reverse).reverse
              (String.utf8EncodeChar '\n') =
            ([], [(String.ofList line.reverse ++ "\n").toUTF8.toList]) := by
          have own : String.utf8EncodeChar '\n' = [0x0A] := by decide
          rw [own, Utf8.toList_toUTF8, Transducer.run_cons]
          simp [byteLineReader, byteLineStep, encoded, own]
        have again := ih []
        have steps : read = ((lineReader.run [] rest).1,
            String.ofList line.reverse :: (lineReader.run [] rest).2) := by
          simp [read, Transducer.run_cons, lineStep]
        rw [List.reverse_nil, encoded, List.flatMap_nil, List.reverse_nil] at again
        rw [ended, steps, List.map_cons]
        dsimp only
        rw [again]
        rfl
      · have within := run_byteLineReader_of_notMem
          (fun member => newline (Utf8.eq_newline_of_mem_utf8EncodeChar member)) (encoded line.reverse).reverse
        have again := ih (character :: line)
        have steps : read = lineReader.run (character :: line) rest := by
          simp [read, Transducer.run_cons, lineStep, newline]
        have state : (String.utf8EncodeChar character).reverse ++ (encoded line.reverse).reverse =
            (encoded (character :: line).reverse).reverse := by
          simp [encoded]
        rw [within, steps]
        dsimp only
        rw [state, again]
        rfl

theorem byteLines_toUTF8 (text : String) :
    byteLines text.toUTF8.toList =
      (completeLines text.toList).map (fun line => (line ++ "\n").toUTF8.toList) ++
        if unterminated text.toList = [] then []
        else [(String.ofList (unterminated text.toList)).toUTF8.toList] := by
  have whole := run_byteLineReader_encoded [] text.toList
  rw [List.reverse_nil, encoded, List.flatMap_nil, List.reverse_nil] at whole
  have split := splitLines_eq text.toList
  rw [splitLines, Prod.mk.injEq] at split
  rw [byteLines, Utf8.toList_toUTF8, ← encoded, whole]
  dsimp only
  rw [split.1, split.2]
  cases rest : unterminated text.toList with
  | nil => simp [encoded]
  | cons character later =>
      have nonempty : encoded (character :: later) ≠ [] := by
        simp [encoded, String.utf8EncodeChar_ne_nil]
      rw [if_neg (by simpa using nonempty), if_neg (by simp), List.reverse_reverse,
        Utf8.toList_toUTF8, String.toList_ofList]
      rfl

end Text

namespace Prompt

theorem ofLine_toUTF8 (line : String) :
    ofLine line.toUTF8.toList = .ok (Text.trimString line) := by
  rw [ofLine, Text.Utf8.decodeStrict_toUTF8]
  rfl

/-- The prompts of a text are its lines, trimmed. -/
theorem map_ofLine_byteLines (text : String) :
    (Text.byteLines text.toUTF8.toList).map ofLine =
      ((Text.linesOf true text.toList).map Text.trimString).map .ok := by
  have complete : ofLine ∘ (fun line : String => (line ++ "\n").toUTF8.toList) =
      .ok ∘ Text.trimString := by
    funext line
    rw [Function.comp_apply, ofLine_toUTF8, Text.trimString_append_newline]
    rfl
  rw [Text.byteLines_toUTF8, Text.linesOf, List.map_append, List.map_append, List.map_append,
    List.map_map, List.map_map, complete]
  by_cases rest : Text.unterminated text.toList = []
  · simp [rest]
  · have last := ofLine_toUTF8 (String.ofList (Text.unterminated text.toList))
    rw [if_neg rest, if_pos ⟨rfl, rest⟩]
    simp only [List.map_cons, List.map_nil, last]

end Prompt

end StreamingChat
