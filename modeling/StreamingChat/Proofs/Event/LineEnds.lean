import StreamingChat.Proofs.Event.Reading
import StreamingChat.Proofs.Event.Stream
import StreamingChat.Proofs.Text.Utf8.Cuts

/-!
# Ends of lines

A line may end with a carriage return and a newline: the carriage return is blank, so that it is
trimmed off a payload, and it cannot be the last character of the mark in front of one. Bytes with
and without carriage returns therefore have the same readings. The last line of a body may lack its
newline: when it is flushed, it is read as if the newline were there, and nothing is read of a line
that has not begun.
-/

namespace StreamingChat

open Text

/-- The byte that encodes a carriage return. -/
def Text.Utf8.carriageReturn : UInt8 := 0x0D

theorem Text.Utf8.utf8EncodeChar_return : String.utf8EncodeChar '\r' = [carriageReturn] := by
  decide

namespace EventLine

theorem readChars_append_return (line : List Char) :
    readChars (line ++ ['\r']) = readChars line := by
  by_cases marked : payloadMark <+: line
  · rcases marked with ⟨behind, rfl⟩
    rw [List.append_assoc, readChars_append, readChars_append,
      trim_append_singleton (by decide)]
  · have unmarked : ¬payloadMark <+: line ++ ['\r'] := by
      intro isFront
      rcases List.prefix_concat_iff.mp isFront with whole | earlier
      · have member : '\r' ∈ payloadMark := by simp [whole]
        exact absurd member (by decide)
      · exact marked earlier
    rw [readChars_of_unmarked marked, readChars_of_unmarked unmarked]

end EventLine

/-- A body in chunks has the readings of the whole body. -/
theorem EventStream.run_machine_eq_readBody (flushes : Bool) (chunks : List (List UInt8)) :
    (machine.run (start flushes) (chunks.map .chunk ++ [.ended])).2 =
      readBody flushes chunks.flatten := by
  rcases run_machine_start_ended flushes chunks with ⟨ended, run, -⟩
  rw [run, readBody_eq]

/-! ## Carriage returns -/

/-- The second bytes are the first ones with carriage returns in front of some of the newlines. -/
inductive WithReturns : List UInt8 → List UInt8 → Prop where
  | nothing : WithReturns [] []
  | byte (byte : UInt8) {body other : List UInt8} (rest : WithReturns body other) :
      WithReturns (byte :: body) (byte :: other)
  | inserted {body other : List UInt8} (rest : WithReturns body other) :
      WithReturns (Utf8.newline :: body) (Utf8.carriageReturn :: Utf8.newline :: other)

theorem WithReturns.refl (body : List UInt8) : WithReturns body body := by
  induction body with
  | nil => exact .nothing
  | cons byte rest ih => exact .byte byte ih

theorem WithReturns.append {first second body other : List UInt8}
    (returns : WithReturns first second) (more : WithReturns body other) :
    WithReturns (first ++ body) (second ++ other) := by
  induction returns with
  | nothing => exact more
  | byte byte rest ih => exact .byte byte ih
  | inserted rest ih => exact .inserted ih

/-- One more carriage return, in front of a newline, makes no difference. -/
theorem readBody_insert_return (flushes : Bool) (before later : List UInt8) :
    readBody flushes (before ++ Utf8.carriageReturn :: Utf8.newline :: later) =
      readBody flushes (before ++ Utf8.newline :: later) := by
  have noNewline : '\r' ≠ '\n' := by decide
  -- Whatever the bytes before it are, they are decoded as if they ended in front of it.
  have returned := Utf8.text_append_character (by decide : '\r' ≠ Utf8.byteOrderMark) before []
  rw [Utf8.utf8EncodeChar_return, Utf8.characters_nil, List.append_nil] at returned
  rw [List.append_cons, readBody_eq, readBody_eq, Utf8.text_append_newline,
    Utf8.text_append_newline, returned, linesOf_append_newline, linesOf_append_newline,
    completeLines_append_singleton noNewline, unterminated_append_singleton noNewline]
  simp [EventLine.read, EventLine.readChars_append_return]

theorem WithReturns.readBody_append {body other : List UInt8} (returns : WithReturns body other)
    (flushes : Bool) (before : List UInt8) :
    readBody flushes (before ++ other) = readBody flushes (before ++ body) := by
  induction returns generalizing before with
  | nothing => rfl
  | byte byte rest ih => rw [List.append_cons, ih, ← List.append_cons]
  | @inserted body other rest ih =>
      calc readBody flushes (before ++ Utf8.carriageReturn :: Utf8.newline :: other)
        _ = readBody flushes ((before ++ [Utf8.carriageReturn, Utf8.newline]) ++ other) := by simp
        _ = readBody flushes (before ++ Utf8.carriageReturn :: Utf8.newline :: body) := by
            rw [ih, List.append_assoc]
            rfl
        _ = readBody flushes (before ++ Utf8.newline :: body) := readBody_insert_return ..

theorem WithReturns.readBody_eq {body other : List UInt8} (returns : WithReturns body other)
    (flushes : Bool) : readBody flushes other = readBody flushes body :=
  returns.readBody_append flushes []

/-! ## The newline of the last line -/

/-- A newline behind a body ends the line that is flushed without it, or an empty one. -/
theorem readBody_append_newline (body : List UInt8) :
    readBody false (body ++ [Utf8.newline]) =
      readBody true body ++
        if unterminated (Utf8.dropMark (Utf8.characters body)) = [] then [.ignored] else [] := by
  have empty : EventLine.read "" = .ignored := rfl
  have noLine : linesOf false [] = [] := rfl
  rw [readBody_eq, readBody_eq, Utf8.text_append_newline, Utf8.characters_nil,
    linesOf_append_newline, noLine, linesOf]
  by_cases nothing : unterminated (Utf8.dropMark (Utf8.characters body)) = []
  · simp [nothing, empty]
  · simp [nothing]

end StreamingChat
