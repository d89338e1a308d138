import StreamingChat.Text.Utf8

/-!
# Decoding in chunks

The state of a decoder between two chunks is a function of all bytes that it has read: `after` gives
it. What the decoder hands out for a chunk is what the text handed out so far grows by.
-/

namespace StreamingChat

/-- What a stream is told: a chunk of the body, or that the body has ended. -/
inductive StreamInput where
  | chunk (bytes : List UInt8)
  | ended
  deriving DecidableEq, Repr

namespace Text.Utf8

theorem dropMark_append (first second : List Char) :
    dropMark (first ++ second) =
      if first = [] then dropMark second else dropMark first ++ second := by
  cases first with
  | nil => rfl
  | cons character rest =>
      by_cases mark : character = byteOrderMark <;> simp [dropMark, mark]

/-- The text that is handed out for some bytes as long as their end has not come. -/
def delivered (bytes : List UInt8) : List Char :=
  dropMark (reader.run none bytes).2

namespace Decoder

/-- The decoder that has read some bytes. -/
def after (bytes : List UInt8) : Decoder :=
  ⟨(reader.run none bytes).1, !(reader.run none bytes).2.isEmpty, false⟩

/-- Handing out characters goes on with those handed out before. -/
theorem deliver_of_begun {decoder : Decoder} {earlier : List Char}
    (begun : decoder.begun = !earlier.isEmpty) (characters : List Char) :
    ∃ piece, decoder.deliver characters =
        ({ decoder with begun := !(earlier ++ characters).isEmpty }, String.ofList piece) ∧
      dropMark (earlier ++ characters) = dropMark earlier ++ piece := by
  cases earlier with
  | nil =>
      have notBegun : decoder.begun = false := by simpa using begun
      exact ⟨dropMark characters, by simp [deliver, notBegun], by simp [dropMark]⟩
  | cons first rest =>
      have hasBegun : decoder.begun = true := by simpa using begun
      refine ⟨characters, ?_, by rw [dropMark_append, if_neg (by simp)]⟩
      rcases decoder with ⟨held, _, ended⟩
      dsimp only at hasBegun
      subst hasBegun
      simp [deliver]

theorem feed_after (bytes chunk : List UInt8) :
    ∃ piece, (after bytes).feed chunk = (after (bytes ++ chunk), String.ofList piece) ∧
      delivered (bytes ++ chunk) = delivered bytes ++ piece := by
  let decoder : Decoder :=
    { after bytes with held := (reader.run (reader.run none bytes).1 chunk).1 }
  have begun : decoder.begun = !(reader.run none bytes).2.isEmpty := rfl
  rcases deliver_of_begun begun (reader.run (reader.run none bytes).1 chunk).2 with
    ⟨piece, given, grown⟩
  refine ⟨piece, ?_, ?_⟩
  · have fed : (after bytes).feed chunk =
        decoder.deliver (reader.run (reader.run none bytes).1 chunk).2 := rfl
    rw [fed, given]
    simp [after, decoder, Transducer.run_append]
  · simpa only [delivered, Transducer.run_append] using grown

theorem finish_after (bytes : List UInt8) :
    ∃ piece decoder, (after bytes).finish = (decoder, String.ofList piece) ∧
      decoder.ended = true ∧ dropMark (characters bytes) = delivered bytes ++ piece := by
  let decoder : Decoder := { after bytes with held := none, ended := true }
  have begun : decoder.begun = !(reader.run none bytes).2.isEmpty := rfl
  rcases deliver_of_begun begun (flush (reader.run none bytes).1) with ⟨piece, given, grown⟩
  exact ⟨piece, _, given, rfl, grown⟩

end Decoder

end Text.Utf8

end StreamingChat
