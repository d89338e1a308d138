import StreamingChat.Proofs.Text.Utf8.Chunks
import StreamingChat.Proofs.Text.Utf8.Decoding

/-!
# The text of chunks

The strings that a decoder hands out for the chunks of a body and for its end make up the text of
the whole body, wherever the chunks are cut, and nothing is handed out after the end.
-/

namespace StreamingChat.Text.Utf8.Decoder

def takeIn (decoder : Decoder) : StreamInput → Decoder × String
  | .chunk bytes => decoder.feed bytes
  | .ended => decoder.finish

/-- The machine that hands out one string for each input. -/
def machine : Transducer Decoder StreamInput String where
  step decoder input := ((decoder.takeIn input).1, [(decoder.takeIn input).2])

theorem after_nil : after [] = start := by
  simp [after, start]

theorem length_run_machine (decoder : Decoder) (inputs : List StreamInput) :
    (machine.run decoder inputs).2.length = inputs.length := by
  induction inputs generalizing decoder with
  | nil => simp
  | cons input rest ih =>
      simp only [Transducer.run_cons, List.length_append, List.length_cons, ih]
      simp only [machine, List.length_singleton]
      omega

theorem run_machine_chunks (bytes : List UInt8) (chunks : List (List UInt8)) :
    ∃ pieces, machine.run (after bytes) (chunks.map .chunk) =
        (after (bytes ++ chunks.flatten), pieces) ∧
      delivered (bytes ++ chunks.flatten) = delivered bytes ++ (String.join pieces).toList := by
  induction chunks generalizing bytes with
  | nil => exact ⟨[], by simp, by simp⟩
  | cons chunk rest ih =>
      rcases feed_after bytes chunk with ⟨first, fed, grown⟩
      rcases ih (bytes ++ chunk) with ⟨later, run, grownLater⟩
      have step : machine.step (after bytes) (.chunk chunk) =
          (after (bytes ++ chunk), [String.ofList first]) := by
        simp [machine, takeIn, fed]
      refine ⟨String.ofList first :: later, ?_, ?_⟩
      · simp [Transducer.run_cons, step, run]
      · rw [List.flatten_cons, ← List.append_assoc, grownLater, grown, String.join_cons,
          String.toList_append, String.toList_ofList, List.append_assoc]

theorem run_machine_of_ended {decoder : Decoder} (ended : decoder.ended = true)
    (inputs : List StreamInput) :
    machine.run decoder inputs = (decoder, inputs.map fun _ => "") := by
  induction inputs with
  | nil => simp
  | cons input rest ih =>
      have step : machine.step decoder input = (decoder, [""]) := by
        cases input <;> simp [machine, takeIn, feed_of_ended ended, finish_of_ended ended]
      simp [Transducer.run_cons, step, ih]

/-- The strings for the chunks and for the end, one for each, are together the text that decoding
gives at once. It is the text that the bytes determine, without a byte order mark at its front.
After the end every string is empty. -/
theorem decoded_in_chunks (chunks : List (List UInt8)) :
    ∃ ended pieces text,
      machine.run start (chunks.map .chunk ++ [.ended]) = (ended, pieces) ∧
      pieces.length = chunks.length + 1 ∧
      (∀ other, Decodes chunks.flatten other ↔ other = text) ∧
      String.join pieces = String.ofList (dropMark text) ∧
      decode chunks.flatten = String.ofList (dropMark text) ∧
      ∀ later, machine.run ended later = (ended, later.map fun _ => "") := by
  rcases run_machine_chunks [] chunks with ⟨pieces, run, handedOut⟩
  rcases finish_after chunks.flatten with ⟨last, ended, finished, isEnded, whole⟩
  have step : machine.step (after chunks.flatten) .ended = (ended, [String.ofList last]) := by
    simp [machine, takeIn, finished]
  have ran : machine.run start (chunks.map .chunk ++ [.ended]) =
      (ended, pieces ++ [String.ofList last]) := by
    rw [List.nil_append] at run
    simp [← after_nil, Transducer.run_append, run, Transducer.run_cons, step]
  have nothing : delivered [] = [] := by simp [delivered, dropMark]
  have length := length_run_machine start (chunks.map .chunk ++ [.ended])
  refine ⟨ended, _, characters chunks.flatten, ran, ?_, fun other => decodes_iff, ?_, rfl,
    run_machine_of_ended isEnded⟩
  · rw [ran] at length
    simpa using length
  · rw [nothing, List.nil_append, List.nil_append] at handedOut
    rw [whole, handedOut, String.ofList_append, String.ofList_toList, String.join_append]
    simp

/-- A byte order mark is removed though it is cut, and only the first one. -/
example :
    (machine.run start [.chunk [0xEF], .chunk [0xBB, 0xBF, 0xEF, 0xBB], .chunk [0xBF, 0x48],
      .ended]).2 = ["", "", "\ufeffH", ""] := by
  decide +kernel

end StreamingChat.Text.Utf8.Decoder
