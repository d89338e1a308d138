import StreamingChat.Proofs.Event.Stream
import StreamingChat.Proofs.Send.Effects
import StreamingChat.Send.Reply

/-!
# What a reply makes of a send

A send takes in its reply report by report, and what the reports do together is what the readings of
the received lines do, up to the line that ends the stream, followed by the end of the send. The
cuts between the chunks drop out because event streams are machines, whose readings of several
inputs are those of each of them in turn.
-/

namespace StreamingChat

namespace Reply

/-- The bytes that arrive. -/
def bytes : Reply → List UInt8
  | .failed _ => []
  | .noBody => []
  | .body chunks _ => chunks.flatten

/-- How a reply fails, if it does. -/
def failure? : Reply → Option SendFailure
  | .failed failure => some failure
  | .noBody => some .noBody
  | .body _ cut => cut

/-- The lines that are read of the text that has arrived. The rest after the last newline counts
only if the body has come to its end. -/
def linesOf (reply : Reply) (flushes : Bool) (text : List Char) : List String :=
  match reply.failure? with
  | some _ => Text.completeLines text
  | none => Text.linesOf flushes text

end Reply

namespace Send

/-- The end of a send whose readings are settled. -/
def close (send : Send) (ended : Bool) (failure? : Option SendFailure) : Send × List Effect :=
  if ended then send.complete .terminator
  else
    match failure? with
    | some failure => send.fail failure
    | none => send.complete .endOfBody

variable (send : Send)

@[simp]
theorem after_nil (next : Send × List Effect) : after [] next = next :=
  rfl

theorem takeInAll_cons (report : Http.Report) (rest : List Http.Report) :
    send.takeInAll (report :: rest) =
      after (send.takeIn report).2 ((send.takeIn report).1.takeInAll rest) :=
  rfl

theorem takeInAll_append (first second : List Http.Report) :
    send.takeInAll (first ++ second) =
      after (send.takeInAll first).2 ((send.takeInAll first).1.takeInAll second) := by
  induction first generalizing send with
  | nil => rfl
  | cons report rest ih =>
      rw [List.cons_append, takeInAll_cons, takeInAll_cons, ih]
      simp [after]

variable (target : MessageId) (flushes : Bool)

theorem takeInAll_of_over (outcome : SendOutcome) (reports : List Http.Report) :
    (⟨target, flushes, .over outcome⟩ : Send).takeInAll reports =
      (⟨target, flushes, .over outcome⟩, []) := by
  induction reports with
  | nil => rfl
  | cons report rest ih =>
      have nothing : (⟨target, flushes, .over outcome⟩ : Send).takeIn report =
          (⟨target, flushes, .over outcome⟩, []) := by
        cases report <;> rfl
      rw [takeInAll_cons, nothing, ih]
      rfl

theorem takeIn_chunk (stream : EventStream) (chunk : List UInt8) :
    let step := EventStream.machine.step stream (.chunk chunk)
    (⟨target, flushes, .streaming stream⟩ : Send).takeIn (.arrived (.chunk chunk)) =
      after (settle step.2).1
        (if (settle step.2).2 then (⟨target, flushes, .opening⟩ : Send).complete .terminator
        else (⟨target, flushes, .streaming step.1⟩, [])) :=
  rfl

/-- Chunks have the effects of their readings, up to the line that ends the stream. -/
theorem takeInAll_chunks (stream : EventStream) (chunks : List (List UInt8)) :
    let run := EventStream.machine.run stream (chunks.map .chunk)
    (⟨target, flushes, .streaming stream⟩ : Send).takeInAll
        (chunks.map fun chunk => .arrived (.chunk chunk)) =
      after (settle run.2).1
        (if (settle run.2).2 then (⟨target, flushes, .opening⟩ : Send).complete .terminator
        else (⟨target, flushes, .streaming run.1⟩, [])) := by
  dsimp only
  induction chunks generalizing stream with
  | nil => simp [settle, takeInAll]
  | cons chunk rest ih =>
      rw [List.map_cons, List.map_cons, takeInAll_cons, takeIn_chunk, Transducer.run_cons,
        settle_append]
      by_cases ended : (settle (EventStream.machine.step stream (.chunk chunk)).2).2 = true
      · -- The send is over, whatever the other chunks say.
        rw [if_pos ended, if_pos ended, if_pos ended]
        simp [after, complete, takeInAll_of_over]
      · rw [if_neg ended, if_neg ended]
        simp [after, ih]

theorem takeIn_lastArrival (stream : EventStream) (cut : Option SendFailure) :
    let last := if cut.isSome then [] else (EventStream.machine.step stream .ended).2
    (⟨target, flushes, .streaming stream⟩ : Send).takeIn (.arrived (Reply.lastArrival cut)) =
      after (settle last).1 ((⟨target, flushes, .opening⟩ : Send).close (settle last).2 cut) := by
  intro last
  cases cut with
  | some failure => rfl
  | none =>
      have completed : (⟨target, flushes, .streaming stream⟩ : Send).takeIn
            (.arrived (Reply.lastArrival none)) =
          after (settle last).1 ((⟨target, flushes, .opening⟩ : Send).complete
            (if (settle last).2 then .terminator else .endOfBody)) := rfl
      rw [completed, close]
      split <;> rfl

/-- The readings of the chunks of a body and of its end are those of the lines that count. -/
theorem readings_of_body (chunks : List (List UInt8)) (cut : Option SendFailure) :
    let run := EventStream.machine.run (EventStream.start flushes) (chunks.map .chunk)
    run.2 ++ (if cut.isSome then [] else (EventStream.machine.step run.1 .ended).2) =
      ((Reply.body chunks cut).linesOf flushes
        (Text.Utf8.dropMark (Text.Utf8.characters chunks.flatten))).map EventLine.read := by
  intro run
  cases cut with
  | some failure => simp [run, EventStream.run_machine_start_chunks, Reply.linesOf, Reply.failure?]
  | none =>
      rcases EventStream.run_machine_start_ended flushes chunks with ⟨ended, whole, -⟩
      rw [Transducer.run_append, Transducer.run_cons, Transducer.run_nil, List.append_nil] at whole
      exact congrArg Prod.snd whole

/-- A body has the effects of its readings. Its last arrival ends the send, unless the line that
ends the stream has done so. -/
theorem takeInAll_body (chunks : List (List UInt8)) (cut : Option SendFailure) :
    let readings := ((Reply.body chunks cut).linesOf flushes
      (Text.Utf8.dropMark (Text.Utf8.characters chunks.flatten))).map EventLine.read
    (⟨target, flushes, .opening⟩ : Send).takeInAll (Reply.body chunks cut).reports =
      after (settle readings).1
        ((⟨target, flushes, .opening⟩ : Send).close (settle readings).2 cut) := by
  intro readings
  have opened : (⟨target, flushes, .opening⟩ : Send).takeIn (.answered (.ok true)) =
      (⟨target, flushes, .streaming (EventStream.start flushes)⟩, []) := rfl
  have whole : _ = readings := readings_of_body flushes chunks cut
  rw [Reply.reports, List.cons_append, takeInAll_cons, opened, after_nil, takeInAll_append,
    takeInAll_chunks, ← whole, settle_append]
  generalize EventStream.machine.run (EventStream.start flushes) (chunks.map .chunk) = run
  by_cases ended : (settle run.2).2 = true
  · rw [if_pos ended, if_pos ended]
    simp [after, close, ended, complete, takeInAll_of_over]
  · rw [if_neg ended, if_neg ended]
    simp [after, takeInAll, takeIn_lastArrival]

theorem takeInAll_reports (reply : Reply) :
    let readings := (reply.linesOf flushes
      (Text.Utf8.dropMark (Text.Utf8.characters reply.bytes))).map EventLine.read
    (⟨target, flushes, .opening⟩ : Send).takeInAll reply.reports =
      after (settle readings).1
        ((⟨target, flushes, .opening⟩ : Send).close (settle readings).2 reply.failure?) := by
  cases reply with
  | failed failure => rfl
  | noBody => rfl
  | body chunks cut => exact takeInAll_body target flushes chunks cut

theorem exists_outcome_of_reports (reply : Reply) :
    ∃ outcome, ((⟨target, flushes, .opening⟩ : Send).takeInAll reply.reports).1.outcome? =
      some outcome ∧ outcome ≠ .ignored := by
  rw [takeInAll_reports, after]
  generalize (settle _).2 = ended
  cases ended with
  | true => exact ⟨.completed target .terminator, rfl, by simp⟩
  | false =>
      cases reply.failure? with
      | some failure => exact ⟨.failed target failure.note, rfl, by simp⟩
      | none => exact ⟨.completed target .endOfBody, rfl, by simp⟩

end Send

end StreamingChat
