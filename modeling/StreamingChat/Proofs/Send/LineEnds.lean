import StreamingChat.Proofs.Event.LineEnds
import StreamingChat.Proofs.Send.Steps

/-!
# Sends and the ends of lines

What a send makes of a body depends on the readings of the body alone, and of these only on what they
settle. Carriage returns in front of newlines are not noticed, and flushing the last line is the same
as a newline behind it.
-/

namespace StreamingChat

open Text

/-- The rest after the last newline is read only if it is flushed and the body is not cut off. -/
theorem Reply.linesOf_body (chunks : List (List UInt8)) (cut : Option SendFailure) (flushes : Bool)
    (text : List Char) :
    (Reply.body chunks cut).linesOf flushes text = Text.linesOf (flushes && cut.isNone) text := by
  cases cut with
  | some failure => simp [linesOf, failure?, linesOf_false]
  | none => simp [linesOf, failure?]

/-- An ignored line has no effect. -/
theorem settle_append_ignored (readings : List LineReading) :
    settle (readings ++ [.ignored]) = settle readings := by
  rw [settle_append]
  split
  · rfl
  · rename_i unended
    have running : (settle readings).2 = false := by simpa using unended
    simp [settle, Prod.ext_iff, running]

namespace Send

/-- Whether a send flushes the last line matters to no send that is about to end. -/
theorem close_congr (target : MessageId) (flushes others ended : Bool)
    (failure? : Option SendFailure) :
    let closed (flushes : Bool) := (⟨target, flushes, .opening⟩ : Send).close ended failure?
    (closed flushes).1.outcome? = (closed others).1.outcome? ∧
      (closed flushes).2 = (closed others).2 := by
  intro closed
  cases ended with
  | true => exact ⟨rfl, rfl⟩
  | false => cases failure? <;> exact ⟨rfl, rfl⟩

/-- Bodies whose readings settle alike have the same effects on every conversation. -/
theorem takeInAll_congr (flushes others : Bool) (cut : Option SendFailure)
    {first second : List (List UInt8)}
    (alike : settle (readBody (flushes && cut.isNone) first.flatten) =
      settle (readBody (others && cut.isNone) second.flatten)) (target : MessageId) :
    let sent (flushes : Bool) (chunks : List (List UInt8)) :=
      (⟨target, flushes, .opening⟩ : Send).takeInAll (Reply.body chunks cut).reports
    (sent flushes first).1.outcome? = (sent others second).1.outcome? ∧
      (sent flushes first).2 = (sent others second).2 := by
  intro sent
  have taken (flushes : Bool) (chunks : List (List UInt8)) :
      let settled := settle (readBody (flushes && cut.isNone) chunks.flatten)
      sent flushes chunks =
        after settled.1 ((⟨target, flushes, .opening⟩ : Send).close settled.2 cut) := by
    simp only [sent, takeInAll_body, Reply.linesOf_body, readBody_eq]
  rcases close_congr target flushes others
      (settle (readBody (others && cut.isNone) second.flatten)).2 cut with ⟨outcome, effects⟩
  rw [taken, taken, alike]
  simp only [after, outcome, effects, and_self]

end Send

/-- Senders for one user whose sends have the same outcome and the same effects send alike. -/
theorem Sender.send_congr {userId : String} {flushes others : Bool} {reply other : Reply}
    (alike : ∀ target,
      let sent (flushes : Bool) (reply : Reply) :=
        (⟨target, flushes, .opening⟩ : Send).takeInAll reply.reports
      (sent flushes reply).1.outcome? = (sent others other).1.outcome? ∧
        (sent flushes reply).2 = (sent others other).2)
    (store : Store) (text : String) (images : List Image) (now : SendTimes) :
    (⟨userId, flushes⟩ : Sender).send store text images now reply =
      (⟨userId, others⟩ : Sender).send store text images now other := by
  cases given : Send.promptOf? text with
  | none => simp [send, attempt_of_blank _ _ _ _ given]
  | some prompt =>
      rcases Bool.eq_false_or_eq_true store.loading with busy | idle
      · simp [send, attempt_of_loading _ _ _ _ given busy]
      · rcases alike ⟨store.nextId + 1⟩ with ⟨outcome, effects⟩
        simp only [send, attempt_of_idle _ _ _ _ given idle, outcome, effects]

namespace Sender

variable {chunks others : List (List UInt8)}

/-- Flushing is the same as a newline behind the body: the readings are the same, but for an ignored
one if no line is unterminated, and so are the outcome, the conversation and the log of a send. Only
behind an earlier newline, and at the beginning of the text, no line is unterminated. -/
theorem send_flushed (ended : others.flatten = chunks.flatten ++ [Utf8.newline]) :
    let rest := unterminated (Utf8.decode chunks.flatten).toList
    let readings (flushes : Bool) (chunks : List (List UInt8)) :=
      (EventStream.machine.run (EventStream.start flushes) (chunks.map .chunk ++ [.ended])).2
    let sent (target : MessageId) (flushes : Bool) (chunks : List (List UInt8)) :=
      (⟨target, flushes, .opening⟩ : Send).takeInAll (Reply.body chunks none).reports
    readings false others = readings true chunks ++ (if rest = [] then [.ignored] else []) ∧
      (rest = [] ↔ Utf8.EndsLine chunks.flatten) ∧
      (∀ target, (sent target false others).1.outcome? = (sent target true chunks).1.outcome? ∧
        (sent target false others).2 = (sent target true chunks).2) ∧
      ∀ (userId : String) (store : Store) (text : String) (images : List Image)
        (now : SendTimes),
        (⟨userId, false⟩ : Sender).send store text images now (.body others none) =
          (⟨userId, true⟩ : Sender).send store text images now (.body chunks none) := by
  intro rest readings sent
  have restEq : rest = unterminated (Utf8.dropMark (Utf8.characters chunks.flatten)) := by
    simp only [rest, Utf8.decode, String.toList_ofList]
  have read := readBody_append_newline chunks.flatten
  rw [← ended, ← restEq] at read
  have alike : settle (readBody false others.flatten) = settle (readBody true chunks.flatten) := by
    rw [read]
    split
    · exact settle_append_ignored _
    · rw [List.append_nil]
  have same := Send.takeInAll_congr false true none alike
  refine ⟨?_, ?_, same, ?_⟩
  · simp only [readings, EventStream.run_machine_eq_readBody, read]
  · rw [restEq, Utf8.endsLine_iff]
  · intro userId store text images now
    exact send_congr same store text images now

/-- The line that ends the stream lacks its newline, and comes in three chunks. -/
theorem send_flushed_unended :
    let chunks := ["data: [\"token\", \"Hi\"]\ndata: [".toUTF8.toList, "DO".toUTF8.toList,
      "NE]".toUTF8.toList]
    let others := ["data: [\"token\", \"Hi\"]\ndata: [DONE".toUTF8.toList, [0x5D, 0x0A]]
    let sent (flushes : Bool) (chunks : List (List UInt8)) :=
      (⟨"reader", flushes⟩ : Sender).send Store.empty "Hello" [] default (.body chunks none)
    others.flatten = chunks.flatten ++ [Utf8.newline] ∧ ¬Utf8.EndsLine chunks.flatten ∧
      readBody true chunks.flatten = [.parsed ⟨.token, "Hi"⟩, .terminator] ∧
      (EventStream.machine.run (EventStream.start false) (others.map .chunk ++ [.ended])).2 =
        (EventStream.machine.run (EventStream.start true) (chunks.map .chunk ++ [.ended])).2 ∧
      sent false others = sent true chunks := by
  intro chunks others sent
  have ended : others.flatten = chunks.flatten ++ [Utf8.newline] := by decide +kernel
  have unended : unterminated (Utf8.decode chunks.flatten).toList ≠ [] := by decide +kernel
  rcases send_flushed ended with ⟨read, rest, -, sends⟩
  refine ⟨ended, mt rest.mpr unended, by decide +kernel, ?_, ?_⟩
  · rw [if_neg unended, List.append_nil] at read
    exact read
  · exact sends "reader" Store.empty "Hello" [] default

/-- Carriage returns in front of newlines are not noticed: the readings are the same, and so are the
outcome, the conversation and the log of a send, whether its body comes to an end or is cut off. -/
theorem send_with_returns (returns : WithReturns chunks.flatten others.flatten) (flushes : Bool) :
    let readings (chunks : List (List UInt8)) :=
      (EventStream.machine.run (EventStream.start flushes) (chunks.map .chunk ++ [.ended])).2
    let sent (target : MessageId) (cut : Option SendFailure) (chunks : List (List UInt8)) :=
      (⟨target, flushes, .opening⟩ : Send).takeInAll (Reply.body chunks cut).reports
    readings others = readings chunks ∧
      (∀ target cut, (sent target cut others).1.outcome? = (sent target cut chunks).1.outcome? ∧
        (sent target cut others).2 = (sent target cut chunks).2) ∧
      ∀ (userId : String) (store : Store) (text : String) (images : List Image)
        (now : SendTimes) (cut : Option SendFailure),
        (⟨userId, flushes⟩ : Sender).send store text images now (.body others cut) =
          (⟨userId, flushes⟩ : Sender).send store text images now (.body chunks cut) := by
  intro readings sent
  have same (target : MessageId) (cut : Option SendFailure) :=
    Send.takeInAll_congr flushes flushes cut
      (congrArg settle (returns.readBody_eq (flushes && cut.isNone))) target
  refine ⟨?_, same, ?_⟩
  · simp only [readings, EventStream.run_machine_eq_readBody, returns.readBody_eq]
  · intro userId store text images now cut
    exact send_congr (fun target => same target cut) store text images now

/-- A carriage return behind a character that is cut off, and none behind the end of the stream. -/
theorem send_with_returns_cut_off :
    let front := "data: caf".toUTF8.toList ++ [0xC3]
    let later := "data: [DONE]\n".toUTF8.toList
    let chunks := [front, Utf8.newline :: later]
    let others := [front ++ [Utf8.carriageReturn], [Utf8.newline], later]
    let sent (chunks : List (List UInt8)) :=
      (⟨"reader", false⟩ : Sender).send Store.empty "Hello" [] default
        (.body chunks (some (.io "reset")))
    WithReturns chunks.flatten others.flatten ∧
      (EventStream.machine.run (EventStream.start false) (others.map .chunk ++ [.ended])).2[1]? =
        some .terminator ∧
      sent others = sent chunks := by
  intro front later chunks others sent
  have returns : WithReturns chunks.flatten others.flatten := by
    have inserted := (WithReturns.refl front).append (.inserted (.refl later))
    simpa [chunks, others] using inserted
  rcases send_with_returns returns false with ⟨read, -, sends⟩
  refine ⟨returns, ?_, ?_⟩
  · refine (congrArg (·[1]?) read).trans ?_
    decide +kernel
  · exact sends "reader" Store.empty "Hello" [] default (some (.io "reset"))

end Sender

end StreamingChat
