import Mathlib.Data.List.TakeWhile
import StreamingChat.Proofs.Send.Steps
import StreamingChat.Send.Company

/-!
# The course of a send

The effects of a send stand in a fixed order: those of the readings of the lines that have arrived,
an entry of the log, maybe a failure, and the end of the ticket. This holds of a send that comes to
its end and of one that is given up while it waits. What any number of the effects make of the
answer follows from their order: some of the readings have filled it in, or all of them and then a
failure.
-/

namespace StreamingChat

/-! ## What has been heard of a reply -/

namespace Http.Report

/-- The bytes that a report brings. -/
def bytes : Report → List UInt8
  | .arrived (.chunk bytes) => bytes
  | _ => []

/-- Whether a report says that the body has ended. -/
def endsBody : Report → Bool
  | .arrived .ended => true
  | _ => false

end Http.Report

/-- The readings of the lines that have arrived with some reports. -/
def Send.heard (flushes : Bool) (told : List Http.Report) : List LineReading :=
  let text := Text.Utf8.dropMark (Text.Utf8.characters (told.flatMap Http.Report.bytes))
  (if told.any Http.Report.endsBody then Text.linesOf flushes text
    else Text.completeLines text).map EventLine.read

/-- The note of a failure. -/
def SendOutcome.note? : SendOutcome → Option String
  | .failed _ note => some note
  | _ => none

/-- The note that a send leaves, if it is over and has failed. -/
def Send.note? (send : Send) : Option String :=
  send.outcome?.bind SendOutcome.note?

namespace Message

/-- A message after the events among some readings. -/
def filledBy (message : Message) (readings : List LineReading) : Message :=
  { message with
    content := message.content ++ String.join (readings.filterMap LineReading.piece?)
    logs := message.logs ++ readings.filterMap LineReading.entry? }

/-- A message after the end of its send. A failure leaves its note behind all entries, and the error
flag with it. -/
def concluded (message : Message) : Option String → Message
  | some note => { message with logs := message.logs ++ [note], error := true }
  | none => message

end Message

namespace Reply

/-- A reply of which a part has been told is whole, or a body whose chunks are arriving. -/
theorem cases_of_prefix {reply : Reply} {told : List Http.Report}
    (partly : told <+: reply.reports) :
    told = [] ∨ told = reply.reports ∨
      ∃ chunks : List (List UInt8),
        told = .answered (.ok true) :: chunks.map fun chunk => .arrived (.chunk chunk) := by
  cases reply with
  | failed failure =>
      rcases List.prefix_cons_iff.mp partly with rfl | ⟨rest, rfl, nothing⟩
      · exact .inl rfl
      · exact .inr (.inl (by rw [List.prefix_nil.mp nothing, reports]))
  | noBody =>
      rcases List.prefix_cons_iff.mp partly with rfl | ⟨rest, rfl, nothing⟩
      · exact .inl rfl
      · exact .inr (.inl (by rw [List.prefix_nil.mp nothing, reports]))
  | body chunks cut =>
      rcases List.prefix_cons_iff.mp partly with rfl | ⟨rest, rfl, arrived⟩
      · exact .inl rfl
      · refine .inr ?_
        rcases List.prefix_concat_iff.mp arrived with rfl | some
        · exact .inl rfl
        · rcases List.prefix_map_iff.mp some with ⟨first, -, rfl⟩
          exact .inr ⟨first, rfl⟩

theorem bytes_reports (reply : Reply) :
    reply.reports.flatMap Http.Report.bytes = reply.bytes := by
  cases reply with
  | failed failure => rfl
  | noBody => rfl
  | body chunks cut =>
      cases cut <;> simp [reports, bytes, lastArrival, Http.Report.bytes, List.flatMap_map]

/-- A body ends in its last report, if it does not fail. -/
theorem endsBody_reports (reply : Reply) :
    reply.reports.any Http.Report.endsBody = reply.failure?.isNone := by
  cases reply with
  | failed failure => rfl
  | noBody => rfl
  | body chunks cut =>
      cases cut <;> simp [reports, failure?, lastArrival, Http.Report.endsBody, Function.comp_def]

end Reply

namespace Send

theorem heard_chunks (flushes : Bool) (chunks : List (List UInt8)) :
    heard flushes (.answered (.ok true) :: chunks.map fun chunk => .arrived (.chunk chunk)) =
      (Text.completeLines (Text.Utf8.dropMark (Text.Utf8.characters chunks.flatten))).map
        EventLine.read := by
  simp [heard, List.flatMap_map, Http.Report.bytes, Http.Report.endsBody, Function.comp_def]

theorem heard_reports (flushes : Bool) (reply : Reply) :
    heard flushes reply.reports =
      (reply.linesOf flushes
        (Text.Utf8.dropMark (Text.Utf8.characters reply.bytes))).map EventLine.read := by
  rw [heard, reply.bytes_reports, reply.endsBody_reports, Reply.linesOf]
  cases reply.failure? <;> rfl

/-! ## The order of the effects -/

/-- The effects that end a send, of which only a failure changes the answer. -/
def closing (note? : Option String) (logged : List LogEntry) : List Effect :=
  logged.map .log ++ (note?.toList.map .fail ++ [.release])

theorem closing_complete (send : Send) (ending : ResponseEnd) :
    ∃ logged, (send.complete ending).2 ++ (send.complete ending).1.abandon =
      closing (send.complete ending).1.note? logged :=
  ⟨[_], rfl⟩

theorem closing_fail (send : Send) (failure : SendFailure) :
    ∃ logged, (send.fail failure).2 ++ (send.fail failure).1.abandon =
      closing (send.fail failure).1.note? logged :=
  ⟨[_], rfl⟩

theorem closing_close (send : Send) (ended : Bool) (failure? : Option SendFailure) :
    ∃ logged, (send.close ended failure?).2 ++ (send.close ended failure?).1.abandon =
      closing (send.close ended failure?).1.note? logged := by
  unfold close
  split
  · exact closing_complete send .terminator
  · cases failure? with
    | some failure => exact closing_fail send failure
    | none => exact closing_complete send .endOfBody

/-- Chunks that arrive after the answer of the server have the effects of what has been heard. -/
theorem takeInAll_opened (target : MessageId) (flushes : Bool) (chunks : List (List UInt8)) :
    let told : List Http.Report :=
      .answered (.ok true) :: chunks.map fun chunk => .arrived (.chunk chunk)
    let readings := heard flushes told
    (⟨target, flushes, .opening⟩ : Send).takeInAll told =
      after (settle readings).1
        (if (settle readings).2 then (⟨target, flushes, .opening⟩ : Send).complete .terminator
        else (⟨target, flushes, .streaming (EventStream.after flushes chunks.flatten)⟩, [])) := by
  intro told readings
  have opened : (⟨target, flushes, .opening⟩ : Send).takeIn (.answered (.ok true)) =
      (⟨target, flushes, .streaming (EventStream.start flushes)⟩, []) := rfl
  rw [takeInAll_cons, opened, after_nil, takeInAll_chunks, EventStream.run_machine_start_chunks,
    ← heard_chunks]

/-- The effects of the readings come first, then the end of the send. -/
theorem course_eq (target : MessageId) (flushes : Bool) {reply : Reply}
    {told : List Http.Report} (partly : told <+: reply.reports) :
    let send : Send := ⟨target, flushes, .opening⟩
    ∃ logged, send.course told =
      (settle (heard flushes told)).1 ++ closing (send.takeInAll told).1.note? logged := by
  intro send
  rcases Reply.cases_of_prefix partly with rfl | rfl | ⟨chunks, rfl⟩
  · exact ⟨[], rfl⟩
  · rcases closing_close send (settle (heard flushes reply.reports)).2 reply.failure? with
      ⟨logged, closes⟩
    refine ⟨logged, ?_⟩
    rw [heard_reports] at closes ⊢
    simp only [course, send, takeInAll_reports, after, List.append_assoc]
    rw [← closes]
  · rw [course, takeInAll_opened]
    simp only [after, List.append_assoc]
    split
    · rcases closing_complete (⟨target, flushes, .opening⟩ : Send) .terminator with
        ⟨logged, closes⟩
      exact ⟨logged, by rw [closes]⟩
    · exact ⟨[], rfl⟩

/-- Only the last report of a reply can make a send fail. -/
theorem note?_of_prefix (target : MessageId) (flushes : Bool) {reply : Reply}
    {told : List Http.Report} (partly : told <+: reply.reports) (early : told ≠ reply.reports) :
    ((⟨target, flushes, .opening⟩ : Send).takeInAll told).1.note? = none := by
  rcases Reply.cases_of_prefix partly with rfl | whole | ⟨chunks, rfl⟩
  · rfl
  · exact absurd whole early
  · rw [takeInAll_opened, after]
    split <;> rfl

end Send

/-! ## What effects in that order make of the answer -/

theorem exists_settle_of_prefix {readings : List LineReading} {effects : List Effect}
    (some : effects <+: (settle readings).1) :
    ∃ part, part <+: LineReading.beforeEnd readings ∧ effects = (settle part).1 := by
  induction readings generalizing effects with
  | nil => exact ⟨[], List.nil_prefix, List.prefix_nil.mp some⟩
  | cons reading rest ih =>
      cases reading with
      | ignored =>
          -- An ignored reading has no effect, and so it may count as taken in.
          rcases ih some with ⟨part, early, rfl⟩
          refine ⟨.ignored :: part, ?_, rfl⟩
          rw [LineReading.beforeEnd_cons_of_ne (by simp)]
          exact List.cons_prefix_cons.mpr ⟨rfl, early⟩
      | terminator => exact ⟨[], List.nil_prefix, List.prefix_nil.mp some⟩
      | parsed event =>
          rcases List.prefix_cons_iff.mp some with rfl | ⟨later, rfl, someLater⟩
          · exact ⟨[], List.nil_prefix, rfl⟩
          · rcases ih someLater with ⟨part, early, rfl⟩
            refine ⟨.parsed event :: part, ?_, rfl⟩
            rw [LineReading.beforeEnd_cons_of_ne (by simp)]
            exact List.cons_prefix_cons.mpr ⟨rfl, early⟩
      | skipped reason =>
          rcases List.prefix_cons_iff.mp some with rfl | ⟨later, rfl, someLater⟩
          · exact ⟨[], List.nil_prefix, rfl⟩
          · rcases ih someLater with ⟨part, early, rfl⟩
            refine ⟨.skipped reason :: part, ?_, rfl⟩
            rw [LineReading.beforeEnd_cons_of_ne (by simp)]
            exact List.cons_prefix_cons.mpr ⟨rfl, early⟩

theorem LineReading.beforeEnd_of_prefix {readings part : List LineReading}
    (early : part <+: beforeEnd readings) : beforeEnd part = part := by
  refine List.takeWhile_eq_self_iff.mpr fun reading member => ?_
  have counts : reading ∈ readings.takeWhile fun reading => decide (reading ≠ .terminator) :=
    early.subset member
  have counted := List.mem_takeWhile_imp counts
  exact counted

namespace Effect

variable {readings : List LineReading} {note? : Option String} {logged : List LogEntry}

theorem foldl_amend_of_quiet {effects : List Effect} (message : Message)
    (quiet : ∀ effect ∈ effects, (∃ entry, effect = .log entry) ∨ effect = .release) :
    effects.foldl amend message = message := by
  induction effects with
  | nil => rfl
  | cons effect rest ih =>
      rcases List.forall_mem_cons.mp quiet with ⟨⟨entry, rfl⟩ | rfl, later⟩
      · exact ih later
      · exact ih later

theorem foldl_amend_closing (message : Message) :
    (Send.closing note? logged).foldl amend message = message.concluded note? := by
  rw [Send.closing, List.foldl_append, foldl_amend_of_quiet message (by simp)]
  cases note? <;> rfl

/-- The end of a send changes the answer at once or not at all. -/
theorem foldl_amend_of_prefix_closing {effects : List Effect} (message : Message)
    (some : effects <+: Send.closing note? logged) :
    effects.foldl amend message = message ∨
      effects.foldl amend message = message.concluded note? := by
  rcases some with ⟨rest, whole⟩
  rw [Send.closing] at whole
  -- Only entries of the log stand before the failure, and only the end of the ticket behind it.
  rcases List.append_eq_append_iff.mp whole with ⟨more, entries, -⟩ | ⟨reached, rfl, ends⟩
  · refine .inl (foldl_amend_of_quiet message fun effect member => .inl ?_)
    have entry : effect ∈ logged.map Effect.log := entries ▸ List.mem_append_left _ member
    rcases List.mem_map.mp entry with ⟨entry, -, same⟩
    exact ⟨entry, same.symm⟩
  · have early : reached <+: note?.toList.map .fail ++ [.release] := ⟨rest, ends.symm⟩
    rw [List.foldl_append, foldl_amend_of_quiet message (by simp)]
    cases note? with
    | none =>
        refine .inl (foldl_amend_of_quiet message fun effect member => .inr ?_)
        exact List.mem_singleton.mp (early.subset member)
    | some note =>
        rcases List.prefix_cons_iff.mp early with rfl | ⟨later, rfl, last⟩
        · exact .inl rfl
        · have quiet : later.foldl amend (message.markError note) = message.markError note :=
            foldl_amend_of_quiet _ fun effect member =>
              .inr (List.mem_singleton.mp (last.subset member))
          exact .inr quiet

variable {effects later : List Effect}

/-- Any number of the effects of a send fill the answer in by some of the readings, or by all of
them and a failure. -/
theorem foldl_amend_of_prefix
    (split : effects ++ later = (settle readings).1 ++ Send.closing note? logged)
    (message : Message) :
    (∃ part, part <+: LineReading.beforeEnd readings ∧
        effects.foldl amend message = message.filledBy part) ∨
      ∃ note, note? = some note ∧ effects.foldl amend message =
        (message.filledBy (LineReading.beforeEnd readings)).concluded (some note) := by
  rcases List.append_eq_append_iff.mp split with ⟨more, settled, -⟩ | ⟨reached, rfl, ends⟩
  · rcases exists_settle_of_prefix ⟨more, settled.symm⟩ with ⟨part, early, rfl⟩
    refine .inl ⟨part, early, ?_⟩
    rw [foldl_amend_settle, LineReading.beforeEnd_of_prefix early]
    rfl
  · rw [List.foldl_append, foldl_amend_settle]
    rcases foldl_amend_of_prefix_closing _ ⟨later, ends.symm⟩ with quiet | concluded
    · exact .inl ⟨_, List.prefix_refl _, quiet⟩
    · rw [concluded]
      cases note? with
      | none => exact .inl ⟨_, List.prefix_refl _, rfl⟩
      | some note => exact .inr ⟨note, rfl, rfl⟩

/-- Giving up the ticket is no change of the answer. -/
theorem foldl_amend_of_released
    (split : effects ++ later = (settle readings).1 ++ Send.closing note? logged)
    (released : ∀ effect ∈ later, effect = .release) (message : Message) :
    effects.foldl amend message =
      (message.filledBy (LineReading.beforeEnd readings)).concluded note? := by
  have quiet := foldl_amend_of_quiet (effects.foldl amend message)
    fun effect member => .inr (released effect member)
  rw [← quiet, ← List.foldl_append, split, List.foldl_append, foldl_amend_closing,
    foldl_amend_settle]
  rfl

/-- The ticket is given up last. -/
theorem eq_nil_of_released
    (split : effects ++ later = (settle readings).1 ++ Send.closing note? logged)
    (released : .release ∈ effects) : later = [] := by
  have once : .release ∉ (settle readings).1 ++ (logged.map .log ++ note?.toList.map .fail) := by
    simp [Send.release_notMem_settle]
  -- If anything came later, its last effect would be the only end of the ticket.
  rcases List.eq_nil_or_concat later with nothing | ⟨rest, last, rfl⟩
  · exact nothing
  · have parted : (effects ++ rest) ++ [last] =
        ((settle readings).1 ++ (logged.map .log ++ note?.toList.map .fail)) ++ [.release] := by
      simpa [Send.closing] using split
    rw [← (List.append_inj' parted rfl).1] at once
    exact absurd (List.mem_append_left _ released) once

end Effect

end StreamingChat
