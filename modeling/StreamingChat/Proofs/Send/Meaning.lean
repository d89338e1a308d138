import StreamingChat.Proofs.Send.Steps

/-!
# What a send comes to

This file says what a send on a conversation that nobody else changes leaves behind, in terms of the
bytes that arrive. The text is the one that `Decodes` determines, its lines are those between its
newlines, and of their readings those count which stand before the line that ends the stream.
Nothing is said of chunks, for they make no difference.

What arrives goes to the first message with the number of the answer. This is the answer itself as
long as the counter has not wrapped round. Afterwards an older message may have that number: then
the older one receives everything, and the answer stays empty.
-/

namespace StreamingChat

/-- Why a response fails, if it does: a failure after the line that ends the stream goes unseen. -/
def Reply.failureAfter? (reply : Reply) (readings : List LineReading) : Option SendFailure :=
  if .terminator ∈ readings then none else reply.failure?

/-- What a send ends with. -/
def SendOutcome.ofReadings (target : MessageId) (readings : List LineReading) :
    Option SendFailure → SendOutcome
  | some failure => .failed target failure.note
  | none => .completed target (if .terminator ∈ readings then .terminator else .endOfBody)

/-- The message that is left by readings and maybe a failure. -/
def Message.answer (id : MessageId) (now : Time.Timestamp) (readings : List LineReading)
    (failure? : Option SendFailure) : Message where
  id := id
  role := .assistant
  content := String.join ((LineReading.beforeEnd readings).filterMap LineReading.piece?)
  logs := (LineReading.beforeEnd readings).filterMap LineReading.entry? ++
    (failure?.map SendFailure.note).toList
  images := []
  error := failure?.isSome
  createdAt := now

namespace Send

variable (target : MessageId) (flushes : Bool) (reply : Reply) (readings : List LineReading)

theorem release_mem_close (ended : Bool) (failure? : Option SendFailure) :
    .release ∈ ((⟨target, flushes, .opening⟩ : Send).close ended failure?).2 := by
  cases ended with
  | true => simp [close, complete]
  | false =>
      cases failure? with
      | some failure => simp [close, fail]
      | none => simp [close, complete]

theorem outcome?_close :
    ((⟨target, flushes, .opening⟩ : Send).close (settle readings).2 reply.failure?).1.outcome? =
      some (.ofReadings target readings (reply.failureAfter? readings)) := by
  rw [settle_ended, Reply.failureAfter?]
  by_cases ended : LineReading.terminator ∈ readings
  · simp [close, ended, complete, outcome?, SendOutcome.ofReadings]
  · cases reply.failure? with
    | some failure => simp [close, ended, fail, outcome?, SendOutcome.ofReadings]
    | none => simp [close, ended, complete, outcome?, SendOutcome.ofReadings]

/-- Whatever message is reached, all that an answer would hold is added to it. -/
theorem foldl_amend_close (message : Message) (now : Time.Timestamp) :
    let answer := Message.answer target now readings (reply.failureAfter? readings)
    ((settle readings).1 ++
        ((⟨target, flushes, .opening⟩ : Send).close (settle readings).2 reply.failure?).2).foldl
      Effect.amend message =
      { message with
        content := message.content ++ answer.content
        logs := message.logs ++ answer.logs
        error := message.error || answer.error } := by
  intro answer
  simp only [answer]
  rw [List.foldl_append, foldl_amend_settle, settle_ended, Reply.failureAfter?]
  by_cases ended : LineReading.terminator ∈ readings
  · simp [close, ended, complete, Effect.amend, Message.answer]
  · cases reply.failure? with
    | some failure =>
        simp [close, ended, fail, Effect.amend, Message.answer, Message.markError,
          Message.appendLog]
    | none => simp [close, ended, complete, Effect.amend, Message.answer]

theorem foldl_amend_close_fresh (now : Time.Timestamp) :
    ((settle readings).1 ++
        ((⟨target, flushes, .opening⟩ : Send).close (settle readings).2 reply.failure?).2).foldl
      Effect.amend (Message.fresh target .assistant "" [] now) =
      Message.answer target now readings (reply.failureAfter? readings) := by
  rw [foldl_amend_close target flushes reply readings _ now]
  simp [Message.fresh, Message.answer]

end Send

/-- The number of the answer is a new one as long as the counter has not wrapped round. -/
theorem SharedStore.Reachable.answer_unused {shared : SharedStore} (reachable : shared.Reachable)
    (room : shared.store.nextId < shared.store.nextId + 1) :
    ∀ message ∈ shared.store.messages, message.id ≠ ⟨shared.store.nextId + 1⟩ :=
  fun _ old => reachable.counterAhead.ne_of_mem old (UInt64.le_of_lt room)

namespace Sender

variable {store : Store}

theorem send_of_idle (sender : Sender) (idle : store.loading = false) {text : String}
    (given : Text.trimString text ≠ "") (images : List Image) (now : SendTimes) (reply : Reply) :
    let target : MessageId := ⟨store.nextId + 1⟩
    let final := (⟨target, sender.flushes, .opening⟩ : Send).takeInAll reply.reports
    sender.send store text images now reply =
      { answer := final.1.outcome?.map .ok
        store := Effect.performAll target (store.begun (Text.trimString text) images now) final.2
        requests := [⟨Text.trimString text, sender.userId⟩]
        log := final.2.filterMap Effect.entry? } := by
  intro target final
  rw [send, attempt_of_idle sender text images now (Send.promptOf?_of_ne given) idle]

/-- What a send leaves behind is determined by the bytes that arrive. A failure is noted exactly
when the send is told to have failed. If no older message has the number of the answer, the send
adds the prompt and an answer with the contents of the events before the line that ends the stream.
Otherwise the first older message with that number receives all of this, and the answer stays as
empty as it was when the send began. -/
theorem send_meaning (idle : store.loading = false) (sender : Sender) {text : String}
    (given : Text.trimString text ≠ "") (images : List Image) (now : SendTimes) (reply : Reply) :
    ∃ decoded, (∀ other, Text.Utf8.Decodes reply.bytes other ↔ other = decoded) ∧
      let lines := reply.linesOf sender.flushes (Text.Utf8.dropMark decoded)
      let readings := lines.map EventLine.read
      let failure? := reply.failureAfter? readings
      let target : MessageId := ⟨store.nextId + 1⟩
      let prompt : Message :=
        ⟨⟨store.nextId⟩, .user, Text.trimString text, [], images, false, now.prompt⟩
      let answer := Message.answer target now.answer readings failure?
      let result := sender.send store text images now reply
      result.answer = some (.ok (.ofReadings target readings failure?)) ∧
      result.store.loading = false ∧
      result.requests = [⟨Text.trimString text, sender.userId⟩] ∧
      ((∀ message ∈ store.messages, message.id ≠ target) →
        result.store.messages = store.messages ++ [prompt, answer]) ∧
      ∀ before older later, store.messages = before ++ older :: later → older.id = target →
        (∀ message ∈ before, message.id ≠ target) →
          result.store.messages =
            before ++
              { older with
                content := older.content ++ answer.content
                logs := older.logs ++ answer.logs
                error := older.error || answer.error } ::
              later ++ [prompt, ⟨target, .assistant, "", [], [], false, now.answer⟩] := by
  refine ⟨Text.Utf8.characters reply.bytes, fun other => Text.Utf8.decodes_iff, ?_⟩
  intro lines readings failure? target prompt answer result
  have sent : result = _ := send_of_idle sender idle given images now reply
  have taken : (⟨target, sender.flushes, .opening⟩ : Send).takeInAll reply.reports =
      Send.after (settle readings).1
        ((⟨target, sender.flushes, .opening⟩ : Send).close (settle readings).2 reply.failure?) :=
    Send.takeInAll_reports target sender.flushes reply
  rw [taken, Send.after] at sent
  refine ⟨?_, ?_, ?_, ?_, ?_⟩
  · rw [sent, Send.outcome?_close]
    rfl
  · rw [sent, Effect.loading_performAll]
    simp [Send.release_mem_close]
  · rw [sent]
  · intro unused
    have holds := store.holds_begun unused (Text.trimString text) images now
    rw [sent]
    refine (holds.performAll _).split.trans ?_
    rw [Send.foldl_amend_close_fresh, List.append_assoc]
    rfl
  · intro before older later split same others
    have holds : (store.begun (Text.trimString text) images now).Holds before older
        (later ++ [prompt, ⟨target, .assistant, "", [], [], false, now.answer⟩]) := by
      refine ⟨?_, fun message member => same ▸ others message member⟩
      rw [Store.begun, split, List.append_assoc]
      rfl
    have left := (holds.performAll ((settle readings).1 ++
      ((⟨target, sender.flushes, .opening⟩ : Send).close (settle readings).2
        reply.failure?).2)).split
    rw [same, Send.foldl_amend_close target sender.flushes reply readings older now.answer] at left
    rw [sent, left, List.append_assoc]
    rfl

/-- A refusal is noted with its status and its text, and so is a response without a body. -/
example :
    let answer (reply : Reply) :=
      ((⟨"reader", false⟩ : Sender).send Store.empty "Hi" [] default reply).answer
    answer (.failed (.status 503 "busy")) =
        some (.ok (.failed ⟨2⟩ "Request failed with status 503: busy")) ∧
      answer .noBody = some (.ok (.failed ⟨2⟩ "No response body")) := by
  decide +kernel

/-- A prompt with an image, and a body whose stream ends before it is cut off. -/
theorem send_meaning_terminated_then_cut :
    let line := "data: \x7b\"type\":\"token\",\"content\":\"Ho\"\x7d\ndata: [DO"
    let reply : Reply := .body [line.toUTF8.toList, "NE]\nlater".toUTF8.toList] (some (.io "reset"))
    let image : Image := ⟨"image/png", "iVBORw=="⟩
    let result := (⟨"reader", false⟩ : Sender).send Store.empty " Hi " [image] default reply
    Store.empty.loading = false ∧ Text.trimString " Hi " ≠ "" ∧
      (∀ message ∈ Store.empty.messages, message.id ≠ ⟨Store.empty.nextId + 1⟩) ∧
      result.answer = some (.ok (.completed ⟨2⟩ .terminator)) ∧
      result.store.messages =
        [⟨⟨1⟩, .user, "Hi", [], [image], false, default⟩,
          ⟨⟨2⟩, .assistant, "Ho", [], [], false, default⟩] := by
  intro line reply image result
  have reachable : (SharedStore.ofStore Store.empty).Reachable :=
    .opened (show Store.ofMessages? [] = some Store.empty from rfl)
  have unused : ∀ message ∈ Store.empty.messages, message.id ≠ ⟨Store.empty.nextId + 1⟩ :=
    reachable.answer_unused (by decide)
  have given : Text.trimString " Hi " ≠ "" := by decide +kernel
  refine ⟨rfl, given, unused, ?_⟩
  have idle : Store.empty.loading = false := rfl
  rcases send_meaning idle ⟨"reader", false⟩ given [image] default reply with
    ⟨decoded, unique, answer, -, -, messages, -⟩
  have text : Text.Utf8.characters reply.bytes = decoded :=
    (unique _).mp (Text.Utf8.decodes_iff.mpr rfl)
  have readings : (reply.linesOf false (Text.Utf8.dropMark decoded)).map EventLine.read =
      [.parsed ⟨.token, "Ho"⟩, .terminator] := by
    subst text
    decide +kernel
  have messages := messages unused
  rw [readings] at answer messages
  exact ⟨answer, messages.trans (by decide +kernel)⟩

/-- A counter that wraps round before a send begins, and not while it lasts: an older message has
the number of the answer, and it is the older one that receives the event. -/
theorem send_meaning_older_number :
    let old : List Message :=
      [⟨⟨2⟩, .assistant, "Yes", [], [], false, default⟩,
        ⟨⟨18446744073709551614⟩, .user, "No", [], [], false, default⟩]
    let more : List StoreAction :=
      [.appendMessage .user "a" [] default, .appendMessage .user "b" [] default]
    let line := "data: \x7b\"type\":\"token\",\"content\":\"Ho\"\x7d\n"
    ∃ opened, Store.ofMessages? old = some opened ∧
      let store := ((SharedStore.ofStore opened).run more).store
      let result := (⟨"reader", false⟩ : Sender).send store "Hi" [] default
        (.body [line.toUTF8.toList] none)
      store.loading = false ∧ store.nextId < store.nextId + 2 ∧ Text.trimString "Hi" ≠ "" ∧
        store.messages.map (fun message => (message.id.value, message.content)) =
          [(2, "Yes"), (18446744073709551614, "No"), (18446744073709551615, "a"), (0, "b")] ∧
        result.answer = some (.ok (.completed ⟨2⟩ .endOfBody)) ∧
        result.store.messages.map (fun message => (message.id.value, message.content)) =
          [(2, "YesHo"), (18446744073709551614, "No"), (18446744073709551615, "a"), (0, "b"),
            (1, "Hi"), (2, "")] := by
  intro old more line
  exact ⟨_, rfl, by decide +kernel⟩

end Sender

end StreamingChat
