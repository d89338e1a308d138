import StreamingChat.Proofs.Conversation.AtEnd
import StreamingChat.Proofs.Conversation.Resuming
import StreamingChat.Proofs.Conversation.Unique
import StreamingChat.Proofs.Send.Course

/-!
# Conversations that are made by sends

A conversation that begins without messages, and to which nobody adds but by sending, may be saved
between two sends and resumed by another run of the program, any number of times. A `Chronicle` says
which conversations come about so, what became of their sends, and which states may have been seen
since the present run of the program began. From one of these states to a later one the conversation
grows at its end only, because a failure of a send is the last of its effects but the end of the
ticket.
-/

namespace StreamingChat

/-! ## Effects one after the other -/

namespace Effect

variable {target : MessageId} {store : Store} {front : List Message} {message : Message}
  {effects : List Effect}

/-- What may be seen of a conversation after each of some effects. -/
def states (target : MessageId) (store : Store) : List Effect → List Snapshot
  | [] => []
  | effect :: rest =>
      (effect.perform target store).toSnapshot :: states target (effect.perform target store) rest

/-- Whether nothing comes after a failure but the end of the ticket. -/
def FailsLast (effects : List Effect) : Prop :=
  effects.Pairwise fun first second => (∃ note, first = .fail note) → second = .release

theorem extends_amend (message : Message) (effect : Effect) :
    message.Extends (effect.amend message) := by
  cases effect with
  | apply event =>
      rw [amend]
      cases event.change? with
      | none => exact .refl message
      | some change =>
          cases change with
          | content piece => exact .appendContent message piece
          | log entry => exact .appendLog message entry
  | fail note => exact .markError message note
  | log entry => exact .refl message
  | release => exact .refl message

theorem error_amend_apply (message : Message) (event : Event) :
    ((apply event).amend message).error = message.error := by
  rw [amend]
  cases event.change? with
  | none => rfl
  | some change => cases change <;> rfl

/-- As long as a message has not failed, every effect may come, and then only the end of the
ticket. -/
theorem proceeds_amend {effect : Effect} (quiet : message.error = true → effect = .release) :
    message.Proceeds (effect.amend message) := by
  cases failed : message.error with
  | true =>
      rw [quiet failed]
      exact .refl message
  | false =>
      cases effect with
      | apply event =>
          refine .of_unfailed (extends_amend message _) ?_
          rw [error_amend_apply, failed]
      | fail note =>
          refine ⟨.markError message note, fun raised => ?_, fun _ _ same => ?_⟩
          · rw [failed] at raised
            cases raised
          · simp [amend, Message.markError, Message.appendLog] at same
      | log entry => exact .refl message
      | release => exact .refl message

/-- What a failure allows to come after the first effect. -/
theorem FailsLast.tail {effect : Effect} (order : FailsLast (effect :: effects))
    (quiet : message.error = true → ∀ later ∈ effect :: effects, later = .release) :
    (effect.amend message).error = true → ∀ later ∈ effects, later = .release := by
  intro failed later member
  cases before : message.error with
  | true => exact quiet before later (List.mem_cons_of_mem _ member)
  | false =>
      refine (List.pairwise_cons.mp order).1 later member ?_
      cases effect with
      | apply event =>
          rw [error_amend_apply, before] at failed
          cases failed
      | fail note => exact ⟨note, rfl⟩
      | log entry =>
          rw [amend, before] at failed
          cases failed
      | release =>
          rw [amend, before] at failed
          cases failed

/-- While the last message is filled in, the others stay as they are. -/
theorem exists_of_mem_states (holds : store.Holds front message [])
    (order : FailsLast effects)
    (quiet : message.error = true → ∀ effect ∈ effects, effect = .release) {snapshot : Snapshot}
    (member : snapshot ∈ states message.id store effects) :
    ∃ later, snapshot.messages = front ++ [later] ∧ message.Proceeds later := by
  induction effects generalizing store message with
  | nil => cases member
  | cons effect rest ih =>
      have first : message.Proceeds (effect.amend message) :=
        proceeds_amend fun failed => quiet failed effect (List.mem_cons_self ..)
      have next := holds.perform effect
      rcases List.mem_cons.mp member with rfl | later
      · exact ⟨_, next.split, first⟩
      · have others := ih next (List.pairwise_cons.mp order).2 (order.tail quiet)
        rw [id_amend] at others
        rcases others later with ⟨found, split, proceeds⟩
        exact ⟨found, split, first.trans proceeds⟩

theorem pairwise_states (holds : store.Holds front message []) (order : FailsLast effects)
    (quiet : message.error = true → ∀ effect ∈ effects, effect = .release) :
    (store.toSnapshot :: states message.id store effects).Pairwise fun first second =>
      Message.GrownAtEnd first.messages second.messages := by
  induction effects generalizing store message with
  | nil => exact List.pairwise_singleton _ _
  | cons effect rest ih =>
      have tail := ih (holds.perform effect) (List.pairwise_cons.mp order).2 (order.tail quiet)
      rw [id_amend] at tail
      refine List.pairwise_cons.mpr ⟨fun snapshot member => ?_, tail⟩
      rcases exists_of_mem_states holds order quiet member with ⟨later, split, proceeds⟩
      rw [split, holds.split]
      exact .concat proceeds front

theorem getLast?_states (target : MessageId) (store : Store) (effects : List Effect) :
    (store.toSnapshot :: states target store effects).getLast? =
      some (performAll target store effects).toSnapshot := by
  induction effects generalizing store with
  | nil => rfl
  | cons effect rest ih =>
      rw [states, List.getLast?_cons_cons]
      exact ih (effect.perform target store)

end Effect

namespace Send

theorem fail_notMem_settle (readings : List LineReading) (note : String) :
    .fail note ∉ (settle readings).1 := by
  induction readings with
  | nil => simp [settle]
  | cons reading rest ih => cases reading <;> simp [settle, ih]

theorem failsLast_course (target : MessageId) (flushes : Bool) {reply : Reply}
    {told : List Http.Report} (partly : told <+: reply.reports) :
    Effect.FailsLast ((⟨target, flushes, .opening⟩ : Send).course told) := by
  rcases course_eq target flushes partly with ⟨logged, course⟩
  rw [course, Effect.FailsLast, List.pairwise_append, closing, List.pairwise_append]
  refine ⟨?_, ⟨?_, ?_, ?_⟩, ?_⟩
  · refine List.Pairwise.imp_of_mem ?_ (List.pairwise_of_forall fun _ _ => trivial)
    rintro first second member - - ⟨note, rfl⟩
    exact absurd member (fail_notMem_settle _ note)
  · rw [List.pairwise_map]
    refine List.pairwise_of_forall fun first second => ?_
    rintro ⟨note, same⟩
    cases same
  · cases ((⟨target, flushes, .opening⟩ : Send).takeInAll told).1.note? <;> simp
  · rintro first member second - ⟨note, rfl⟩
    simp at member
  · rintro first member second - ⟨note, rfl⟩
    exact absurd member (fail_notMem_settle _ note)

theorem foldl_amend_course (target : MessageId) (flushes : Bool) {reply : Reply}
    {told : List Http.Report} (partly : told <+: reply.reports) (message : Message) :
    let send : Send := ⟨target, flushes, .opening⟩
    (send.course told).foldl Effect.amend message =
      (message.filledBy (LineReading.beforeEnd (heard flushes told))).concluded
        (send.takeInAll told).1.note? := by
  intro send
  rcases course_eq target flushes partly with ⟨logged, course⟩
  rw [course, List.foldl_append, foldl_amend_settle, Effect.foldl_amend_closing]
  rfl

theorem abandon_of_outcome? {send : Send} {outcome : SendOutcome}
    (isOver : send.outcome? = some outcome) : send.abandon = [] := by
  rcases send with ⟨target, flushes, _ | stream | found⟩
  · cases isOver
  · cases isOver
  · rfl

end Send

/-! ## Errands -/

/-- A call to send, and what the send is told of the reply. It is given up then, unless it is
over. -/
structure Errand where
  sender : Sender
  text : String
  images : List Image
  now : SendTimes
  reply : Reply
  told : List Http.Report
  partly : told <+: reply.reports

/-- What a send has come to. -/
structure SendRecord where
  /-- The message that has received the answer. -/
  target : MessageId
  /-- The readings of the lines that have arrived. -/
  heard : List LineReading
  /-- What became of the send, unless it was given up. -/
  outcome? : Option SendOutcome
  deriving DecidableEq, Repr

namespace SendRecord

/-- The note of the failure, if the send has failed. -/
def note? (record : SendRecord) : Option String :=
  record.outcome?.bind SendOutcome.note?

/-- The entries that the events of the send have left in the log. -/
def entries (record : SendRecord) : List String :=
  (LineReading.beforeEnd record.heard).filterMap LineReading.entry?

/-- Whether a message is the answer that a send has left. -/
structure Left (record : SendRecord) (answer : Message) : Prop where
  id : answer.id = record.target
  logs : answer.logs = record.entries ++ record.note?.toList
  error : answer.error = record.note?.isSome

/-- What the readings of a send and its failure make of a new message. -/
theorem left_concluded (record : SendRecord) {message : Message} (id : message.id = record.target)
    (logs : message.logs = []) (error : message.error = false) :
    record.Left
      ((message.filledBy (LineReading.beforeEnd record.heard)).concluded record.note?) := by
  cases noted : record.note? with
  | none =>
      exact ⟨id, by simp [Message.concluded, Message.filledBy, logs, noted, entries],
        by simp [Message.concluded, Message.filledBy, error, noted]⟩
  | some note =>
      refine ⟨id, ?_, ?_⟩
      · simp [Message.concluded, Message.filledBy, logs, noted, entries]
      · rw [noted]
        rfl

end SendRecord

namespace Errand

variable (errand : Errand) (store : Store)

def attempt : SendAttempt :=
  errand.sender.attempt store errand.text errand.images errand.now

/-- The conversation after an errand. -/
def after : Store :=
  match errand.attempt store with
  | .begun send _ begun => Effect.performAll send.target begun (send.course errand.told)
  | _ => store

/-- What may be seen of a conversation during an errand and after it. -/
def states : List Snapshot :=
  match errand.attempt store with
  | .begun send _ begun =>
      begun.toSnapshot :: Effect.states send.target begun (send.course errand.told)
  | _ => []

/-- What the send has come to, if it was accepted. -/
def record? : Option SendRecord :=
  match errand.attempt store with
  | .begun send _ _ =>
      some ⟨send.target, Send.heard send.flushes errand.told,
        (send.takeInAll errand.told).1.outcome?⟩
  | _ => none

variable {errand store}

/-- A send that is told the whole reply is not given up. -/
theorem after_of_whole (whole : errand.told = errand.reply.reports) :
    let sent := errand.sender.send store errand.text errand.images errand.now errand.reply
    errand.after store = sent.store ∧
      ∀ record, errand.record? store = some record → sent.answer = record.outcome?.map .ok := by
  intro sent
  cases attempted : errand.attempt store with
  | ignored =>
      rw [attempt] at attempted
      simp [sent, after, record?, attempt, Sender.send, attempted]
  | rejected rejection =>
      rw [attempt] at attempted
      simp [sent, after, record?, attempt, Sender.send, attempted]
  | begun send request begun =>
      rw [attempt] at attempted
      rcases Sender.eq_of_attempt attempted with ⟨prompt, given, idle, rfl, rfl, rfl⟩
      rcases Send.exists_outcome_of_reports ⟨store.nextId + 1⟩ errand.sender.flushes
        errand.reply with ⟨outcome, isOver, -⟩
      simp [sent, after, record?, attempt, Sender.send, attempted, whole, Send.course,
        Send.abandon_of_outcome? isOver]

/-- An errand does nothing, or it is a send on a conversation of which no other one is active. -/
theorem cases_attempt (errand : Errand) (store : Store) :
    (errand.after store = store ∧ errand.states store = [] ∧ errand.record? store = none) ∨
      ∃ prompt, store.loading = false ∧
        let send : Send := ⟨⟨store.nextId + 1⟩, errand.sender.flushes, .opening⟩
        let begun := store.begun prompt errand.images errand.now
        errand.after store = Effect.performAll send.target begun (send.course errand.told) ∧
          errand.states store =
            begun.toSnapshot :: Effect.states send.target begun (send.course errand.told) ∧
          errand.record? store = some ⟨send.target, Send.heard send.flushes errand.told,
            (send.takeInAll errand.told).1.outcome?⟩ := by
  cases attempted : errand.attempt store with
  | ignored => exact .inl (by simp [after, states, record?, attempted])
  | rejected rejection => exact .inl (by simp [after, states, record?, attempted])
  | begun send request begun =>
      have accepted := attempted
      rw [attempt] at accepted
      rcases Sender.eq_of_attempt accepted with ⟨prompt, -, idle, rfl, rfl, rfl⟩
      exact .inr ⟨prompt, idle, by simp [after, states, record?, attempted]⟩

/-- The counter leaves room for a send if it does not wrap round in it. -/
theorem room_of_counted {effects : List Effect} {prompt : String} {images : List Image}
    {now : SendTimes} {target : MessageId}
    (counted : store.nextId ≤
      (Effect.performAll target (store.begun prompt images now) effects).nextId) :
    store.nextId < store.nextId + 1 ∧ store.nextId.toNat + 2 ≤ UInt64.size := by
  have bound := store.nextId.toNat_lt
  rw [(Effect.amended_performAll target _ effects).nextId, UInt64.le_iff_toNat_le] at counted
  simp only [Store.begun, UInt64.toNat_add] at counted
  rw [UInt64.lt_iff_toNat_lt, UInt64.toNat_add]
  simp [UInt64.size] at counted ⊢
  omega

/-- What an errand does on a conversation whose counter is ahead of all messages, and does not wrap
round: it adds a prompt and the answer that its record tells of. -/
theorem exists_answer (ahead : store.CounterAhead)
    (counted : store.nextId ≤ (errand.after store).nextId) {record : SendRecord}
    (recorded : errand.record? store = some record) :
    ∃ prompt answer, (errand.after store).messages = store.messages ++ [prompt, answer] ∧
      prompt.logs = [] ∧ record.Left answer := by
  rcases errand.cases_attempt store with ⟨-, -, none⟩ | ⟨prompt, idle, after, -, found⟩
  · rw [none] at recorded
    cases recorded
  · rw [found] at recorded
    cases recorded
    rw [after] at counted ⊢
    have holds := ahead.holds_begun (room_of_counted counted).1 prompt errand.images errand.now
    have filled := (holds.performAll
      ((⟨⟨store.nextId + 1⟩, errand.sender.flushes, .opening⟩ : Send).course errand.told)).split
    rw [Send.foldl_amend_course _ _ errand.partly, List.append_assoc] at filled
    exact ⟨_, _, filled, rfl, SendRecord.left_concluded _ rfl rfl rfl⟩

end Errand

/-! ## Chronicles -/

/-- A conversation between two sends, whose messages have numbers of their own. -/
structure Store.Settled (store : Store) : Prop where
  tight : store.CounterTight
  unique : (store.messages.map Message.id).Nodup
  idle : store.loading = false

namespace Store.Settled

variable {store : Store} {errand : Errand}

theorem after (settled : store.Settled) (counted : store.nextId ≤ (errand.after store).nextId) :
    (errand.after store).Settled := by
  rcases errand.cases_attempt store with ⟨same, -, -⟩ | ⟨prompt, idle, after, -, -⟩
  · rwa [same]
  · rw [after] at counted ⊢
    let send : Send := ⟨⟨store.nextId + 1⟩, errand.sender.flushes, .opening⟩
    let begun := store.begun prompt errand.images errand.now
    have amended := Effect.amended_performAll send.target begun (send.course errand.told)
    have countedBegun : store.nextId ≤ begun.nextId := amended.nextId ▸ counted
    have tight : begun.CounterTight := by
      have opened : (SharedStore.ofStore store).store.CounterTight := settled.tight
      have kept := SharedStore.act_of_keptByCounting CounterTight.keptByCounting opened
        (.beginSend prompt errand.images errand.now)
      simp only [SharedStore.act, SharedStore.ofStore, beginSend_of_idle idle] at kept
      exact kept countedBegun
    have numbered := settled.tight.ahead.numbered_begun settled.unique
      (Errand.room_of_counted counted).2 prompt errand.images errand.now
    refine ⟨tight.of_same amended.ids amended.nextId, ?_, ?_⟩
    · rw [amended.ids]
      exact numbered.unique
    · rw [Effect.loading_performAll]
      rcases Send.course_eq ⟨store.nextId + 1⟩ errand.sender.flushes errand.partly with
        ⟨logged, course⟩
      simp [course, Send.closing]

end Store.Settled

/-- What sends have come to, what may have been seen since the present run of the program began, and
the conversation that they have made. The counter of no send wraps round. -/
inductive Chronicle : List SendRecord → List Snapshot → Store → Prop where
  | begun : Chronicle [] [Store.empty.toSnapshot] Store.empty
  | sent {records : List SendRecord} {states : List Snapshot} {store : Store}
      (before : Chronicle records states store) (errand : Errand)
      (counted : store.nextId ≤ (errand.after store).nextId) :
      Chronicle (records ++ (errand.record? store).toList) (states ++ errand.states store)
        (errand.after store)
  /-- Another run of the program begins, and resumes what the last one has saved. -/
  | resumed {records : List SendRecord} {states : List Snapshot} {store next : Store}
      (before : Chronicle records states store) (path : String)
      (loaded : Transcript.load path (.content (Transcript.ofStore store).write.toUTF8.toList) =
        .ok next) :
      Chronicle records [next.toSnapshot] next

namespace Chronicle

variable {records : List SendRecord} {states : List Snapshot} {store : Store}

theorem settled (chronicle : Chronicle records states store) : store.Settled := by
  induction chronicle with
  | begun =>
      have opened : Store.ofMessages? [] = some Store.empty := rfl
      exact ⟨SharedStore.counterTight_ofMessages opened, .nil, rfl⟩
  | sent before errand counted settled => exact settled.after counted
  | resumed before path loaded settled =>
      rw [Transcript.load_ofStore settled.tight] at loaded
      cases loaded
      exact ⟨settled.tight, settled.unique, rfl⟩

theorem getLast?_states (chronicle : Chronicle records states store) :
    states.getLast? = some store.toSnapshot := by
  induction chronicle with
  | begun => rfl
  | @sent records states store before errand counted last =>
      rcases errand.cases_attempt store with ⟨same, none, -⟩ | ⟨prompt, -, after, seen, -⟩
      · rw [same, none, List.append_nil, last]
      · rw [after, seen, List.getLast?_append_of_ne_nil _ (List.cons_ne_nil _ _)]
        exact Effect.getLast?_states _ _ _
  | resumed before path loaded last => rfl

/-- From one state to a later one, only the last message grows. -/
theorem pairwise_grownAtEnd (chronicle : Chronicle records states store) :
    states.Pairwise fun first second => Message.GrownAtEnd first.messages second.messages := by
  induction chronicle with
  | begun => exact List.pairwise_singleton _ _
  | @sent records states store before errand counted grown =>
      rcases errand.cases_attempt store with ⟨-, none, -⟩ | ⟨prompt, idle, after, seen, -⟩
      · rwa [none, List.append_nil]
      · rw [seen]
        rw [after] at counted
        let target : MessageId := ⟨store.nextId + 1⟩
        have room := (Errand.room_of_counted counted).1
        have holds := before.settled.tight.ahead.holds_begun room prompt errand.images errand.now
        have during := Effect.pairwise_states holds
          (Send.failsLast_course target errand.sender.flushes errand.partly)
          (fun failed => by cases failed)
        rcases List.getLast?_eq_some_iff.mp before.getLast?_states with ⟨earlier, rfl⟩
        refine List.pairwise_append.mpr ⟨grown, during, ?_⟩
        intro first seenBefore second seenNow
        have reached : Message.GrownAtEnd first.messages store.messages := by
          rcases List.mem_append.mp seenBefore with early | last
          · exact (List.pairwise_append.mp grown).2.2 _ early _ (List.mem_singleton_self _)
          · rw [List.mem_singleton.mp last]
        have begins : Message.GrownAtEnd store.messages
            (store.begun prompt errand.images errand.now).messages := .append _ _
        refine reached.trans (begins.trans ?_)
        rcases List.mem_cons.mp seenNow with rfl | later
        · exact .refl _
        · exact (List.pairwise_cons.mp during).1 _ later
  | resumed before path loaded grown => exact List.pairwise_singleton _ _

end Chronicle

end StreamingChat
