import StreamingChat.Proofs.Conversation.Growth
import StreamingChat.Send.Basic

/-!
# Effects on the answer

The effects of a send name no store. This file says what they do to the one that they meet: they
change the first message with the number of the target and no other, and only giving up the ticket
changes the loading flag. What they make of that message is `Effect.amend`, one effect after the
other.

The effects of readings are those of the readings before the line that ends the stream. They add the
contents of the token events to the content of the answer, and those of the thinking and error
events to its log.
-/

namespace StreamingChat

/-! ## Readings that count -/

namespace LineReading

/-- What a reading adds to the content of the answer. -/
def piece? : LineReading → Option String
  | .parsed ⟨.token, content⟩ => some content
  | _ => none

/-- What a reading adds to the log of the answer. -/
def entry? : LineReading → Option String
  | .parsed ⟨.thinking, content⟩ => some content
  | .parsed ⟨.error, content⟩ => some content
  | _ => none

/-- The readings before the line that ends the stream. -/
def beforeEnd (readings : List LineReading) : List LineReading :=
  readings.takeWhile (· ≠ .terminator)

@[simp]
theorem beforeEnd_nil : beforeEnd [] = [] :=
  rfl

@[simp]
theorem beforeEnd_cons_terminator (rest : List LineReading) :
    beforeEnd (.terminator :: rest) = [] :=
  rfl

theorem beforeEnd_cons_of_ne {reading : LineReading} (other : reading ≠ .terminator)
    (rest : List LineReading) : beforeEnd (reading :: rest) = reading :: beforeEnd rest := by
  simp [beforeEnd, other]

end LineReading

/-! ## Effects and the message that they reach -/

namespace Effect

/-- What an effect makes of the answer. -/
def amend (message : Message) : Effect → Message
  | .apply event =>
      match event.change? with
      | some (.content piece) => message.appendContent piece
      | some (.log entry) => message.appendLog entry
      | none => message
  | .fail note => message.markError note
  | .log _ => message
  | .release => message

@[simp]
theorem id_amend (message : Message) (effect : Effect) :
    (amend message effect).id = message.id := by
  cases effect with
  | apply event =>
      rw [amend]
      split <;> rfl
  | fail note => rfl
  | log entry => rfl
  | release => rfl

end Effect

/-- A conversation in which a message is the first one with its number. -/
structure Store.Holds (store : Store) (before : List Message) (message : Message)
    (later : List Message) : Prop where
  split : store.messages = before ++ message :: later
  others : ∀ other ∈ before, other.id ≠ message.id

namespace Store.Holds

variable {store : Store} {before later : List Message} {message : Message}

theorem update (holds : store.Holds before message later) (change : Message → Message)
    (keeps : (change message).id = message.id) :
    (store.update message.id change).2.Holds before (change message) later where
  split := by
    have found := changeFirst_append_of_forall_ne holds.others change (message :: later)
    rw [changeFirst, if_pos rfl, Option.map_some, ← holds.split] at found
    rw [Store.update, found]
  others := by
    rw [keeps]
    exact holds.others

/-- An effect reaches the message with the number of the target, and no other. -/
theorem perform (holds : store.Holds before message later) (effect : Effect) :
    (Effect.perform message.id store effect).Holds before (effect.amend message) later := by
  cases effect with
  | apply event =>
      rw [Effect.perform, applyEvent, Effect.amend]
      cases event.change? with
      | none => exact holds
      | some change =>
          cases change with
          | content piece => exact holds.update (fun message => message.appendContent piece) rfl
          | log entry => exact holds.update (fun message => message.appendLog entry) rfl
  | fail note => exact holds.update (fun message => message.markError note) rfl
  | log entry => exact holds
  | release => exact ⟨(messages_release store).trans holds.split, holds.others⟩

theorem performAll (holds : store.Holds before message later) (effects : List Effect) :
    (Effect.performAll message.id store effects).Holds before
      (effects.foldl Effect.amend message) later := by
  induction effects generalizing store message with
  | nil => exact holds
  | cons effect rest ih =>
      have next := ih (holds.perform effect)
      rwa [Effect.id_amend] at next

end Store.Holds

/-- The answer of a new send is the first message with its number, unless an older one has it. -/
theorem Store.holds_begun {store : Store}
    (unused : ∀ message ∈ store.messages, message.id ≠ ⟨store.nextId + 1⟩) (prompt : String)
    (images : List Image) (now : SendTimes) :
    (store.begun prompt images now).Holds
      (store.messages ++ [Message.fresh ⟨store.nextId⟩ .user prompt images now.prompt])
      (Message.fresh ⟨store.nextId + 1⟩ .assistant "" [] now.answer) [] where
  split := by simp [begun]
  others := by
    intro other member
    rcases List.mem_append.mp member with old | new
    · exact unused other old
    · cases List.mem_singleton.mp new
      simp [Message.fresh]

/-- The number of the answer is a new one, unless the counter has wrapped round. -/
theorem Store.CounterAhead.holds_begun {store : Store} (ahead : store.CounterAhead)
    (room : store.nextId < store.nextId + 1) (prompt : String) (images : List Image)
    (now : SendTimes) :
    (store.begun prompt images now).Holds
      (store.messages ++ [Message.fresh ⟨store.nextId⟩ .user prompt images now.prompt])
      (Message.fresh ⟨store.nextId + 1⟩ .assistant "" [] now.answer) [] :=
  store.holds_begun (fun _ old => ahead.ne_of_mem old (UInt64.le_of_lt room)) prompt images now

namespace Effect

theorem loading_perform (target : MessageId) (store : Store) (effect : Effect) :
    (perform target store effect).loading = (store.loading && effect ≠ .release) := by
  cases effect with
  | apply event =>
      rw [perform, Store.applyEvent]
      split <;> simp [Store.appendContent, Store.appendLog]
  | fail note => simp [perform, Store.markError]
  | log entry => simp [perform]
  | release => simp [perform]

/-- Only giving up the ticket lowers the loading flag, and no effect raises it. -/
theorem loading_performAll (target : MessageId) (store : Store) (effects : List Effect) :
    (performAll target store effects).loading =
      (store.loading && .release ∉ effects) := by
  induction effects generalizing store with
  | nil => simp [performAll]
  | cons effect rest ih =>
      have next := ih (perform target store effect)
      rw [loading_perform] at next
      rw [performAll, List.foldl_cons, ← performAll, next]
      simp [Bool.and_assoc, eq_comm]

end Effect

/-! ## What effects keep -/

/-- A conversation as it may have become of another one while no message was added. -/
structure Store.Amended (store later : Store) : Prop where
  ids : later.messages.map Message.id = store.messages.map Message.id
  grown : Message.Grown store.messages later.messages
  nextId : later.nextId = store.nextId

namespace Store.Amended

variable {store middle later : Store}

@[refl]
theorem refl (store : Store) : store.Amended store :=
  ⟨rfl, .refl _, rfl⟩

theorem trans (first : store.Amended middle) (second : middle.Amended later) :
    store.Amended later :=
  ⟨second.ids.trans first.ids, first.grown.trans second.grown, second.nextId.trans first.nextId⟩

theorem update (store : Store) (id : MessageId) {change : Message → Message}
    (grows : ∀ message : Message, message.Extends (change message)) :
    store.Amended (store.update id change).2 where
  ids := Store.ids_update _ _ fun message => (grows message).id
  grown := Store.grown_update _ _ grows
  nextId := Store.nextId_update _ _ _

end Store.Amended

namespace Effect

theorem amended_perform (target : MessageId) (store : Store) (effect : Effect) :
    store.Amended (perform target store effect) := by
  cases effect with
  | apply event =>
      rw [perform, Store.applyEvent]
      split
      · exact .update _ _ fun message => .appendContent message _
      · exact .update _ _ fun message => .appendLog message _
      · exact .refl store
  | fail note => exact .update _ _ fun message => .markError message _
  | log entry => exact .refl store
  | release =>
      refine ⟨?_, ?_, Store.nextId_release store⟩
      · simp [perform]
      · simp only [perform, Store.messages_release]
        exact .refl _

theorem amended_performAll (target : MessageId) (store : Store) (effects : List Effect) :
    store.Amended (performAll target store effects) := by
  induction effects generalizing store with
  | nil => exact .refl store
  | cons effect rest ih => exact (amended_perform target store effect).trans (ih _)

end Effect

/-! ## The effects of readings -/

theorem settle_append (first second : List LineReading) :
    settle (first ++ second) =
      if (settle first).2 then settle first
      else ((settle first).1 ++ (settle second).1, (settle second).2) := by
  induction first with
  | nil => simp [settle]
  | cons reading rest ih =>
      by_cases ended : (settle rest).2 = true
      · rw [if_pos ended] at ih
        cases reading <;> simp [settle, ih, ended]
      · rw [if_neg ended] at ih
        cases reading <;> simp [settle, ih, ended]

theorem settle_ended (readings : List LineReading) :
    (settle readings).2 = decide (LineReading.terminator ∈ readings) := by
  induction readings with
  | nil => simp [settle]
  | cons reading rest ih => cases reading <;> simp [settle, ih]

theorem foldl_amend_settle (readings : List LineReading) (message : Message) :
    (settle readings).1.foldl Effect.amend message =
      { message with
        content := message.content ++
          String.join ((LineReading.beforeEnd readings).filterMap LineReading.piece?)
        logs := message.logs ++
          (LineReading.beforeEnd readings).filterMap LineReading.entry? } := by
  induction readings generalizing message with
  | nil => simp [settle]
  | cons reading rest ih =>
      cases reading with
      | ignored =>
          rw [settle, ih, LineReading.beforeEnd_cons_of_ne (by simp)]
          rfl
      | terminator => simp [settle]
      | parsed event =>
          rw [settle, LineReading.beforeEnd_cons_of_ne (by simp), List.foldl_cons, ih]
          rcases event with ⟨kind, content⟩
          cases kind with
          | token =>
              have nothing : LineReading.entry? (.parsed ⟨.token, content⟩) = none := rfl
              simp [Effect.amend, Event.change?, Message.appendContent, LineReading.piece?, nothing,
                String.append_assoc]
          | thinking =>
              have nothing : LineReading.piece? (.parsed ⟨.thinking, content⟩) = none := rfl
              simp [Effect.amend, Event.change?, Message.appendLog, LineReading.entry?, nothing]
          | error =>
              have nothing : LineReading.piece? (.parsed ⟨.error, content⟩) = none := rfl
              simp [Effect.amend, Event.change?, Message.appendLog, LineReading.entry?, nothing]
          | other name => rfl
      | skipped reason =>
          rw [settle, LineReading.beforeEnd_cons_of_ne (by simp), List.foldl_cons, ih]
          rfl

end StreamingChat
