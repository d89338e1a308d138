import StreamingChat.Proofs.Conversation.Counter

/-!
# Messages with numbers of their own

A change reaches the first message with a number. When no two messages have the same number, it
reaches exactly the message that has it, and a whole run of actions splits into what each message
undergoes: `StoreAction.amend` is what an action makes of a message that is there, and
`StoreAction.added` are the messages that actions add, each as the later actions leave it.
-/

namespace StreamingChat

/-- Changes a message if it has a number. -/
def Message.changeAt (id : MessageId) (change : Message → Message) (message : Message) : Message :=
  if message.id = id then change message else message

namespace Message

variable {message : Message} {id : MessageId} {change : Message → Message}

theorem changeAt_of_eq (same : message.id = id) : message.changeAt id change = change message :=
  if_pos same

theorem changeAt_of_ne (other : message.id ≠ id) : message.changeAt id change = message :=
  if_neg other

theorem id_changeAt (keeps : ∀ message, (change message).id = message.id) :
    (message.changeAt id change).id = message.id := by
  rw [changeAt]
  split
  · exact keeps message
  · rfl

end Message

namespace StoreAction

/-- What an action makes of a message. -/
def amend (message : Message) : StoreAction → Message
  | .appendMessage _ _ _ _ => message
  | .appendContent id piece => message.changeAt id fun message => message.appendContent piece
  | .appendLog id entry => message.changeAt id fun message => message.appendLog entry
  | .markError id note => message.changeAt id fun message => message.markError note
  | .beginSend _ _ _ => message
  | .dropTicket _ => message

/-- Whether an action adds a message of its own. -/
def appends : StoreAction → Bool
  | .appendMessage _ _ _ _ => true
  | _ => false

/-- The messages that actions add from a number on, each as the later actions leave it. -/
def added (nextId : UInt64) : List StoreAction → List Message
  | [] => []
  | .appendMessage role content images now :: rest =>
      rest.foldl amend (Message.fresh ⟨nextId⟩ role content images now) :: added (nextId + 1) rest
  | _ :: rest => added nextId rest

@[simp]
theorem id_amend (message : Message) (action : StoreAction) :
    (amend message action).id = message.id := by
  cases action with
  | appendContent id piece => exact Message.id_changeAt fun _ => rfl
  | appendLog id entry => exact Message.id_changeAt fun _ => rfl
  | markError id note => exact Message.id_changeAt fun _ => rfl
  | appendMessage role content images now => rfl
  | beginSend prompt images now => rfl
  | dropTicket place => rfl

theorem exists_of_appends {action : StoreAction} (appends : action.appends = true) :
    ∃ role content images now, action = .appendMessage role content images now := by
  cases action with
  | appendMessage role content images now => exact ⟨role, content, images, now, rfl⟩
  | appendContent id piece => cases appends
  | appendLog id entry => cases appends
  | markError id note => cases appends
  | beginSend prompt images now => cases appends
  | dropTicket place => cases appends

theorem added_cons_of_quiet {action : StoreAction} (quiet : action.appends = false)
    (nextId : UInt64) (rest : List StoreAction) :
    added nextId (action :: rest) = added nextId rest := by
  cases action with
  | appendMessage role content images now => cases quiet
  | appendContent id piece => rfl
  | appendLog id entry => rfl
  | markError id note => rfl
  | beginSend prompt images now => rfl
  | dropTicket place => rfl

end StoreAction

namespace Store

/-- The numbers of the messages are unique and below a bound, from which the counter goes on. -/
structure Numbered (store : Store) (bound : Nat) : Prop where
  unique : (store.messages.map Message.id).Nodup
  below : ∀ id ∈ store.messages.map Message.id, id.value.toNat < bound
  nextId : store.nextId = UInt64.ofNat bound

theorem changeFirst_of_forall_ne {id : MessageId} {messages : List Message}
    (others : ∀ message ∈ messages, message.id ≠ id) (change : Message → Message) :
    changeFirst id change messages = none := by
  have nothing := changeFirst_append_of_forall_ne others change []
  rwa [List.append_nil] at nothing

/-- Without repeated numbers it makes no difference that a change stops at the first message. -/
theorem changeFirst_getD {messages : List Message} (unique : (messages.map Message.id).Nodup)
    (id : MessageId) (change : Message → Message) :
    (changeFirst id change messages).getD messages =
      messages.map (Message.changeAt id change) := by
  induction messages with
  | nil => rfl
  | cons message rest ih =>
      rw [List.map_cons, List.nodup_cons] at unique
      have later := ih unique.2
      by_cases same : message.id = id
      · have others : ∀ other ∈ rest, other.id ≠ id := by
          rintro other member rfl
          exact unique.1 (same ▸ List.mem_map_of_mem member)
        rw [changeFirst_of_forall_ne others] at later
        rw [changeFirst, if_pos same, List.map_cons, Message.changeAt_of_eq same, ← later]
        rfl
      · rw [changeFirst, if_neg same, List.map_cons, Message.changeAt_of_ne same, ← later]
        cases changeFirst id change rest <;> rfl

theorem messages_update {store : Store} (unique : (store.messages.map Message.id).Nodup)
    (id : MessageId) (change : Message → Message) :
    (store.update id change).2.messages = store.messages.map (Message.changeAt id change) := by
  rw [← changeFirst_getD unique, update]
  cases changeFirst id change store.messages <;> rfl

namespace Numbered

variable {store : Store} {bound : Nat}

theorem of_same {other : Store} (numbered : store.Numbered bound)
    (ids : other.messages.map Message.id = store.messages.map Message.id)
    (nextId : other.nextId = store.nextId) : other.Numbered bound where
  unique := ids ▸ numbered.unique
  below := ids ▸ numbered.below
  nextId := nextId.trans numbered.nextId

theorem toNat_nextId (numbered : store.Numbered bound) (room : bound < UInt64.size) :
    store.nextId.toNat = bound := by
  rw [numbered.nextId, UInt64.toNat_ofNat', Nat.mod_eq_of_lt room]

theorem push (numbered : store.Numbered bound) (room : bound < UInt64.size) (role : Role)
    (content : String) (images : List Image) (now : Time.Timestamp) :
    (store.push role content images now).2.Numbered (bound + 1) where
  unique := by
    simp only [Store.push, List.map_append, List.map_cons, List.map_nil, Message.fresh]
    refine List.nodup_append.mpr ⟨numbered.unique, by simp, ?_⟩
    rintro id member _ new rfl
    have below := numbered.below id member
    rw [List.mem_singleton.mp new, numbered.toNat_nextId room] at below
    exact Nat.lt_irrefl _ below
  below := by
    intro id member
    simp only [Store.push, List.map_append, List.mem_append, List.map_cons, List.map_nil,
      List.mem_singleton, Message.fresh] at member
    rcases member with old | rfl
    · exact Nat.lt_succ_of_lt (numbered.below id old)
    · exact Nat.lt_succ_of_le (Nat.le_of_eq (numbered.toNat_nextId room))
  nextId := by
    rw [Store.push, numbered.nextId]
    simp [UInt64.ofNat_add]

theorem appendMessage (numbered : store.Numbered bound) (room : bound < UInt64.size)
    (role : Role) (content : String) (images : List Image) (now : Time.Timestamp) :
    (store.appendMessage role content images now).2.Numbered (bound + 1) :=
  (numbered.push room role content images now).of_same rfl rfl

end Numbered

/-- A send keeps a conversation numbered when it begins. -/
theorem Numbered.begun {store : Store} {bound : Nat} (numbered : store.Numbered bound)
    (room : bound + 2 ≤ UInt64.size) (prompt : String) (images : List Image)
    (now : SendTimes) : (store.begun prompt images now).Numbered (bound + 2) := by
  have first := numbered.push (by omega) .user prompt images now.prompt
  have both := first.push (by omega) .assistant "" [] now.answer
  refine both.of_same ?_ ?_
  · simp [Store.begun, Store.push]
  · have twice : store.nextId + 1 + 1 = store.nextId + 2 := UInt64.add_assoc _ _ _
    exact twice.symm

theorem Numbered.ahead {store : Store} {bound : Nat} (numbered : store.Numbered bound)
    (room : bound < UInt64.size) : store.CounterAhead := by
  intro id member
  rw [UInt64.lt_iff_toNat_lt, numbered.toNat_nextId room]
  exact numbered.below id member

theorem CounterAhead.numbered {store : Store} (ahead : store.CounterAhead)
    (unique : (store.messages.map Message.id).Nodup) : store.Numbered store.nextId.toNat where
  unique := unique
  below := by
    intro id member
    exact UInt64.lt_iff_toNat_lt.mp (ahead id member)
  nextId := UInt64.ofNat_toNat.symm

/-- A conversation without repeated numbers is numbered when a send begins on it. -/
theorem CounterAhead.numbered_begun {store : Store} (ahead : store.CounterAhead)
    (unique : (store.messages.map Message.id).Nodup)
    (room : store.nextId.toNat + 2 ≤ UInt64.size) (prompt : String) (images : List Image)
    (now : SendTimes) :
    (store.begun prompt images now).Numbered (store.nextId.toNat + 2) :=
  (ahead.numbered unique).begun room prompt images now

end Store

namespace SharedStore

variable {shared : SharedStore} {bound : Nat}

/-- An action that adds no message changes those that are there, one by one. -/
theorem messages_act (unique : (shared.store.messages.map Message.id).Nodup)
    {action : StoreAction} (quiet : action.appends = false)
    (unaccepted : ∀ ticket, (shared.act action).1 ≠ .begun ticket) :
    (shared.act action).2.store.messages =
        shared.store.messages.map (fun message => action.amend message) ∧
      (shared.act action).2.store.nextId = shared.store.nextId := by
  cases action with
  | appendMessage role content images now => cases quiet
  | appendContent id piece =>
      exact ⟨Store.messages_update unique id _, Store.nextId_update _ _ _⟩
  | appendLog id entry => exact ⟨Store.messages_update unique id _, Store.nextId_update _ _ _⟩
  | markError id note => exact ⟨Store.messages_update unique id _, Store.nextId_update _ _ _⟩
  | beginSend prompt images now =>
      rcases Bool.eq_false_or_eq_true shared.store.loading with busy | idle
      · simp [act, Store.beginSend_of_loading busy, StoreAction.amend]
      · simp [act, Store.beginSend_of_idle idle] at unaccepted
  | dropTicket place =>
      rw [act]
      split <;> simp [StoreAction.amend]

theorem numbered_act (numbered : shared.store.Numbered bound) {action : StoreAction}
    (quiet : action.appends = false)
    (unaccepted : ∀ ticket, (shared.act action).1 ≠ .begun ticket) :
    (shared.act action).2.store.Numbered bound := by
  rcases messages_act numbered.unique quiet unaccepted with ⟨messages, nextId⟩
  refine numbered.of_same ?_ nextId
  rw [messages, List.map_map]
  exact List.map_congr_left fun message _ => StoreAction.id_amend message action

end SharedStore

end StreamingChat
