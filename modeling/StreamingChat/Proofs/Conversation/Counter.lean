import StreamingChat.Proofs.Conversation.Tickets

/-!
# Numbers of messages

A conversation that is resumed may hold several messages with one number, and a change reaches the
first of them only. The messages of a send are safe from that: as long as the counter does not wrap
round, it is ahead of the numbers of all messages, so that new messages have numbers of their own.

Every action either leaves the numbers and the counter as they are or adds one or two messages. What
is to be shown of the numbers in every conversation that comes about is therefore shown of these two
cases only.
-/

namespace StreamingChat

namespace Store

/-! ## Changes of one message -/

theorem changeFirst_append_of_forall_ne {id : MessageId} {before : List Message}
    (others : ∀ message ∈ before, message.id ≠ id) (change : Message → Message)
    (later : List Message) :
    changeFirst id change (before ++ later) =
      (changeFirst id change later).map (before ++ ·) := by
  induction before with
  | nil => simp
  | cons message rest ih =>
      have other : message.id ≠ id := others message (List.mem_cons_self ..)
      have otherRest : ∀ message ∈ rest, message.id ≠ id :=
        fun message member => others message (List.mem_cons_of_mem _ member)
      rw [List.cons_append, changeFirst, if_neg other, ih otherRest, Option.map_map]
      rfl

theorem exists_split_of_changeFirst {id : MessageId} {change : Message → Message}
    {messages changed : List Message} (found : changeFirst id change messages = some changed) :
    ∃ before message later, messages = before ++ message :: later ∧
      (∀ other ∈ before, other.id ≠ id) ∧ message.id = id ∧
      changed = before ++ change message :: later := by
  induction messages generalizing changed with
  | nil => cases found
  | cons message rest ih =>
      rw [changeFirst] at found
      split at found
      · rename_i same
        cases found
        exact ⟨[], message, rest, rfl, by simp, same, rfl⟩
      · rename_i other
        rw [Option.map_eq_some_iff] at found
        rcases found with ⟨changedRest, foundRest, rfl⟩
        rcases ih foundRest with ⟨before, found, later, rfl, others, same, rfl⟩
        refine ⟨message :: before, found, later, rfl, ?_, same, rfl⟩
        exact List.forall_mem_cons.mpr ⟨other, others⟩

/-- A change leaves in every message what it keeps. -/
theorem map_update {β : Type} (view : Message → β) (store : Store) (id : MessageId)
    {change : Message → Message} (keeps : ∀ message, view (change message) = view message) :
    (store.update id change).2.messages.map view = store.messages.map view := by
  rw [update]
  split
  · rename_i changed found
    rcases exists_split_of_changeFirst found with ⟨before, message, later, split, -, -, rfl⟩
    simp [split, keeps]
  · rfl

theorem ids_update (store : Store) (id : MessageId) {change : Message → Message}
    (keeps : ∀ message, (change message).id = message.id) :
    (store.update id change).2.messages.map Message.id = store.messages.map Message.id :=
  map_update Message.id store id keeps

@[simp]
theorem nextId_update (store : Store) (id : MessageId) (change : Message → Message) :
    (store.update id change).2.nextId = store.nextId := by
  rw [update]
  split <;> rfl

@[simp]
theorem messages_release (store : Store) : store.release.messages = store.messages := by
  rw [release]
  split <;> rfl

@[simp]
theorem nextId_release (store : Store) : store.release.nextId = store.nextId := by
  rw [release]
  split <;> rfl

/-! ## Properties of the numbers -/

/-- A property that depends on the numbers and the counter, and that a new message keeps unless the
counter wraps round. -/
structure KeptByCounting (holds : Store → Prop) : Prop where
  same {store other : Store} (start : holds store)
    (ids : other.messages.map Message.id = store.messages.map Message.id)
    (nextId : other.nextId = store.nextId) : holds other
  push {store : Store} (start : holds store) (role : Role) (content : String)
    (images : List Image) (now : Time.Timestamp) (room : store.nextId < store.nextId + 1) :
    holds (store.push role content images now).2

end Store

namespace SharedStore

open Store

variable {holds : Store → Prop}

/-- Every action keeps such a property, unless the counter wraps round. -/
theorem act_of_keptByCounting (kept : KeptByCounting holds) {shared : SharedStore}
    (start : holds shared.store) (action : StoreAction)
    (counted : shared.store.nextId ≤ (shared.act action).2.store.nextId) :
    holds (shared.act action).2.store := by
  cases action with
  | appendMessage role content images now =>
      have room : shared.store.nextId < shared.store.nextId + 1 := by
        have counted : shared.store.nextId ≤ shared.store.nextId + 1 := counted
        grind
      exact kept.same (kept.push start role content images now room) rfl rfl
  | appendContent id piece =>
      exact kept.same start (ids_update _ _ fun _ => rfl) (nextId_update _ _ _)
  | appendLog id entry =>
      exact kept.same start (ids_update _ _ fun _ => rfl) (nextId_update _ _ _)
  | markError id note =>
      exact kept.same start (ids_update _ _ fun _ => rfl) (nextId_update _ _ _)
  | beginSend prompt images now =>
      rcases Bool.eq_false_or_eq_true shared.store.loading with busy | idle
      · simpa only [act, beginSend_of_loading busy] using start
      · simp only [act, beginSend_of_idle idle, begun] at counted ⊢
        have first : shared.store.nextId < shared.store.nextId + 1 := by grind
        have second : shared.store.nextId + 1 < shared.store.nextId + 1 + 1 := by grind
        have both := kept.push (kept.push start .user prompt images now.prompt first)
          .assistant "" [] now.answer second
        refine kept.same both ?_ ?_
        · simp [Store.push]
        · grind [Store.push, begun]
  | dropTicket place =>
      rw [act]
      split
      · exact kept.same start (by simp) (by simp)
      · exact start

theorem Reachable.of_keptByCounting (kept : KeptByCounting holds)
    (opened : ∀ {messages : List Message} {store : Store},
      Store.ofMessages? messages = some store → holds store)
    {shared : SharedStore} (reachable : shared.Reachable) : holds shared.store := by
  induction reachable with
  | opened given => exact opened given
  | acted before action counted start => exact act_of_keptByCounting kept start action counted

end SharedStore

namespace Store

/-! ## The counter -/

theorem le_foldl_firstFreeId (messages : List Message) (bound : Nat) :
    let free := messages.foldl (fun bound message => max bound (message.id.value.toNat + 1)) bound
    bound ≤ free ∧ ∀ message ∈ messages, message.id.value.toNat + 1 ≤ free := by
  induction messages generalizing bound with
  | nil => simp
  | cons message rest ih =>
      rcases ih (max bound (message.id.value.toNat + 1)) with ⟨above, later⟩
      refine ⟨Nat.le_trans (Nat.le_max_left _ _) above, ?_⟩
      exact List.forall_mem_cons.mpr ⟨Nat.le_trans (Nat.le_max_right _ _) above, later⟩

theorem lt_firstFreeId {messages : List Message} {message : Message}
    (member : message ∈ messages) : message.id.value.toNat < firstFreeId messages :=
  (le_foldl_firstFreeId messages 1).2 message member

theorem firstFreeId_eq_of_ids {first second : List Message}
    (ids : first.map Message.id = second.map Message.id) :
    firstFreeId first = firstFreeId second := by
  have folded (messages : List Message) : firstFreeId messages =
      (messages.map Message.id).foldl (fun bound id => max bound (id.value.toNat + 1)) 1 := by
    rw [firstFreeId, List.foldl_map]
  rw [folded, folded, ids]

/-- The counter is the least number above those of all messages. -/
def CounterTight (store : Store) : Prop :=
  store.nextId.toNat = firstFreeId store.messages

/-- The counter is ahead of the numbers of all messages. -/
def CounterAhead (store : Store) : Prop :=
  ∀ id ∈ store.messages.map Message.id, id.value < store.nextId

theorem CounterAhead.ne_of_mem {store : Store} (ahead : store.CounterAhead) {message : Message}
    (member : message ∈ store.messages) {id : MessageId} (later : store.nextId ≤ id.value) :
    message.id ≠ id := by
  rintro rfl
  have below := ahead message.id (List.mem_map_of_mem member)
  exact UInt64.not_le.mpr below later

namespace CounterTight

variable {store : Store}

theorem ahead (tight : store.CounterTight) : store.CounterAhead := by
  intro id member
  rcases List.mem_map.mp member with ⟨message, old, rfl⟩
  rw [UInt64.lt_iff_toNat_lt, tight]
  exact lt_firstFreeId old

theorem of_same {other : Store} (tight : store.CounterTight)
    (ids : other.messages.map Message.id = store.messages.map Message.id)
    (nextId : other.nextId = store.nextId) : other.CounterTight := by
  rw [CounterTight, firstFreeId_eq_of_ids ids, nextId]
  exact tight

/-- A new message takes the number of the counter, and the counter goes on by one. -/
theorem push (tight : store.CounterTight) (role : Role) (content : String) (images : List Image)
    (now : Time.Timestamp) (room : store.nextId < store.nextId + 1) :
    (store.push role content images now).2.CounterTight := by
  have next : (store.nextId + 1).toNat = store.nextId.toNat + 1 := by
    rw [UInt64.lt_iff_toNat_lt, UInt64.toNat_add] at room
    rw [UInt64.toNat_add]
    have bound := store.nextId.toNat_lt
    simp at room ⊢
    omega
  have grown : firstFreeId (store.push role content images now).2.messages =
      max (firstFreeId store.messages) (store.nextId.toNat + 1) := by
    simp [Store.push, firstFreeId, Message.fresh]
  calc (store.push role content images now).2.nextId.toNat
    _ = store.nextId.toNat + 1 := next
    _ = max store.nextId.toNat (store.nextId.toNat + 1) := by omega
    _ = firstFreeId (store.push role content images now).2.messages := by rw [grown, ← tight]

theorem keptByCounting : KeptByCounting CounterTight := ⟨of_same, push⟩

end CounterTight

end Store

namespace SharedStore

open Store

theorem counterTight_ofMessages {messages : List Message} {store : Store}
    (opened : Store.ofMessages? messages = some store) : store.CounterTight := by
  rw [ofMessages?] at opened
  split at opened
  · rename_i room
    cases opened
    rw [CounterTight, UInt64.toNat_ofNat', Nat.mod_eq_of_lt room]
  · cases opened

theorem Reachable.counterTight {shared : SharedStore} (reachable : shared.Reachable) :
    shared.store.CounterTight :=
  reachable.of_keptByCounting CounterTight.keptByCounting counterTight_ofMessages

theorem Reachable.counterAhead {shared : SharedStore} (reachable : shared.Reachable) :
    shared.store.CounterAhead :=
  reachable.counterTight.ahead

end SharedStore

end StreamingChat
