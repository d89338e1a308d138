import StreamingChat.Proofs.Conversation.Counter

/-!
# Times of messages

No operation looks at the times of messages: redating all messages of a conversation commutes with
every step, if the new messages are given the same time. No operation changes the time of a message
either. So the same actions at other times leave the same conversation behind, up to the times of
the messages that they add, and are answered the same.
-/

namespace StreamingChat

/-- The message as if it had been made at some time. -/
def Message.dated (time : Time.Timestamp) (message : Message) : Message :=
  { message with createdAt := time }

@[simp]
theorem Message.dated_dated (time : Time.Timestamp) (message : Message) :
    (message.dated time).dated time = message.dated time :=
  rfl

/-- Messages are the same when they are the same up to their times and have the same times. -/
theorem Message.eq_of_dated (time : Time.Timestamp) {first second : List Message}
    (same : first.map (Message.dated time) = second.map (Message.dated time))
    (times : first.map Message.createdAt = second.map Message.createdAt) : first = second := by
  induction first generalizing second with
  | nil =>
      cases second with
      | nil => rfl
      | cons message rest => cases same
  | cons message rest ih =>
      cases second with
      | nil => cases same
      | cons other others =>
          rw [List.map_cons, List.map_cons, List.cons.injEq] at same times
          -- All fields but the time agree by the first assumption, and the time by the second.
          have both : message = other := by
            rcases message with ⟨id, role, content, logs, images, error, createdAt⟩
            rcases other with ⟨id, role, content, logs, images, error, createdAt⟩
            have fields := same.1
            have time := times.1
            simp only [dated, Message.mk.injEq] at fields time ⊢
            simp [fields, time]
          rw [both, ih same.2 times.2]

/-- The conversation as if all its messages had been made at some time. -/
def Store.dated (time : Time.Timestamp) (store : Store) : Store :=
  { store with messages := store.messages.map (Message.dated time) }

namespace Store

variable (time : Time.Timestamp)

theorem changeFirst_map_dated (id : MessageId) {change : Message → Message}
    (commutes : ∀ message, (change message).dated time = change (message.dated time))
    (messages : List Message) :
    changeFirst id change (messages.map (Message.dated time)) =
      (changeFirst id change messages).map (List.map (Message.dated time)) := by
  induction messages with
  | nil => rfl
  | cons message rest ih =>
      have same : (message.dated time).id = message.id := rfl
      rw [List.map_cons, changeFirst, changeFirst, same, ih]
      split
      · simp [commutes]
      · simp only [Option.map_map]
        rfl

theorem update_dated (store : Store) (id : MessageId) {change : Message → Message}
    (commutes : ∀ message, (change message).dated time = change (message.dated time)) :
    ((store.dated time).update id change).2 = (store.update id change).2.dated time := by
  rw [update, update, dated, changeFirst_map_dated time id commutes]
  cases changeFirst id change store.messages <;> rfl

theorem release_dated (store : Store) :
    (store.dated time).release = store.release.dated time := by
  rw [release, release]
  split
  · rename_i busy
    rw [if_pos (show store.loading = true from busy)]
    rfl
  · rename_i idle
    rw [if_neg (show ¬store.loading = true from idle)]

theorem begun_dated (store : Store) (prompt : String) (images : List Image)
    (now : SendTimes) :
    (store.dated time).begun prompt images time = (store.begun prompt images now).dated time := by
  simp [begun, dated, Message.dated, Message.fresh]

end Store

/-- The action as if it had been taken at some time. -/
def StoreAction.dated (time : Time.Timestamp) : StoreAction → StoreAction
  | .appendMessage role content images _ => .appendMessage role content images time
  | .beginSend prompt images _ => .beginSend prompt images time
  | action => action

namespace SharedStore

/-- What there is to see of a conversation up to times, and the tickets that are held: the version
only tells who has missed a step. -/
def outline (time : Time.Timestamp) (shared : SharedStore) : SharedStore :=
  ⟨{ shared.store.dated time with version := 0 }, shared.tickets⟩

variable (time : Time.Timestamp)

theorem outline_outline (shared : SharedStore) :
    (shared.outline time).outline time = shared.outline time := by
  simp [outline, Store.dated, Function.comp_def]

theorem update_outline (shared : SharedStore) (id : MessageId) (change : Message → Message)
    (commutes : ∀ message, (change message).dated time = change (message.dated time)) :
    let plain := shared.store.update id change
    let outlined := (shared.outline time).store.update id change
    StoreAnswer.changed outlined.1 = .changed plain.1 ∧
      ((shared.outline time).withStore outlined.2).outline time =
        (shared.withStore plain.2).outline time := by
  have messages : (shared.outline time).store.messages =
      shared.store.messages.map (Message.dated time) := rfl
  rw [Store.update, Store.update, messages, Store.changeFirst_map_dated time id commutes]
  cases Store.changeFirst id change shared.store.messages with
  | none => exact ⟨rfl, outline_outline time shared⟩
  | some changed => simp [outline, withStore, Store.dated, Function.comp_def]

/-- The outline of a conversation is all that an action depends on. -/
theorem act_outline (shared : SharedStore) (action : StoreAction) :
    ((shared.outline time).act (action.dated time)).1 = (shared.act action).1 ∧
      ((shared.outline time).act (action.dated time)).2.outline time =
        (shared.act action).2.outline time := by
  cases action with
  | appendMessage role content images now =>
      refine ⟨rfl, ?_⟩
      simp [StoreAction.dated, act, Store.appendMessage, Store.push, outline, withStore,
        Store.dated, Message.fresh, Message.dated, Function.comp_def]
  | appendContent id piece =>
      exact update_outline time shared id (fun message => message.appendContent piece) fun _ => rfl
  | appendLog id entry =>
      exact update_outline time shared id (fun message => message.appendLog entry) fun _ => rfl
  | markError id note =>
      exact update_outline time shared id (fun message => message.markError note) fun _ => rfl
  | beginSend prompt images now =>
      rcases Bool.eq_false_or_eq_true shared.store.loading with busy | idle
      · have busyOutline : (shared.outline time).store.loading = true := busy
        simp only [StoreAction.dated, act, Store.beginSend_of_loading busy,
          Store.beginSend_of_loading busyOutline]
        exact ⟨trivial, outline_outline time shared⟩
      · have idleOutline : (shared.outline time).store.loading = false := idle
        simp only [StoreAction.dated, act, Store.beginSend_of_idle idle,
          Store.beginSend_of_idle idleOutline]
        refine ⟨rfl, ?_⟩
        simp [outline, Store.begun, Store.dated, Message.fresh, Message.dated, Function.comp_def]
  | dropTicket place =>
      have tickets : (shared.outline time).tickets = shared.tickets := rfl
      simp only [StoreAction.dated, act, tickets]
      cases shared.tickets[place]? with
      | none => exact ⟨rfl, outline_outline time shared⟩
      | some ticket =>
          refine ⟨rfl, ?_⟩
          by_cases busy : shared.store.loading = true
          · simp [outline, Store.release, Store.dated, busy, Function.comp_def]
          · simp [outline, Store.release, Store.dated, busy, Function.comp_def]

/-- Conversations with the same outline answer the same actions alike, at whatever times. -/
theorem run_of_outline {first second : SharedStore}
    (same : first.outline time = second.outline time) {early late : List StoreAction}
    (actions : early.map (StoreAction.dated time) = late.map (StoreAction.dated time)) :
    first.answers early = second.answers late ∧
      (first.run early).outline time = (second.run late).outline time := by
  induction early generalizing first second late with
  | nil =>
      cases late with
      | nil => exact ⟨rfl, same⟩
      | cons action rest => cases actions
  | cons action rest ih =>
      cases late with
      | nil => cases actions
      | cons lateAction lateRest =>
          rw [List.map_cons, List.map_cons, List.cons.injEq] at actions
          have one := act_outline time first action
          have two := act_outline time second lateAction
          rw [same, actions.1] at one
          rcases ih (one.2.symm.trans two.2) actions.2 with ⟨answers, final⟩
          refine ⟨?_, final⟩
          exact List.cons_eq_cons.mpr ⟨one.1.symm.trans two.1, answers⟩

/-- Every message keeps its time. -/
theorem createdAt_act (shared : SharedStore) (action : StoreAction) :
    shared.store.messages.map Message.createdAt <+:
      (shared.act action).2.store.messages.map Message.createdAt := by
  have updated (id : MessageId) {change : Message → Message}
      (keeps : ∀ message, (change message).createdAt = message.createdAt) :
      shared.store.messages.map Message.createdAt <+:
        (shared.store.update id change).2.messages.map Message.createdAt := by
    simp [Store.map_update Message.createdAt shared.store id keeps]
  cases action with
  | appendMessage role content images now =>
      exact List.IsPrefix.map _ (List.prefix_append _ _)
  | appendContent id piece => exact updated id fun _ => rfl
  | appendLog id entry => exact updated id fun _ => rfl
  | markError id note => exact updated id fun _ => rfl
  | beginSend prompt images now =>
      rcases Bool.eq_false_or_eq_true shared.store.loading with busy | idle
      · simp [act, Store.beginSend_of_loading busy]
      · rw [act, Store.beginSend_of_idle idle]
        exact List.IsPrefix.map _ (List.prefix_append _ _)
  | dropTicket place =>
      rw [act]
      split
      · simp
      · exact List.prefix_refl _

theorem createdAt_run (shared : SharedStore) (actions : List StoreAction) :
    shared.store.messages.map Message.createdAt <+:
      (shared.run actions).store.messages.map Message.createdAt := by
  induction actions generalizing shared with
  | nil => exact List.prefix_refl _
  | cons action rest ih => exact (createdAt_act shared action).trans (ih (shared.act action).2)

end SharedStore

end StreamingChat
