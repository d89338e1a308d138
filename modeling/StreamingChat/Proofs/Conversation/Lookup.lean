import StreamingChat.Proofs.Conversation.Unique

/-!
# Looking up a message

A reader looks a message up by its number and finds the first one, which is the one that changes
reach, too. What a reader finds depends therefore on the changes of that number alone, also when
other messages have the same number.
-/

namespace StreamingChat

/-- Whether an action of another holder leaves the message with a number alone. -/
def StoreAction.Spares (target : MessageId) : StoreAction → Prop
  | .appendContent id _ => id ≠ target
  | .appendLog id _ => id ≠ target
  | .markError id _ => id ≠ target
  | _ => True

theorem StoreAction.Spares.amend_eq {action : StoreAction} {message : Message}
    (spares : action.Spares message.id) : amend message action = message := by
  cases action with
  | appendContent id piece => rw [amend, Message.changeAt_of_ne (Ne.symm spares)]
  | appendLog id entry => rw [amend, Message.changeAt_of_ne (Ne.symm spares)]
  | markError id note => rw [amend, Message.changeAt_of_ne (Ne.symm spares)]
  | appendMessage role content images now => rfl
  | beginSend prompt images now => rfl
  | dropTicket place => rfl

namespace Store

variable {store : Store} {target : MessageId} {message : Message}

theorem message?_eq_some_iff :
    store.message? target = some message ↔
      ∃ before later, store.messages = before ++ message :: later ∧
        (∀ other ∈ before, other.id ≠ target) ∧ message.id = target := by
  rw [Snapshot.message?, List.find?_eq_some_iff_append]
  simp only [decide_eq_true_eq, Bool.not_eq_true', decide_eq_false_iff_not]
  constructor
  · rintro ⟨same, before, later, split, others⟩
    exact ⟨before, later, split, others, same⟩
  · rintro ⟨before, later, split, others, same⟩
    exact ⟨same, before, later, split, others⟩

theorem message?_update_self (found : store.message? target = some message)
    {change : Message → Message} (keeps : (change message).id = message.id) :
    (store.update target change).2.message? target = some (change message) := by
  rcases message?_eq_some_iff.mp found with ⟨before, later, split, others, same⟩
  have changed := changeFirst_append_of_forall_ne others change (message :: later)
  rw [changeFirst, if_pos same, Option.map_some, ← split] at changed
  rw [update, changed]
  exact message?_eq_some_iff.mpr ⟨before, later, rfl, others, keeps.trans same⟩

theorem message?_update_of_ne (found : store.message? target = some message) {id : MessageId}
    (other : id ≠ target) {change : Message → Message}
    (keeps : ∀ message, (change message).id = message.id) :
    (store.update id change).2.message? target = some message := by
  rw [update]
  split
  · rename_i changed reached
    rcases exists_split_of_changeFirst reached with ⟨before, hit, later, split, -, same, rfl⟩
    -- The changed message is passed over in the search, both before and after its change.
    have missed : decide (hit.id = target) = false := decide_eq_false (same ▸ other)
    have missedAfter : decide ((change hit).id = target) = false := by rw [keeps, missed]
    rw [Snapshot.message?, split, List.find?_append, List.find?_cons, missed] at found
    rw [Snapshot.message?, List.find?_append, List.find?_cons, missedAfter]
    exact found
  · exact found

theorem message?_of_prefix (found : store.message? target = some message) {grown : Store}
    (longer : store.messages <+: grown.messages) : grown.message? target = some message := by
  rcases longer with ⟨added, grows⟩
  rw [Snapshot.message?, ← grows, List.find?_append]
  rw [Snapshot.message?] at found
  rw [found]
  rfl

end Store

namespace SharedStore

/-- A message is found unchanged after an action that spares it. -/
theorem message?_act {shared : SharedStore} {target : MessageId} {message : Message}
    (found : shared.store.message? target = some message) {action : StoreAction}
    (spares : action.Spares target) :
    (shared.act action).2.store.message? target = some message := by
  cases action with
  | appendMessage role content images now =>
      exact Store.message?_of_prefix found (List.prefix_append _ _)
  | appendContent id piece => exact Store.message?_update_of_ne found spares fun _ => rfl
  | appendLog id entry => exact Store.message?_update_of_ne found spares fun _ => rfl
  | markError id note => exact Store.message?_update_of_ne found spares fun _ => rfl
  | beginSend prompt images now =>
      rcases Bool.eq_false_or_eq_true shared.store.loading with busy | idle
      · rw [act, Store.beginSend_of_loading busy]
        exact found
      · rw [act, Store.beginSend_of_idle idle]
        exact Store.message?_of_prefix found (List.prefix_append _ _)
  | dropTicket place =>
      rw [act]
      split
      · exact Store.message?_of_prefix found (by simp)
      · exact found

end SharedStore

end StreamingChat
