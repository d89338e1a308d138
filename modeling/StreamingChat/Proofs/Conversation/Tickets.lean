import StreamingChat.Conversation.Sharing

/-!
# Tickets are exclusive

The loading flag and the tickets are kept apart: giving up a ticket lowers the flag, whoever has
raised it. This file shows that the two always agree. The invariant is `Exclusive`: either no ticket
is held and the flag is down, or a single one is held and the flag is up. A send begins only in the
first case, so that a second ticket, whose end would lower the flag of another send, never comes to
be.
-/

namespace StreamingChat

namespace Store

variable (store : Store)

@[simp]
theorem loading_appendMessage (role : Role) (content : String) (images : List Image)
    (now : Time.Timestamp) :
    (store.appendMessage role content images now).2.loading = store.loading :=
  rfl

@[simp]
theorem loading_update (id : MessageId) (change : Message → Message) :
    (store.update id change).2.loading = store.loading := by
  rw [update]
  split <;> rfl

@[simp]
theorem loading_release : store.release.loading = false := by
  rw [release]
  split
  · rfl
  · rename_i idle
    simpa using idle

/-- The conversation after a send has begun: its two messages and the raised flag, in one step. -/
def begun (prompt : String) (images : List Image) (now : SendTimes) : Store where
  messages := store.messages ++
    [Message.fresh ⟨store.nextId⟩ .user prompt images now.prompt,
      Message.fresh ⟨store.nextId + 1⟩ .assistant "" [] now.answer]
  loading := true
  nextId := store.nextId + 2
  version := store.version + 1

theorem beginSend_of_idle {store : Store} (idle : store.loading = false) (prompt : String)
    (images : List Image) (now : SendTimes) :
    store.beginSend prompt images now =
      .ok (⟨⟨store.nextId⟩, ⟨store.nextId + 1⟩⟩, store.begun prompt images now) := by
  have twice : store.nextId + 1 + 1 = store.nextId + 2 := UInt64.add_assoc _ _ _
  simp [beginSend, begun, idle, push, twice]

theorem beginSend_of_loading {store : Store} (busy : store.loading = true) (prompt : String)
    (images : List Image) (now : SendTimes) :
    store.beginSend prompt images now = .error .busy := by
  simp [beginSend, busy]

end Store

namespace SharedStore

/-- The tickets that are held and the loading flag agree, and at most one ticket is held. -/
inductive Exclusive : SharedStore → Prop where
  | free {store : Store} (idle : store.loading = false) : Exclusive ⟨store, []⟩
  | taken {store : Store} {ticket : Ticket} (busy : store.loading = true) :
      Exclusive ⟨store, [ticket]⟩

theorem Exclusive.withStore {shared : SharedStore} (exclusive : shared.Exclusive) {store : Store}
    (same : store.loading = shared.store.loading) : (shared.withStore store).Exclusive := by
  cases exclusive with
  | free idle => exact .free (same.trans idle)
  | taken busy => exact .taken (same.trans busy)

theorem Exclusive.act {shared : SharedStore} (exclusive : shared.Exclusive)
    (action : StoreAction) : (shared.act action).2.Exclusive := by
  cases action with
  | appendMessage role content images now => exact exclusive.withStore (by simp)
  | appendContent id piece => exact exclusive.withStore (Store.loading_update _ _ _)
  | appendLog id entry => exact exclusive.withStore (Store.loading_update _ _ _)
  | markError id note => exact exclusive.withStore (Store.loading_update _ _ _)
  | beginSend prompt images now =>
      cases exclusive with
      | free idle =>
          simp only [SharedStore.act, Store.beginSend_of_idle idle, List.nil_append]
          exact .taken rfl
      | taken busy =>
          simp only [SharedStore.act, Store.beginSend_of_loading busy]
          exact .taken busy
  | dropTicket place =>
      cases exclusive with
      | free idle => exact .free idle
      | taken busy =>
          cases place with
          | zero => exact .free (Store.loading_release _)
          | succ place => exact .taken busy

theorem Exclusive.run {shared : SharedStore} (exclusive : shared.Exclusive)
    (actions : List StoreAction) : (shared.run actions).Exclusive := by
  induction actions generalizing shared with
  | nil => exact exclusive
  | cons action rest ih => exact ih (exclusive.act action)

theorem exclusive_ofMessages {messages : List Message} {store : Store}
    (opened : Store.ofMessages? messages = some store) : (ofStore store).Exclusive := by
  rw [Store.ofMessages?] at opened
  split at opened
  · cases opened
    exact .free rfl
  · cases opened

theorem Exclusive.tickets_eq_nil_iff {shared : SharedStore} (exclusive : shared.Exclusive) :
    shared.tickets = [] ↔ shared.store.loading = false := by
  cases exclusive with
  | free idle => simp [idle]
  | taken busy => simp [busy]

theorem Reachable.exclusive {shared : SharedStore} (reachable : shared.Reachable) :
    shared.Exclusive := by
  induction reachable with
  | opened opened => exact exclusive_ofMessages opened
  | acted before action counted exclusive => exact exclusive.act action

/-- A ticket is held until it is given up. -/
theorem prefix_tickets_act (shared : SharedStore) {action : StoreAction}
    (kept : ∀ place, action ≠ .dropTicket place) :
    shared.tickets <+: (shared.act action).2.tickets := by
  cases action with
  | beginSend prompt images now =>
      rw [act]
      split
      · exact List.prefix_append _ _
      · exact List.prefix_refl _
  | dropTicket place => exact absurd rfl (kept place)
  | appendMessage role content images now => exact List.prefix_refl _
  | appendContent id piece => exact List.prefix_refl _
  | appendLog id entry => exact List.prefix_refl _
  | markError id note => exact List.prefix_refl _

/-- Whatever the holders of a conversation do, at most one ticket is held, until it is given up, and
the loading flag is up as long as one is. A send begins exactly when no ticket is held, in one step;
a send that is rejected leaves nothing behind that anyone could see. -/
theorem sends_exclusive {messages : List Message} {store : Store}
    (opened : Store.ofMessages? messages = some store) (actions : List StoreAction) :
    let shared := (ofStore store).run actions
    shared.tickets.length ≤ 1 ∧
      (shared.store.loading = true ↔ shared.tickets.length = 1) ∧
      (∀ action, (∀ place, action ≠ .dropTicket place) →
        shared.tickets <+: (shared.act action).2.tickets) ∧
      (∀ place, (shared.act (.dropTicket place)).1 = .dropped true →
        (shared.act (.dropTicket place)).2.tickets = [] ∧
          (shared.act (.dropTicket place)).2.store.loading = false) ∧
      ∀ prompt images now,
        let answer := (shared.act (.beginSend prompt images now)).1
        let after := (shared.act (.beginSend prompt images now)).2
        ((∃ ticket, answer = .begun ticket) ↔ shared.tickets = []) ∧
        (shared.tickets = [] →
          let id := shared.store.nextId
          answer = .begun ⟨⟨id⟩, ⟨id + 1⟩⟩ ∧ after.tickets = [⟨⟨id⟩, ⟨id + 1⟩⟩] ∧
            after.store =
              { messages := shared.store.messages ++
                  [⟨⟨id⟩, .user, prompt, [], images, false, now.prompt⟩,
                    ⟨⟨id + 1⟩, .assistant, "", [], [], false, now.answer⟩]
                loading := true
                nextId := id + 2
                version := shared.store.version + 1 }) ∧
        (shared.tickets ≠ [] →
          answer = .rejected .busy ∧ after.tickets = shared.tickets ∧
            after.store.messages = shared.store.messages ∧
            after.store.loading = shared.store.loading ∧
            after.store.nextId = shared.store.nextId ∧
            ∀ subscription : Subscription,
              subscription.isStale after.store = subscription.isStale shared.store) := by
  intro shared
  have exclusive : shared.Exclusive := (exclusive_ofMessages opened).run actions
  clear_value shared
  cases exclusive with
  | free idle =>
      refine ⟨by simp, by simp [idle], fun action => prefix_tickets_act _, ?_, ?_⟩
      · intro place dropped
        cases dropped
      · intro prompt images now
        simp [act, Store.beginSend_of_idle idle, Store.begun, Message.fresh]
  | taken busy =>
      refine ⟨by simp, by simp [busy], fun action => prefix_tickets_act _, ?_, ?_⟩
      · intro place dropped
        cases place with
        | zero => exact ⟨rfl, Store.loading_release _⟩
        | succ place => cases dropped
      · intro prompt images now
        simp [act, Store.beginSend_of_loading busy]

/-- Two sends begin while only one can. -/
theorem sends_exclusive_second_send :
    let shared := (ofStore Store.empty).run [.beginSend "Hi" [] default]
    Store.ofMessages? [] = some Store.empty ∧ shared.tickets.length ≤ 1 ∧
      (shared.act (.beginSend "Ho" [] default)).1 = .rejected .busy := by
  intro shared
  have opened : Store.ofMessages? [] = some Store.empty := rfl
  rcases sends_exclusive opened [.beginSend "Hi" [] default] with ⟨single, -, -, -, sends⟩
  rcases sends "Ho" [] default with ⟨-, -, rejected⟩
  have held : shared.tickets ≠ [] := by decide
  exact ⟨opened, single, (rejected held).1⟩

end SharedStore

end StreamingChat
