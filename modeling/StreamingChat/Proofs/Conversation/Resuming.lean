import StreamingChat.Proofs.Conversation.Dates
import StreamingChat.Proofs.Conversation.Loading

/-!
# Resuming a saved conversation

The counter of a conversation is not saved. It is resumed from the messages, and that gives the
counter that was there, because every step keeps it at the least number above those of all messages.
What else is not saved makes no difference to anyone who acts on the conversation: no answer and no
message depends on the version or on the times of messages. The flag of a send that was under way is
down after resuming.
-/

namespace StreamingChat

/-- The conversation that a saved one is resumed as. -/
def Store.resumed (store : Store) : Store :=
  { store with loading := false, version := 0 }

theorem Store.CounterTight.ofMessages? {store : Store} (tight : store.CounterTight) :
    Store.ofMessages? store.messages = some store.resumed := by
  have room : Store.firstFreeId store.messages < UInt64.size := tight ▸ store.nextId.toNat_lt
  have counter : UInt64.ofNat (Store.firstFreeId store.messages) = store.nextId := by
    rw [← tight, UInt64.ofNat_toNat]
  rw [Store.ofMessages?, if_pos room, counter, Store.resumed]

/-- The bytes that save a conversation are read as the conversation to be resumed. -/
theorem Transcript.load_ofStore {store : Store} (tight : store.CounterTight) (path : String) :
    load path (.content (ofStore store).write.toUTF8.toList) = .ok store.resumed := by
  have messages : Store.ofMessages? (ofStore store).messages = some store.resumed :=
    tight.ofMessages?
  rw [load_of_read path (FileState.text_content _) (read_write _), messages]

namespace SharedStore

variable {shared : SharedStore}

theorem outline_resumed (exclusive : shared.Exclusive) (free : shared.tickets = [])
    (time : Time.Timestamp) :
    (ofStore shared.store.resumed).outline time = shared.outline time := by
  have idle := exclusive.tickets_eq_nil_iff.mp free
  simp [outline, ofStore, Store.resumed, Store.dated, idle, free]

/-- The messages that were there keep their times, whatever is done to them. -/
theorem map_createdAt_take_run (shared : SharedStore) (actions : List StoreAction) :
    ((shared.run actions).store.messages.take shared.store.messages.length).map
      Message.createdAt = shared.store.messages.map Message.createdAt := by
  have kept := List.prefix_iff_eq_take.mp (createdAt_run shared actions)
  rw [List.length_map] at kept
  rw [List.map_take, ← kept]

/-- A saved conversation is resumed with its messages and without a send. If none was under way when
it was saved, nobody who acts on it can tell the resumed conversation from the saved one, except by
the times of new messages. -/
theorem resumed_alike (reachable : shared.Reachable) (path : String) (time : Time.Timestamp) :
    let file := FileState.content (Transcript.ofStore shared.store).write.toUTF8.toList
    ∃ resumed, Transcript.load path file = .ok resumed ∧
      resumed.messages = shared.store.messages ∧ resumed.loading = false ∧
      (ofStore resumed).Reachable ∧
      (shared.tickets = [] → ∀ later again : List StoreAction,
        again.map (StoreAction.dated time) = later.map (StoreAction.dated time) →
          (ofStore resumed).answers again = shared.answers later ∧
            let there := (shared.run later).store
            let here := ((ofStore resumed).run again).store
            here.loading = there.loading ∧ here.nextId = there.nextId ∧
              here.messages.map (Message.dated time) = there.messages.map (Message.dated time) ∧
              here.messages.take shared.store.messages.length =
                there.messages.take shared.store.messages.length) := by
  intro file
  have tight := reachable.counterTight
  refine ⟨shared.store.resumed, Transcript.load_ofStore tight path, rfl, rfl,
    .opened tight.ofMessages?, ?_⟩
  intro free later again actions
  have same := outline_resumed reachable.exclusive free time
  rcases run_of_outline time same actions with ⟨answers, outline⟩
  have loading := congrArg (fun shared : SharedStore => shared.store.loading) outline
  have nextId := congrArg (fun shared : SharedStore => shared.store.nextId) outline
  have messages : ((ofStore shared.store.resumed).run again).store.messages.map
      (Message.dated time) = (shared.run later).store.messages.map (Message.dated time) :=
    congrArg (fun shared : SharedStore => shared.store.messages) outline
  refine ⟨answers, loading, nextId, messages, ?_⟩
  refine Message.eq_of_dated time ?_ ?_
  · rw [List.map_take, List.map_take, messages]
  · rw [map_createdAt_take_run shared later]
    exact map_createdAt_take_run (ofStore shared.store.resumed) again

/-- A conversation is saved after a send, and somebody adds to it and sends again. -/
theorem resumed_alike_after_send :
    let shared := (ofStore Store.empty).run [.beginSend "Hi" [] default, .dropTicket 0]
    let later : List StoreAction := [.appendContent ⟨2⟩ "Ho", .beginSend "Hm" [] default]
    shared.Reachable ∧ shared.tickets = [] ∧
      ∃ resumed,
        Transcript.load "chat.json"
          (.content (Transcript.ofStore shared.store).write.toUTF8.toList) = .ok resumed ∧
        (ofStore resumed).answers later = [.changed true, .begun ⟨⟨3⟩, ⟨4⟩⟩] := by
  intro shared later
  have opened : (ofStore Store.empty).Reachable :=
    .opened (show Store.ofMessages? [] = some Store.empty from rfl)
  have begun := opened.acted (.beginSend "Hi" [] default) (by decide)
  have reachable : shared.Reachable := begun.acted (.dropTicket 0) (by decide)
  have free : shared.tickets = [] := by decide
  rcases resumed_alike reachable "chat.json" default with ⟨resumed, loaded, -, -, -, alike⟩
  have answers := (alike free later later rfl).1
  exact ⟨reachable, free, resumed, loaded, answers.trans (by decide)⟩

end SharedStore

end StreamingChat
