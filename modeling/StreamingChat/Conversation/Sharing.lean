import StreamingChat.Conversation.Store

/-!
# Shared conversations

A conversation is shared by everyone who holds it. Whoever acts on it acts on the one store, one
step after the other, so that what any number of holders do is a list of actions in the order of
their steps. A `SharedStore` is the store together with the tickets that are held at present. A
ticket cannot be copied; it is held from the beginning of its send until it is given up.
-/

namespace StreamingChat

/-- What a holder of a conversation does. -/
inductive StoreAction where
  | appendMessage (role : Role) (content : String) (images : List Image) (now : Time.Timestamp)
  | appendContent (id : MessageId) (piece : String)
  | appendLog (id : MessageId) (entry : String)
  | markError (id : MessageId) (note : String)
  | beginSend (prompt : String) (images : List Image) (now : SendTimes)
  /-- Gives up the ticket at a place among those that are held. -/
  | dropTicket (place : Nat)
  deriving DecidableEq, Repr

/-- What the holder who acts is told. -/
inductive StoreAnswer where
  /-- A message with this number has been added. -/
  | appended (id : MessageId)
  /-- Whether there was a message to be changed. -/
  | changed (applied : Bool)
  | begun (ticket : Ticket)
  | rejected (rejection : Rejection)
  /-- Whether there was a ticket to be given up. -/
  | dropped (held : Bool)
  deriving DecidableEq, Repr

/-- A conversation and the tickets that are held. -/
structure SharedStore where
  store : Store
  tickets : List Ticket
  deriving DecidableEq, Repr

namespace SharedStore

/-- A conversation of which no send is active. -/
def ofStore (store : Store) : SharedStore := ⟨store, []⟩

/-- Replaces the store, and keeps the tickets. -/
def withStore (shared : SharedStore) (store : Store) : SharedStore := { shared with store }

/-- What comes of an action. -/
def act (shared : SharedStore) : StoreAction → StoreAnswer × SharedStore
  | .appendMessage role content images now =>
      let (id, store) := shared.store.appendMessage role content images now
      (.appended id, shared.withStore store)
  | .appendContent id piece =>
      let (applied, store) := shared.store.appendContent id piece
      (.changed applied, shared.withStore store)
  | .appendLog id entry =>
      let (applied, store) := shared.store.appendLog id entry
      (.changed applied, shared.withStore store)
  | .markError id note =>
      let (applied, store) := shared.store.markError id note
      (.changed applied, shared.withStore store)
  | .beginSend prompt images now =>
      match shared.store.beginSend prompt images now with
      | .ok (ticket, store) => (.begun ticket, ⟨store, shared.tickets ++ [ticket]⟩)
      | .error rejection => (.rejected rejection, shared)
  | .dropTicket place =>
      match shared.tickets[place]? with
      | some _ => (.dropped true, ⟨shared.store.release, shared.tickets.eraseIdx place⟩)
      | none => (.dropped false, shared)

/-- The conversation after several actions. -/
def run (shared : SharedStore) (actions : List StoreAction) : SharedStore :=
  actions.foldl (fun shared action => (shared.act action).2) shared

/-- What the holders are told, one after the other. -/
def answers (shared : SharedStore) : List StoreAction → List StoreAnswer
  | [] => []
  | action :: rest =>
      let (answer, next) := shared.act action
      answer :: next.answers rest

/-- The conversations that come about while there are numbers left: the counter of no step has
wrapped round. -/
inductive Reachable : SharedStore → Prop where
  | opened {messages : List Message} {store : Store}
      (opened : Store.ofMessages? messages = some store) : Reachable (ofStore store)
  | acted {shared : SharedStore} (before : Reachable shared) (action : StoreAction)
      (counted : shared.store.nextId ≤ (shared.act action).2.store.nextId) :
      Reachable (shared.act action).2

end SharedStore

end StreamingChat
