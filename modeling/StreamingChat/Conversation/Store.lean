import StreamingChat.Conversation.Message
import StreamingChat.Event.Basic

/-!
# The conversation store

A `Store` holds the messages of a conversation, whether a send is active, and the number of the next
message. Each operation is one step: a reader sees the state before it or after it. The version
counts the steps that had an effect, by which a subscriber knows whether it has missed one.
-/

namespace StreamingChat

/-- What a reader of a conversation sees at one point in time. -/
structure Snapshot where
  messages : List Message
  /-- Whether a send is active, so that no other one can begin. -/
  loading : Bool
  deriving DecidableEq, Repr

/-- The first message with a number. -/
def Snapshot.message? (snapshot : Snapshot) (id : MessageId) : Option Message :=
  snapshot.messages.find? fun message => message.id = id

/-- The last message. -/
def Snapshot.last? (snapshot : Snapshot) : Option Message :=
  snapshot.messages.getLast?

/-- A conversation. -/
structure Store extends Snapshot where
  /-- The number of the next message. -/
  nextId : UInt64
  /-- How many steps had an effect. -/
  version : Nat
  deriving DecidableEq, Repr

/-- The right to fill in the answer of a send. Giving it up ends the send. -/
structure Ticket where
  userMessage : MessageId
  assistantMessage : MessageId
  deriving DecidableEq, Repr

/-- When the two messages of a send are made. The clock is read for each of them. -/
structure SendTimes where
  prompt : Time.Timestamp
  answer : Time.Timestamp
  deriving DecidableEq, Repr, Inhabited

/-- The times of two messages that are made at once. -/
instance : Coe Time.Timestamp SendTimes := ⟨fun now => ⟨now, now⟩⟩

/-- Why a send does not begin. -/
inductive Rejection where
  /-- Another send is active. -/
  | busy
  deriving DecidableEq, Repr

/-- How a rejection is told. -/
def Rejection.message : Rejection → String
  | .busy => "A response is still streaming"

namespace Store

/-- A conversation without messages. -/
def empty : Store := ⟨⟨[], false⟩, 1, 0⟩

/-- The least number above those of all messages, or one when there is none. -/
def firstFreeId (messages : List Message) : Nat :=
  messages.foldl (fun bound message => max bound (message.id.value.toNat + 1)) 1

/-- Resumes a conversation. There is none when no number lies above those of its messages. -/
def ofMessages? (messages : List Message) : Option Store :=
  if firstFreeId messages < UInt64.size then
    some ⟨⟨messages, false⟩, UInt64.ofNat (firstFreeId messages), 0⟩
  else none

/-- Adds a message at the end. -/
def push (store : Store) (role : Role) (content : String) (images : List Image)
    (now : Time.Timestamp) : MessageId × Store :=
  let id : MessageId := ⟨store.nextId⟩
  (id,
    { store with
      messages := store.messages ++ [Message.fresh id role content images now]
      nextId := store.nextId + 1 })

/-- Adds a message at the end, as a step of its own. -/
def appendMessage (store : Store) (role : Role) (content : String) (images : List Image)
    (now : Time.Timestamp) : MessageId × Store :=
  let (id, grown) := store.push role content images now
  (id, { grown with version := store.version + 1 })

/-- Changes the first message with a number, if there is one. -/
def changeFirst (id : MessageId) (change : Message → Message) :
    List Message → Option (List Message)
  | [] => none
  | message :: rest =>
      if message.id = id then some (change message :: rest)
      else (changeFirst id change rest).map (message :: ·)

/-- Changes the message with a number. Without such a message nothing happens. -/
def update (store : Store) (id : MessageId) (change : Message → Message) : Bool × Store :=
  match changeFirst id change store.messages with
  | some messages => (true, { store with messages, version := store.version + 1 })
  | none => (false, store)

/-- Adds to the content of a message. -/
def appendContent (store : Store) (id : MessageId) (piece : String) : Bool × Store :=
  store.update id fun message => message.appendContent piece

/-- Adds a line to the log of a message. -/
def appendLog (store : Store) (id : MessageId) (entry : String) : Bool × Store :=
  store.update id fun message => message.appendLog entry

/-- Records a failure on a message. -/
def markError (store : Store) (id : MessageId) (note : String) : Bool × Store :=
  store.update id fun message => message.markError note

/-- Applies an event to a message. Events of other kinds change nothing. -/
def applyEvent (store : Store) (id : MessageId) (event : Event) : Bool × Store :=
  match event.change? with
  | some (.content piece) => store.appendContent id piece
  | some (.log entry) => store.appendLog id entry
  | none => (false, store)

/-- Begins a send: adds the message of the user and an empty one for the answer, and raises the
loading flag, in one step. -/
def beginSend (store : Store) (prompt : String) (images : List Image) (now : SendTimes) :
    Except Rejection (Ticket × Store) :=
  if store.loading then .error .busy
  else
    let (userMessage, store) := store.push .user prompt images now.prompt
    let (assistantMessage, store) := store.push .assistant "" [] now.answer
    .ok (⟨userMessage, assistantMessage⟩,
      { store with loading := true, version := store.version + 1 })

/-- Gives up a ticket: lowers the loading flag, whoever has raised it. -/
def release (store : Store) : Store :=
  if store.loading then { store with loading := false, version := store.version + 1 } else store

end Store

/-- A reader that wants to know of changes: the version that it has seen. -/
structure Subscription where
  seen : Nat
  deriving DecidableEq, Repr

namespace Subscription

/-- A subscription that has seen the present state. -/
def ofStore (store : Store) : Subscription := ⟨store.version⟩

/-- Whether the state has changed since it was last seen. -/
def isStale (subscription : Subscription) (store : Store) : Bool :=
  subscription.seen ≠ store.version

end Subscription

end StreamingChat
