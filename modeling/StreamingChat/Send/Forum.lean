import StreamingChat.Send.Company

/-!
# Forums

A forum is a conversation with everyone who has to do with it. Holders act on it and may have
tickets. Any number of sends may be attempted; those that have begun fill in their answers, effect by
effect, and the effects depend on what the server says alone. Readers look at the conversation and
want to know whether they have missed a change.

Everything that happens is a step of somebody, and what a step asks of the conversation is done at
once. So the runs of a forum are the lists of steps, with the effects of several sends, the actions
of holders and the looks of readers in any order.
-/

namespace StreamingChat

/-- A send that has begun. -/
structure PendingSend where
  /-- The message that receives the answer. -/
  target : MessageId
  /-- The effects that are still to come. -/
  due : List Effect
  deriving DecidableEq, Repr

/-- Somebody who follows a conversation. -/
structure Reader where
  subscription : Subscription
  /-- The conversation as the reader has last seen it. -/
  view : Snapshot
  deriving DecidableEq, Repr

namespace Reader

/-- A reader that has seen the present state. -/
def ofStore (store : Store) : Reader := ⟨.ofStore store, store.toSnapshot⟩

/-- Looks at the present state, without a note that it has been seen. -/
def glance (store : Store) (reader : Reader) : Reader :=
  { reader with view := store.toSnapshot }

/-- Whether a reader is told that there has been a change. -/
def isStale (reader : Reader) (store : Store) : Bool :=
  reader.subscription.isStale store

end Reader

/-- A conversation and everyone who has to do with it. -/
structure Forum where
  /-- The conversation, and the tickets of its holders. -/
  shared : SharedStore
  sends : List PendingSend
  readers : List Reader
  deriving DecidableEq, Repr

/-- What happens in a forum. -/
inductive ForumStep where
  /-- A holder of the conversation acts. -/
  | act (action : StoreAction)
  /-- Somebody attempts to send a text. A send that begins is told these reports, and is then given
  up unless it is over. -/
  | send (sender : Sender) (text : String) (images : List Image) (now : SendTimes)
      (reports : List Http.Report)
  /-- The next effect of the send at a place comes about. -/
  | proceed (place : Nat)
  /-- A reader joins. -/
  | subscribe
  /-- The reader at a place reads and takes note, or is told of a change that it has waited for. -/
  | look (place : Nat)
  /-- The reader at a place reads without taking note. -/
  | glance (place : Nat)

/-- Whether a step is one of a reader. -/
def ForumStep.isReading : ForumStep → Bool
  | .subscribe => true
  | .look _ => true
  | .glance _ => true
  | _ => false

/-- What the conversation answers to an effect, if the effect asks anything of it. -/
def Effect.answer? (target : MessageId) (store : Store) : Effect → Option StoreAnswer
  | .apply event => some (.changed (store.applyEvent target event).1)
  | .fail note => some (.changed (store.markError target note).1)
  | .log _ => none
  | .release => some (.dropped true)

namespace Forum

/-- A conversation with which nobody has to do yet. -/
def ofStore (store : Store) : Forum := ⟨.ofStore store, [], []⟩

/-- The conversation. -/
def store (forum : Forum) : Store := forum.shared.store

/-- Replaces the conversation and the sends that are under way on it. -/
def moveOn (forum : Forum) (store : Store) (sends : List PendingSend) : Forum :=
  { forum with shared := forum.shared.withStore store, sends }

@[simp]
theorem store_moveOn (forum : Forum) (store : Store) (sends : List PendingSend) :
    (forum.moveOn store sends).store = store :=
  rfl

/-- Takes a step. The answer is that of the conversation, if anything is asked of it. -/
def take (forum : Forum) : ForumStep → Option StoreAnswer × Forum
  | .act action =>
      let (answer, shared) := forum.shared.act action
      (some answer, { forum with shared })
  | .send sender text images now reports =>
      match sender.attempt forum.store text images now with
      | .ignored => (none, forum)
      | .rejected rejection => (some (.rejected rejection), forum)
      | .begun send _ store =>
          -- The send keeps its ticket. Its prompt has the number at which the counter has stood.
          (some (.begun ⟨⟨forum.store.nextId⟩, send.target⟩),
            forum.moveOn store (forum.sends ++ [⟨send.target, send.course reports⟩]))
  | .proceed place =>
      match forum.sends[place]? with
      | some ⟨target, effect :: due⟩ =>
          (effect.answer? target forum.store,
            forum.moveOn (effect.perform target forum.store)
              (forum.sends.set place ⟨target, due⟩))
      | _ => (none, forum)
  | .subscribe => (none, { forum with readers := forum.readers ++ [.ofStore forum.store] })
  | .look place =>
      (none, { forum with readers := forum.readers.set place (.ofStore forum.store) })
  | .glance place =>
      (none, { forum with readers := forum.readers.modify place (Reader.glance forum.store) })

/-- The forum after several steps. -/
def run (forum : Forum) (steps : List ForumStep) : Forum :=
  steps.foldl (fun forum step => (forum.take step).2) forum

end Forum

end StreamingChat
