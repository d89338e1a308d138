import StreamingChat.Conversation.Sharing
import StreamingChat.Send.Transmission

/-!
# A send in company

While a send is under way, whoever else holds the conversation acts on it, too. Every effect of the
send is one step on the conversation, and so is every action of another holder, so that what happens
is a list of turns. The caller may give the send up wherever it waits: for the answer of the server,
and for each arrival on the response.
-/

namespace StreamingChat

/-- The effects of a send that takes in some reports, and is then given up unless it is over. -/
def Send.course (send : Send) (reports : List Http.Report) : List Effect :=
  let (final, effects) := send.takeInAll reports
  effects ++ final.abandon

/-- A step on a conversation while a send is under way. -/
inductive Turn where
  /-- An effect of the send. -/
  | own (effect : Effect)
  /-- What another holder of the conversation does. -/
  | other (action : StoreAction)
  deriving DecidableEq, Repr

namespace Turn

/-- The effect of the send, if the turn is its own. -/
def effect? : Turn → Option Effect
  | .own effect => some effect
  | .other _ => none

/-- What another holder does, if the turn is theirs. -/
def action? : Turn → Option StoreAction
  | .own _ => none
  | .other action => some action

/-- Takes a turn. The tickets are those of the other holders; they are told what comes of their
actions. -/
def take (target : MessageId) (shared : SharedStore) : Turn → SharedStore × List StoreAnswer
  | .own effect => (shared.withStore (effect.perform target shared.store), [])
  | .other action =>
      let (answer, shared) := shared.act action
      (shared, [answer])

/-- Turns one after the other, while the send fills in `target`. -/
def machine (target : MessageId) : Transducer SharedStore Turn StoreAnswer := ⟨take target⟩

end Turn

end StreamingChat
