import StreamingChat.Send.Transmission

/-!
# Replies and whole sends

A `Reply` is all that a server does about the request of a send. `Sender.send` is a whole send, from
the attempt to the end of the reply, on a conversation that nobody else changes meanwhile.
-/

namespace StreamingChat

/-- What a server does about a request. -/
inductive Reply where
  /-- The response cannot be opened. -/
  | failed (failure : SendFailure)
  /-- The response has no body. -/
  | noBody
  /-- A body arrives in chunks, up to its end or to the failure that cuts it off. -/
  | body (chunks : List (List UInt8)) (cut : Option SendFailure)
  deriving DecidableEq, Repr

namespace Reply

/-- What arrives after the chunks of a body. -/
def lastArrival : Option SendFailure → Arrival
  | some failure => .broken failure
  | none => .ended

/-- What the send that waits for a reply is told, in order. -/
def reports : Reply → List Http.Report
  | .failed failure => [.answered (.error failure)]
  | .noBody => [.answered (.ok false)]
  | .body chunks cut =>
      .answered (.ok true) ::
        (chunks.map fun chunk => .arrived (.chunk chunk)) ++ [.arrived (lastArrival cut)]

end Reply

/-- What comes of a call to send. -/
structure SendResult where
  /-- What the caller is told, once the send is over. -/
  answer : Option (Except Rejection SendOutcome)
  store : Store
  /-- The requests that are made. -/
  requests : List ChatRequest
  log : List LogEntry

/-- Sends a text, and takes in the whole reply. -/
def Sender.send (sender : Sender) (store : Store) (text : String) (images : List Image)
    (now : SendTimes) (reply : Reply) : SendResult :=
  match sender.attempt store text images now with
  | .ignored => ⟨some (.ok .ignored), store, [], []⟩
  | .rejected rejection => ⟨some (.error rejection), store, [], []⟩
  | .begun send request store =>
      let (final, effects) := send.takeInAll reply.reports
      { answer := final.outcome?.map .ok
        store := Effect.performAll send.target store effects
        requests := [request]
        log := effects.filterMap Effect.entry? }

end StreamingChat
