import StreamingChat.Conversation.Store
import StreamingChat.Event.Stream
import StreamingChat.Json.Value

/-!
# Sends

A send puts a prompt and an empty answer into the conversation and fills the answer in while the
response arrives. A `Send` is the state of one between two arrivals. Every step gives the effects
that it has, in order; they depend on the response alone and name no store, so that other changes to
the conversation may come between any two of them.
-/

namespace StreamingChat

/-- What is sent to the server. -/
structure ChatRequest where
  prompt : String
  userId : String
  deriving DecidableEq, Repr

/-- The body of a request. -/
def ChatRequest.body (request : ChatRequest) : String :=
  (Json.Value.object
    [("prompt", .string request.prompt), ("user_id", .string request.userId)]).compact

/-- Why a send fails after it has begun. -/
inductive SendFailure where
  /-- The server answered without a body to read. -/
  | noBody
  /-- The exchange with the server broke down. -/
  | http (detail : String)
  /-- The server refused the request. -/
  | status (code : Nat) (body : String)
  | io (reason : String)
  deriving DecidableEq, Repr

/-- The note that a failure leaves on the answer. -/
def SendFailure.note : SendFailure → String
  | .noBody => "No response body"
  | .http detail => s!"HTTP client error: {detail}"
  | .status code body => s!"Request failed with status {code}: {body}"
  | .io reason => s!"IO error: {reason}"

/-- How a response ends when nothing fails. -/
inductive ResponseEnd where
  /-- The line that ends the stream has come. -/
  | terminator
  /-- The body has ended without that line. -/
  | endOfBody
  deriving DecidableEq, Repr

/-- How an end is named in logs. -/
def ResponseEnd.name : ResponseEnd → String
  | .terminator => "Terminator"
  | .endOfBody => "EndOfBody"

/-- What became of a send. -/
inductive SendOutcome where
  /-- The prompt was blank. -/
  | ignored
  | completed (message : MessageId) (ending : ResponseEnd)
  | failed (message : MessageId) (note : String)
  deriving DecidableEq, Repr

/-- How important a log entry is. -/
inductive LogLevel where
  | info
  | warn
  deriving DecidableEq, Repr

/-- The name of a level. -/
def LogLevel.name : LogLevel → String
  | .info => "INFO"
  | .warn => "WARN"

/-- An entry of the log of the program. -/
structure LogEntry where
  level : LogLevel
  text : String
  deriving DecidableEq, Repr

/-- What a step of a send does to the world. -/
inductive Effect where
  /-- Applies an event to the answer. -/
  | apply (event : Event)
  /-- Records the failure of the send on the answer. -/
  | fail (note : String)
  | log (entry : LogEntry)
  /-- Gives up the ticket. -/
  | release
  deriving DecidableEq, Repr

/-- What an effect makes of a conversation, when `target` is the answer. -/
def Effect.perform (target : MessageId) (store : Store) : Effect → Store
  | .apply event => (store.applyEvent target event).2
  | .fail note => (store.markError target note).2
  | .log _ => store
  | .release => store.release

/-- The log entry of an effect, if it is one. -/
def Effect.entry? : Effect → Option LogEntry
  | .log entry => some entry
  | _ => none

/-- What effects make of a conversation, one after the other. -/
def Effect.performAll (target : MessageId) (store : Store) (effects : List Effect) : Store :=
  effects.foldl (Effect.perform target) store

/-- What arrives on an open response. -/
inductive Arrival where
  | chunk (bytes : List UInt8)
  | broken (failure : SendFailure)
  | ended
  deriving DecidableEq, Repr

/-- How far a send has come. -/
inductive SendPhase where
  /-- The server has not answered yet. -/
  | opening
  /-- The body is arriving. -/
  | streaming (stream : EventStream)
  | over (outcome : SendOutcome)
  deriving DecidableEq, Repr

/-- A send that has begun. -/
structure Send where
  /-- The message that receives the answer. -/
  target : MessageId
  /-- Whether a last line without a newline is read, too. -/
  flushes : Bool
  phase : SendPhase
  deriving DecidableEq, Repr

/-- The effects of readings up to the line that ends the stream, and whether it is among them. -/
def settle : List LineReading → List Effect × Bool
  | [] => ([], false)
  | .ignored :: rest => settle rest
  | .terminator :: _ => ([], true)
  | .parsed event :: rest =>
      let (effects, ended) := settle rest
      (.apply event :: effects, ended)
  | .skipped reason :: rest =>
      let (effects, ended) := settle rest
      (.log ⟨.warn, s!"Skipping stream event: {reason.message}"⟩ :: effects, ended)

namespace Send

/-- The prompt of a text: the text without the blank characters on both ends, if any is left. -/
def promptOf? (text : String) : Option String :=
  let trimmed := Text.trimString text
  if trimmed.isEmpty then none else some trimmed

/-- What became of a send, if it is over. -/
def outcome? (send : Send) : Option SendOutcome :=
  match send.phase with
  | .over outcome => some outcome
  | _ => none

/-- Ends a send that has come to an end of its response. -/
def complete (send : Send) (ending : ResponseEnd) : Send × List Effect :=
  ({ send with phase := .over (.completed send.target ending) },
    [.log ⟨.info, s!"Response {send.target.label} completed ({ending.name})"⟩, .release])

/-- Ends a send that has failed. -/
def fail (send : Send) (failure : SendFailure) : Send × List Effect :=
  let note := failure.note
  ({ send with phase := .over (.failed send.target note) },
    [.log ⟨.warn, s!"Response {send.target.label} failed: {note}"⟩, .fail note, .release])

/-- Puts effects in front of those of a step. -/
def after (effects : List Effect) (next : Send × List Effect) : Send × List Effect :=
  (next.1, effects ++ next.2)

/-- Takes in the answer of the server: a failure, or whether there is a body. -/
def answered (send : Send) (answer : Except SendFailure Bool) : Send × List Effect :=
  match send.phase with
  | .opening =>
      match answer with
      | .error failure => send.fail failure
      | .ok false => send.fail .noBody
      | .ok true => ({ send with phase := .streaming (EventStream.start send.flushes) }, [])
  | _ => (send, [])

/-- Takes in what arrives on the response. -/
def receive (send : Send) (arrival : Arrival) : Send × List Effect :=
  match send.phase with
  | .streaming stream =>
      match arrival with
      | .chunk bytes =>
          let (stream, readings) := stream.feed bytes
          let (effects, ended) := settle readings
          after effects
            (if ended then send.complete .terminator
            else ({ send with phase := .streaming stream }, []))
      | .broken failure => send.fail failure
      | .ended =>
          let (_, readings) := stream.finish
          let (effects, ended) := settle readings
          after effects (send.complete (if ended then .terminator else .endOfBody))
  | _ => (send, [])

/-- Takes in several arrivals. Nothing that comes after the end of a send has an effect. -/
def receiveAll (send : Send) : List Arrival → Send × List Effect
  | [] => (send, [])
  | arrival :: rest =>
      let (next, effects) := send.receive arrival
      after effects (next.receiveAll rest)

/-- The effects of giving a send up before it is over. -/
def abandon (send : Send) : List Effect :=
  match send.phase with
  | .over _ => []
  | _ => [.release]

end Send

/-- What comes of an attempt to send. -/
inductive SendAttempt where
  /-- The prompt was blank, and nothing was changed. -/
  | ignored
  | rejected (rejection : Rejection)
  /-- The messages of the send are in the conversation, and the request is to be sent. -/
  | begun (send : Send) (request : ChatRequest) (store : Store)
  deriving DecidableEq, Repr

/-- Who sends, and how. -/
structure Sender where
  userId : String
  /-- Whether a last line without a newline is read, too. -/
  flushes : Bool
  deriving DecidableEq, Repr

/-- Attempts to send a text. -/
def Sender.attempt (sender : Sender) (store : Store) (text : String) (images : List Image)
    (now : SendTimes) : SendAttempt :=
  match Send.promptOf? text with
  | none => .ignored
  | some prompt =>
      match store.beginSend prompt images now with
      | .error rejection => .rejected rejection
      | .ok (ticket, store) =>
          .begun ⟨ticket.assistantMessage, sender.flushes, .opening⟩ ⟨prompt, sender.userId⟩ store

end StreamingChat
