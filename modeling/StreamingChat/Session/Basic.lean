import StreamingChat.Conversation.Transcript
import StreamingChat.Send.Transmission
import StreamingChat.Settings.Basic
import StreamingChat.Terminal.Prompt
import StreamingChat.Terminal.Render

/-!
# Sessions

A session shows a conversation, asks for prompts, sends them one after the other, and keeps the
conversation in a file. It is a machine: its inputs are the lines that the user types and what
happens on the network, its outputs are the actions that the program takes, in order. An action
that fails ends the program. A session for a single prompt asks for none.
Main functions: `Session.step`, `Session.machine`.
-/

namespace StreamingChat

/-- How a session ends. -/
inductive Ending where
  | finished
  | trouble (trouble : Trouble)
  /-- The program cannot go on, and does not say why. -/
  | crashed
  deriving DecidableEq, Repr

/-- The exit code of the program. -/
def Ending.code : Ending → Nat
  | .finished => 0
  | .trouble _ => 1
  | .crashed => 101

/-- What the program tells about the end of a session. -/
def Ending.report : Ending → String
  | .trouble reason => reason.report
  | _ => ""

/-- What the program is to do. -/
inductive Action where
  /-- Writes bytes to the output. -/
  | show (bytes : List UInt8)
  /-- Tells the user something apart from the output. -/
  | complain (message : String)
  | log (entry : LogEntry)
  /-- Sends a request over a new connection. -/
  | connect (request : Http.Request)
  /-- Writes a text to a file. -/
  | save (path text : String)
  | finish (ending : Ending)
  deriving DecidableEq, Repr

/-- How the program ends when the conversation cannot be written to its file. -/
def Ending.ofSaveFailure (path : String) (failure : FileFailure) : Ending :=
  .trouble (Transcript.writeTrouble path failure)

/-- What a session waits for. -/
inductive SessionPhase where
  /-- The next line of input. -/
  | prompting
  /-- The server. -/
  | sending (transmission : Transmission)
  | over
  deriving Repr

/-- A session. -/
structure Session where
  sender : Sender
  endpoint : Url
  /-- How the server is reached. -/
  network : Http.Network
  /-- The path of the file that the conversation is kept in. -/
  transcript : Option String
  /-- Whether the session is over after one prompt. -/
  single : Bool
  store : Store
  terminal : Terminal
  /-- The images that go with the first prompt that is sent. -/
  images : List Image
  phase : SessionPhase
  deriving Repr

/-- What a session is told. -/
inductive SessionInput where
  /-- A line has been typed at a time, or the input has ended. -/
  | typed (line : Option (List UInt8)) (now : SendTimes)
  /-- Things have happened on the connection since the last rendering. -/
  | happened (events : List Http.NetworkEvent)

namespace Session

/-- Ends a session. -/
def finish (session : Session) (ending : Ending) : Session × List Action :=
  ({ session with phase := .over }, [.finish ending])

/-- Goes on after a step, unless the session is over. -/
def andThen (first : Session × List Action) (next : Session → Session × List Action) :
    Session × List Action :=
  match first.1.phase with
  | .over => first
  | _ =>
      let (session, actions) := next first.1
      (session, first.2 ++ actions)

/-- Shows what is new in the conversation. A message that cannot be continued is the end. -/
def render (session : Session) : Session × List Action :=
  let (result, terminal, output) :=
    session.terminal.render .unlimited session.store.toSnapshot
  let written : List Action :=
    if output.taken.isEmpty then [] else [.show output.taken.toList]
  let rendered := { session with terminal }
  match result with
  | .ok () => (rendered, written)
  | .error _ => ({ rendered with phase := .over }, written ++ [.finish .crashed])

/-- Writes the conversation to its file, if it has one. -/
def save (session : Session) : List Action :=
  match session.transcript with
  | some path => [.save path (Transcript.ofStore session.store).write]
  | none => []

/-- Asks for a prompt. -/
def ask (session : Session) : Session × List Action :=
  ({ session with phase := .prompting },
    [.show session.terminal.palette.promptMark.toUTF8.toList])

/-- How a session for a single prompt ends. -/
def endingOf : SendOutcome → Ending
  | .failed _ note => .trouble ⟨s!"Response failed: {note}", none⟩
  | _ => .finished

/-- Goes on after a send: shows and writes the conversation, and asks for the next prompt. -/
def conclude (session : Session) (outcome : SendOutcome) : Session × List Action :=
  andThen session.render fun session =>
    let (next, actions) := if session.single then session.finish (endingOf outcome) else session.ask
    (next, session.save ++ actions)

/-- Goes on after a send that could not begin. -/
def concludeRejected (session : Session) (rejection : Rejection) : Session × List Action :=
  andThen session.render fun session =>
    if session.single then session.finish (.trouble ⟨rejection.message, none⟩)
    else
      let (next, actions) := session.ask
      (next, .complain rejection.message :: session.save ++ actions)

/-- Takes in what has come of a step of a transmission. -/
def proceed (session : Session) (advance : Advance) : Session × List Action :=
  let send := advance.transmission.send
  let store := Effect.performAll send.target session.store advance.effects
  let entries := (advance.effects.filterMap Effect.entry?).map Action.log
  let requests := advance.requests.map Action.connect
  let next := { session with store, phase := .sending advance.transmission }
  let (session, actions) :=
    match send.outcome? with
    | some outcome => next.conclude outcome
    | none => next.render
  (session, entries ++ requests ++ actions)

/-- Sends a prompt, after the messages of the send have been shown. -/
def submit (session : Session) (text : String) (images : List Image) (now : SendTimes) :
    Session × List Action :=
  match session.sender.attempt session.store text images now with
  | .ignored => session.conclude .ignored
  | .rejected rejection => session.concludeRejected rejection
  | .begun send request store =>
      andThen { session with store }.render fun session =>
        session.proceed (Transmission.start send session.endpoint request session.network)

/-- Whether a prompt asks for the end of the session. -/
def isFarewell (prompt : String) : Bool :=
  prompt = "/quit" || prompt = "/exit"

/-- Takes in a prompt. The images go with the first one that is not empty. -/
def takePrompt (session : Session) (prompt : String) (now : SendTimes) :
    Session × List Action :=
  if isFarewell prompt then session.finish .finished
  else if prompt.isEmpty then session.submit prompt [] now
  else { session with images := [] }.submit prompt session.images now

/-- Takes in a line of input, or its end. -/
def takeLine (session : Session) (line : Option (List UInt8)) (now : SendTimes) :
    Session × List Action :=
  match line with
  | none => session.finish .finished
  | some line =>
      match Prompt.ofLine line with
      | .ok prompt => session.takePrompt prompt now
      | .error flaw => session.finish (.trouble (Prompt.flawTrouble flaw))

/-- Takes in an input. What the session does not wait for is of no effect. -/
def step (session : Session) (input : SessionInput) : Session × List Action :=
  match session.phase, input with
  | .prompting, .typed line now => session.takeLine line now
  | .sending transmission, .happened events => session.proceed (transmission.receiveAll events)
  | _, _ => (session, [])

/-- Sessions as machines. -/
def machine : Transducer Session SessionInput Action := ⟨step⟩

end Session

end StreamingChat
