/-!
# Events

The server answers a prompt with a stream of events. A token event carries a piece of the answer;
thinking and error events carry a line of the log beside it; events of other kinds change nothing.
-/

namespace StreamingChat

/-- What an event is about. -/
inductive EventKind where
  /-- A piece of the answer. -/
  | token
  /-- A note on the progress of the answer. -/
  | thinking
  /-- A failure that the server reports. It is shown in the log and does not fail the send. -/
  | error
  /-- A kind that this program does not know. -/
  | other (name : String)
  deriving DecidableEq, Repr

/-- The kind with a given name. -/
def EventKind.ofName (name : String) : EventKind :=
  if name = "token" then .token
  else if name = "thinking" then .thinking
  else if name = "error" then .error
  else .other name

/-- The name of a kind. -/
def EventKind.name : EventKind → String
  | .token => "token"
  | .thinking => "thinking"
  | .error => "error"
  | .other name => name

/-- Whether this program does not know the kind. -/
def EventKind.isOther : EventKind → Bool
  | .other _ => true
  | _ => false

theorem EventKind.name_ofName (name : String) : (EventKind.ofName name).name = name := by
  unfold ofName
  split
  · simp_all [EventKind.name]
  · split
    · simp_all [EventKind.name]
    · split <;> simp_all [EventKind.name]

/-- An event of a response. -/
structure Event where
  kind : EventKind
  content : String
  deriving DecidableEq, Repr

/-- A change to the message that receives the answer. -/
inductive Change where
  /-- Adds to the content. -/
  | content (piece : String)
  /-- Adds a line to the log. -/
  | log (entry : String)
  deriving DecidableEq, Repr

/-- The change that an event asks for. -/
def Event.change? (event : Event) : Option Change :=
  match event.kind with
  | .token => some (.content event.content)
  | .thinking => some (.log event.content)
  | .error => some (.log event.content)
  | .other _ => none

end StreamingChat
