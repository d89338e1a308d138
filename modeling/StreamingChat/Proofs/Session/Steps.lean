import StreamingChat.Proofs.Conversation.Unique
import StreamingChat.Proofs.Send.Transmission
import StreamingChat.Proofs.Terminal.Rendering
import StreamingChat.Session.Basic

/-!
# Steps of a session

Between two inputs a terminal may lag behind the conversation, but what it has seen has only grown
since. That is all that a session needs to be able to go on: its renderings never fail, and they do
nothing but show. From the first request of a send on, a session takes in the reports of the
exchange until the send is over, and what is done meanwhile is to connect; then it keeps the
conversation and waits for the next line. What happens on the network later is of no effect.
-/

namespace StreamingChat

open Message

namespace Action

/-- Whether an action does more than to show or to log something. -/
def isDeed : Action → Bool
  | .show _ => false
  | .log _ => false
  | _ => true

def deeds (actions : List Action) : List Action :=
  actions.filter isDeed

@[simp]
theorem deeds_append (first second : List Action) :
    deeds (first ++ second) = deeds first ++ deeds second := by
  simp [deeds]

@[simp]
theorem deeds_log (entries : List LogEntry) : deeds (entries.map .log) = [] := by
  simp [deeds, isDeed]

@[simp]
theorem deeds_connect (requests : List Http.Request) :
    deeds (requests.map .connect) = requests.map .connect := by
  simp [deeds, isDeed]

end Action

open StreamingChat.Action

/-! ## Renderings -/

/-- Whether a terminal has seen a state that some messages have come of. -/
structure Terminal.Follows (terminal : Terminal) (messages : List Message) : Prop where
  unique : (messages.map Message.id).Nodup
  seen : ∃ seen, terminal.Remembers (named seen) ∧ Grown seen messages

namespace Terminal.Follows

variable {terminal : Terminal} {messages later : List Message}

theorem of_remembers (remembers : terminal.Remembers (named messages))
    (unique : (messages.map Message.id).Nodup) : terminal.Follows messages :=
  ⟨unique, messages, remembers, .refl messages⟩

theorem grown (follows : terminal.Follows messages) (grown : Grown messages later)
    (unique : (later.map Message.id).Nodup) : terminal.Follows later := by
  rcases follows.seen with ⟨seen, remembers, before⟩
  exact ⟨unique, seen, remembers, before.trans grown⟩

end Terminal.Follows

namespace Session

variable {session : Session}

/-- A rendering shows what is new, and does nothing else. -/
theorem render_of_follows (follows : session.terminal.Follows session.store.messages) :
    ∃ terminal, session.render.1 = { session with terminal } ∧ deeds session.render.2 = [] ∧
      terminal.Follows session.store.messages := by
  rcases follows.seen with ⟨seen, remembers, grown⟩
  have grownNow : Grown seen session.store.toSnapshot.messages := grown
  rcases Terminal.render_of_grown remembers grownNow follows.unique #[] with
    ⟨rendered, remembersNow, -, -⟩
  refine ⟨(session.terminal.display session.store.toSnapshot).1, ?_, ?_,
    .of_remembers remembersNow follows.unique⟩
  · rw [render, Output.unlimited, rendered]
  · rw [render, Output.unlimited, rendered]
    dsimp only
    split <;> rfl

theorem andThen_render (follows : session.terminal.Follows session.store.messages)
    (goesOn : session.phase ≠ .over) :
    ∃ terminal, terminal.Follows session.store.messages ∧
      ∀ next, (andThen session.render next).1 = (next { session with terminal }).1 ∧
        deeds (andThen session.render next).2 = deeds (next { session with terminal }).2 := by
  rcases render_of_follows follows with ⟨terminal, rendered, shown, followsNow⟩
  refine ⟨terminal, followsNow, ?_⟩
  intro next
  rw [andThen, rendered]
  cases stands : session.phase with
  | «over» => exact absurd stands goesOn
  | prompting => simp [shown]
  | sending transmission => simp [shown]

theorem deeds_save (session : Session) : deeds session.save = session.save := by
  rw [save]
  split <;> rfl

/-- After a send that is over, the conversation is kept and the next line is waited for. -/
theorem conclude_of_follows (follows : session.terminal.Follows session.store.messages)
    (goesOn : session.phase ≠ .over) (several : session.single = false) (outcome : SendOutcome) :
    ∃ terminal, (session.conclude outcome).1 = { session with terminal, phase := .prompting } ∧
      deeds (session.conclude outcome).2 = session.save ∧
      terminal.Follows session.store.messages := by
  rcases andThen_render follows goesOn with ⟨terminal, followsNow, rest⟩
  refine ⟨terminal, ?_, ?_, followsNow⟩
  · rw [conclude, (rest _).1]
    simp [several, ask]
  · rw [conclude, (rest _).2]
    simp only [several, Bool.false_eq_true, if_false, ask, deeds_append, deeds_save]
    exact List.append_nil _

variable {advance : Advance}

def storeAfter (session : Session) (advance : Advance) : Store :=
  Effect.performAll advance.transmission.send.target session.store advance.effects

theorem follows_storeAfter (follows : session.terminal.Follows session.store.messages) :
    session.terminal.Follows (session.storeAfter advance).messages := by
  have amended := Effect.amended_performAll advance.transmission.send.target session.store
    advance.effects
  refine follows.grown amended.grown ?_
  rw [storeAfter, amended.ids]
  exact follows.unique

/-- The step that ends a send leads back to the prompt. -/
theorem proceed_of_over (follows : session.terminal.Follows session.store.messages)
    (several : session.single = false) {outcome : SendOutcome}
    (isOver : advance.transmission.send.outcome? = some outcome) :
    let store := session.storeAfter advance
    ∃ terminal, (session.proceed advance).1 =
        { session with store, terminal, phase := .prompting } ∧
      deeds (session.proceed advance).2 =
        advance.requests.map .connect ++ ({ session with store } : Session).save ∧
      terminal.Follows store.messages := by
  intro store
  let next : Session := { session with store, phase := .sending advance.transmission }
  have goesOn : next.phase ≠ .over := by simp [next]
  have followsNext : next.terminal.Follows next.store.messages := follows_storeAfter follows
  rcases conclude_of_follows followsNext goesOn several outcome with
    ⟨terminal, concluded, kept, followsNow⟩
  have proceeded : session.proceed advance = ((next.conclude outcome).1,
      (advance.effects.filterMap Effect.entry?).map .log ++ advance.requests.map .connect ++
        (next.conclude outcome).2) := by
    simp only [proceed, isOver]
    rfl
  refine ⟨terminal, ?_, ?_, followsNow⟩
  · rw [proceeded, concluded]
  · rw [proceeded, deeds_append, deeds_append, deeds_log, deeds_connect, kept]
    rfl

/-- As long as a send is not over, its session waits for the server. -/
theorem proceed_of_unfinished (follows : session.terminal.Follows session.store.messages)
    (unfinished : advance.transmission.send.outcome? = none) :
    let store := session.storeAfter advance
    ∃ terminal, (session.proceed advance).1 =
        { session with store, terminal, phase := .sending advance.transmission } ∧
      deeds (session.proceed advance).2 = advance.requests.map .connect ∧
      terminal.Follows store.messages := by
  intro store
  let next : Session := { session with store, phase := .sending advance.transmission }
  have followsNext : next.terminal.Follows next.store.messages := follows_storeAfter follows
  rcases render_of_follows followsNext with ⟨terminal, rendered, shown, followsNow⟩
  have proceeded : session.proceed advance = (next.render.1,
      (advance.effects.filterMap Effect.entry?).map .log ++ advance.requests.map .connect ++
        next.render.2) := by
    simp only [proceed, unfinished]
    rfl
  refine ⟨terminal, ?_, ?_, followsNow⟩
  · rw [proceeded, rendered]
  · rw [proceeded, deeds_append, deeds_append, deeds_log, deeds_connect, shown]
    simp

/-! ## Whole transmissions -/

theorem run_happened_of_prompting (waits : session.phase = .prompting)
    (batches : List (List Http.NetworkEvent)) :
    machine.run session (batches.map .happened) = (session, []) := by
  induction batches with
  | nil => simp
  | cons events rest ih =>
      have ignored : machine.step session (.happened events) = (session, []) := by
        simp only [machine, step, waits]
      rw [List.map_cons, Transducer.run_cons, ignored, ih]
      rfl

/-- What a session has come to that has been told all of a send: the send has had its effects, its
requests have been made, the conversation has been kept, and the next line is waited for. -/
def Transmitted (session : Session) (send : Send) (told : List Http.Report)
    (result : Session × List Action) : Prop :=
  let store := Effect.performAll send.target session.store (send.takeInAll told).2
  ∃ terminal, result.1 = { session with store, terminal, phase := .prompting } ∧
    deeds result.2 = (told.filterMap Http.Report.request?).map .connect ++
      ({ session with store } : Session).save ∧
    terminal.Follows store.messages

/-- What happens from some reports on, and in several batches after them. -/
def transmit (session : Session) (send : Send) (first : Http.Exchange × List Http.Report)
    (batches : List (List Http.NetworkEvent)) : Session × List Action :=
  let started := session.proceed (Transmission.advance send first)
  let later := machine.run started.1 (batches.map .happened)
  (later.1, started.2 ++ later.2)

variable {send : Send} {stage : Http.Stage} {first : Http.Exchange × List Http.Report}

theorem storeAfter_advance (session : Session) (send : Send)
    (first : Http.Exchange × List Http.Report) :
    session.storeAfter (Transmission.advance send first) =
      Effect.performAll send.target session.store (send.takeInAll first.2).2 := by
  rw [← Send.target_takeInAll send first.2]
  rfl

theorem transmit_cons {waiting : Session} {sending : Send} {exchange : Http.Exchange}
    (sent : (session.proceed (Transmission.advance send first)).1 = waiting)
    (waits : waiting.phase = .sending ⟨sending, exchange⟩) (events : List Http.NetworkEvent)
    (rest : List (List Http.NetworkEvent)) :
    let later := waiting.transmit sending (exchange.receiveAll events) rest
    session.transmit send first (events :: rest) =
      (later.1, (session.proceed (Transmission.advance send first)).2 ++ later.2) := by
  intro later
  have received : machine.step waiting (.happened events) =
      waiting.proceed (Transmission.advance sending (exchange.receiveAll events)) := by
    rw [← Transmission.receiveAll_eq]
    simp only [machine, step, waits]
  rw [transmit, sent, List.map_cons, Transducer.run_cons, received]
  rfl

/-- When reports have ended a send, what happens later is of no effect. -/
theorem transmitted_of_over (leads : Http.Exchange.Leads stage first)
    (follows : session.terminal.Follows session.store.messages) (several : session.single = false)
    (unfinished : send.outcome? = none) {outcome : SendOutcome}
    (isOver : (send.takeInAll first.2).1.outcome? = some outcome)
    (batches : List (List Http.NetworkEvent)) :
    Transmitted session send (first.2 ++ (Http.Exchange.machine.run first.1 batches).2)
      (session.transmit send first batches) := by
  have noRequest := Send.requests_eq_nil_of_over unfinished leads
    (Http.Exchange.goesOn_run_machine first.1 batches).leads isOver
  have taken := Send.takeInAll_append send first.2 (Http.Exchange.machine.run first.1 batches).2
  rw [Send.takeInAll_of_outcome? isOver, Send.after, List.append_nil] at taken
  have ended : (Transmission.advance send first).transmission.send.outcome? = some outcome :=
    isOver
  rcases proceed_of_over follows several ended with ⟨terminal, back, kept, followsNow⟩
  rw [storeAfter_advance] at back kept followsNow
  rw [Transmitted, taken, transmit]
  dsimp only
  rw [back, run_happened_of_prompting rfl]
  refine ⟨terminal, rfl, ?_, followsNow⟩
  rw [List.append_nil, kept, List.filterMap_append, noRequest, List.append_nil]
  rfl

theorem Transmitted.after {reports told : List Http.Report} {actions : List Action}
    {terminal : Terminal} {phase : SessionPhase} {result : Session × List Action}
    (asked : deeds actions = (reports.filterMap Http.Report.request?).map .connect)
    (later : Transmitted
      { session with
        store := Effect.performAll send.target session.store (send.takeInAll reports).2
        terminal
        phase } (send.takeInAll reports).1 told result) :
    Transmitted session send (reports ++ told) (result.1, actions ++ result.2) := by
  have stores : Effect.performAll (send.takeInAll reports).1.target
        (Effect.performAll send.target session.store (send.takeInAll reports).2)
        ((send.takeInAll reports).1.takeInAll told).2 =
      Effect.performAll send.target session.store (send.takeInAll (reports ++ told)).2 := by
    rw [Send.takeInAll_append, Send.target_takeInAll, Send.after, Effect.performAll,
      Effect.performAll, Effect.performAll, List.foldl_append]
  rcases later with ⟨last, back, kept, follows⟩
  rw [stores] at back kept follows
  refine ⟨last, back, ?_, follows⟩
  rw [deeds_append, asked, kept, List.filterMap_append, List.map_append, List.append_assoc]
  rfl

/-- A session takes in what is reported of a request until the send is over. Then it keeps the
conversation and is back at the prompt. -/
theorem transmitted (leads : Http.Exchange.Leads stage first)
    (follows : session.terminal.Follows session.store.messages) (several : session.single = false)
    (unfinished : send.outcome? = none) (batches : List (List Http.NetworkEvent))
    {outcome : SendOutcome}
    (isOver : (send.takeInAll
      (first.2 ++ (Http.Exchange.machine.run first.1 batches).2)).1.outcome? = some outcome) :
    Transmitted session send (first.2 ++ (Http.Exchange.machine.run first.1 batches).2)
      (session.transmit send first batches) := by
  induction batches generalizing session send first stage with
  | nil =>
      rw [Transducer.run_nil, List.append_nil] at isOver
      exact transmitted_of_over leads follows several unfinished isOver []
  | cons events rest ih =>
      -- The send may be over before the events are: then nothing waits for the rest of them.
      cases reached : (send.takeInAll first.2).1.outcome? with
      | some early => exact transmitted_of_over leads follows several unfinished reached _
      | none =>
          have goesOn : (Transmission.advance send first).transmission.send.outcome? = none :=
            reached
          rcases proceed_of_unfinished follows goesOn with ⟨terminal, sent, asked, followsNow⟩
          rw [storeAfter_advance] at sent followsNow
          have told : (Http.Exchange.machine.run first.1 (events :: rest)).2 =
              (first.1.receiveAll events).2 ++
                (Http.Exchange.machine.run (first.1.receiveAll events).1 rest).2 := by
            rw [Transducer.run_cons]
            rfl
          rw [told, Send.takeInAll_append] at isOver
          rw [told, transmit_cons sent rfl]
          exact .after asked (ih (Http.Exchange.goesOn_receiveAll first.1 events).leads followsNow
            several reached isOver)

end Session

end StreamingChat
