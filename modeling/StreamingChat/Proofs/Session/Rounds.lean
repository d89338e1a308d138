import StreamingChat.Proofs.Session.Steps
import StreamingChat.Proofs.Text.Input

/-!
# Rounds of a session

A round begins with a line of input and lasts until the next one is asked for. A blank line changes
nothing. Any other line that does not end the session adds a question and an answer, whatever the
server does about the request; the images go with the first such line. In any case the conversation
is kept afterwards, and the session is as ready for the next line as it was for this one.
-/

namespace StreamingChat

open StreamingChat.Action

/-! ## What a send leaves behind -/

namespace Store.Numbered

variable {store : Store} {bound : Nat}

/-- A send whose reply has been taken in leaves its question and its answer. -/
theorem performAll_reports (numbered : store.Numbered bound) (room : bound + 2 ≤ UInt64.size)
    (prompt : String) (images : List Image) (now : SendTimes) (flushes : Bool)
    (reply : Reply) :
    let target : MessageId := ⟨store.nextId + 1⟩
    let effects := ((⟨target, flushes, .opening⟩ : Send).takeInAll reply.reports).2
    let left := Effect.performAll target (store.begun prompt images now) effects
    left.messages = store.messages ++
        [⟨⟨store.nextId⟩, .user, prompt, [], images, false, now.prompt⟩,
          reply.answer flushes target now.answer] ∧
      left.loading = false ∧ left.Numbered (bound + 2) ∧ left.nextId = store.nextId + 2 := by
  intro target effects left
  have value : store.nextId.toNat = bound := numbered.toNat_nextId (by omega)
  have ahead : store.CounterAhead := numbered.ahead (by omega)
  have next : store.nextId < store.nextId + 1 := by
    rw [UInt64.lt_iff_toNat_lt, UInt64.toNat_add, value, Nat.mod_eq_of_lt]
    · exact Nat.lt_succ_self bound
    · exact Nat.lt_of_succ_le room
  have holds := ahead.holds_begun next prompt images now
  have split := (holds.performAll effects).split
  have taken := Send.takeInAll_reports target flushes reply
  have amended := Effect.amended_performAll target (store.begun prompt images now) effects
  refine ⟨?_, ?_, ?_, amended.nextId⟩
  · refine split.trans ?_
    simp only [effects]
    rw [taken, Send.after, Send.foldl_amend_close_fresh, List.append_assoc]
    rfl
  · simp only [left, effects]
    rw [taken, Send.after, Effect.loading_performAll]
    simp [Send.release_mem_close]
  · exact (numbered.begun room prompt images now).of_same amended.ids amended.nextId

end Store.Numbered

/-! ## Rounds -/

/-- A line of input, when it is typed, and what happens on the network after it, up to the end of
the connection. -/
structure Round where
  line : List UInt8
  now : SendTimes
  /-- What happens between two renderings. -/
  batches : List (List Http.NetworkEvent)

def Round.inputs (round : Round) : List SessionInput :=
  .typed (some round.line) round.now ::
    (round.batches ++ [[Http.NetworkEvent.closed]]).map .happened

namespace Session

def request (session : Session) (prompt : String) : Http.Request :=
  .post session.endpoint (ChatRequest.body ⟨prompt, session.sender.userId⟩)

/-- What is reported of a prompt that is sent in a round. -/
def course (session : Session) (prompt : String) (round : Round) : List Http.Report :=
  Http.Exchange.course (session.request prompt) session.network round.batches

/-- A session that waits for the next of several prompts, on a conversation whose numbers are unique
and below a bound. -/
structure Ready (session : Session) (bound : Nat) : Prop where
  phase : session.phase = .prompting
  several : session.single = false
  idle : session.store.loading = false
  numbered : session.store.Numbered bound
  follows : session.terminal.Follows session.store.messages

variable {session : Session} {bound : Nat} {round : Round} {prompt : String}

theorem step_typed (ready : session.Ready bound) (read : Prompt.ofLine round.line = .ok prompt) :
    machine.step session (.typed (some round.line) round.now) =
      session.takePrompt prompt round.now := by
  simp only [machine, step, ready.phase, takeLine, read]

theorem trimString_of_ofLine {line : List UInt8} (read : Prompt.ofLine line = .ok prompt) :
    Text.trimString prompt = prompt := by
  rw [Prompt.ofLine] at read
  cases decoded : Text.Utf8.decodeStrict line with
  | error flaw =>
      rw [decoded] at read
      cases read
  | ok text =>
      rw [decoded] at read
      cases read
      exact Text.trimString_trimString text

def begun (session : Session) (prompt : String) (now : SendTimes) : Session :=
  { session with images := [], store := session.store.begun prompt session.images now }

def nextSend (session : Session) : Send :=
  ⟨⟨session.store.nextId + 1⟩, session.sender.flushes, .opening⟩

/-- A prompt that is neither blank nor a farewell is put into the conversation, and its request is
sent. -/
theorem takePrompt_of_given (trimmed : Text.trimString prompt = prompt)
    (stays : isFarewell prompt = false) (given : prompt ≠ "")
    (idle : session.store.loading = false) (now : SendTimes) :
    session.takePrompt prompt now =
      andThen (session.begun prompt now).render fun next =>
        next.proceed (Transmission.start session.nextSend next.endpoint
          ⟨prompt, session.sender.userId⟩ next.network) := by
  have isPrompt : Send.promptOf? prompt = some prompt := by
    have found := Send.promptOf?_of_ne (trimmed.symm ▸ given)
    rwa [trimmed] at found
  have nonempty : prompt.isEmpty = false := by simpa using given
  have attempted := session.sender.attempt_of_idle prompt session.images now isPrompt idle
  rw [takePrompt, stays, nonempty, if_neg Bool.false_ne_true, if_neg Bool.false_ne_true, submit]
  dsimp only
  rw [attempted]
  rfl

/-- A blank line changes nothing. -/
theorem run_round_of_blank (ready : session.Ready bound)
    (read : Prompt.ofLine round.line = .ok "") :
    let run := machine.run session round.inputs
    ∃ terminal, run.1 = { session with terminal } ∧ run.1.Ready bound ∧
      deeds run.2 = session.save := by
  intro run
  have goesOn : session.phase ≠ .over := by simp [ready.phase]
  rcases conclude_of_follows ready.follows goesOn ready.several .ignored with
    ⟨terminal, back, kept, follows⟩
  have typed : machine.step session (.typed (some round.line) round.now) =
      session.conclude .ignored := by
    rw [step_typed ready read]
    rfl
  have same : ({ session with terminal, phase := .prompting } : Session) =
      { session with terminal } := by
    rw [← ready.phase]
  have waits : ({ session with terminal } : Session).phase = .prompting := ready.phase
  have later := run_happened_of_prompting waits (round.batches ++ [[.closed]])
  have ends : run = ({ session with terminal }, (session.conclude .ignored).2) := by
    simp only [run, Round.inputs]
    rw [Transducer.run_cons, typed, back, same, later, List.append_nil]
  rw [ends]
  exact ⟨terminal, rfl, ⟨ready.phase, ready.several, ready.idle, ready.numbered, follows⟩, kept⟩

/-! ## A prompt and its answer -/

/-- However its exchange goes, a send is transmitted as a whole. -/
theorem transmitted_course (follows : session.terminal.Follows session.store.messages)
    (several : session.single = false) (target : MessageId) (flushes : Bool)
    (request : Http.Request) (network : Http.Network)
    (batches : List (List Http.NetworkEvent)) :
    let send : Send := ⟨target, flushes, .opening⟩
    Transmitted session send (Http.Exchange.course request network batches)
      (session.transmit send (Http.Exchange.start request network) (batches ++ [[.closed]])) := by
  intro send
  have leads := Http.Exchange.leads_start request network
  have taken := Send.takeInAll_course send request network batches
  rcases Send.exists_outcome_of_reports target flushes
    (Reply.ofReports (Http.Exchange.course request network batches)) with ⟨outcome, isOver, -⟩
  rw [← taken] at isOver
  rw [Http.Exchange.course] at isOver ⊢
  generalize Http.Exchange.start request network = first at leads isOver ⊢
  exact transmitted leads follows several rfl _ isOver

theorem step_typed_of_prompt (ready : session.Ready bound) (room : bound + 2 ≤ UInt64.size)
    (read : Prompt.ofLine round.line = .ok prompt) (stays : isFarewell prompt = false)
    (given : prompt ≠ "") :
    let begun := session.begun prompt round.now
    let typed := machine.step session (.typed (some round.line) round.now)
    ∃ terminal, terminal.Follows begun.store.messages ∧
      let sent := ({ begun with terminal } : Session).proceed
        (Transmission.advance session.nextSend
          (Http.Exchange.start (session.request prompt) session.network))
      typed.1 = sent.1 ∧ deeds typed.2 = deeds sent.2 := by
  intro begun typed
  have uniqueBegun : (begun.store.messages.map Message.id).Nodup :=
    (ready.numbered.begun room prompt session.images round.now).unique
  have followsBegun : begun.terminal.Follows begun.store.messages :=
    ready.follows.grown (.append _ _) uniqueBegun
  have goesOn : begun.phase ≠ .over := by simp [begun, Session.begun, ready.phase]
  rcases andThen_render followsBegun goesOn with ⟨terminal, follows, goOn⟩
  have submitted := takePrompt_of_given (trimString_of_ofLine read) stays given ready.idle round.now
  refine ⟨terminal, follows, ?_⟩
  simp only [typed]
  rw [step_typed ready read, submitted]
  exact goOn _

theorem transmitted_round (ready : session.Ready bound) (room : bound + 2 ≤ UInt64.size)
    (read : Prompt.ofLine round.line = .ok prompt) (stays : isFarewell prompt = false)
    (given : prompt ≠ "") :
    let run := machine.run session round.inputs
    ∃ terminal result,
      Transmitted { session.begun prompt round.now with terminal } session.nextSend
        (session.course prompt round) result ∧
      run.1 = result.1 ∧ deeds run.2 = deeds result.2 := by
  intro run
  rcases step_typed_of_prompt ready room read stays given with
    ⟨terminal, follows, sameSession, sameDeeds⟩
  let shown : Session := { session.begun prompt round.now with terminal }
  have followsShown : shown.terminal.Follows shown.store.messages := follows
  have several : shown.single = false := ready.several
  have whole := transmitted_course followsShown several ⟨session.store.nextId + 1⟩
    session.sender.flushes (session.request prompt) session.network round.batches
  refine ⟨terminal, _, whole, ?_, ?_⟩
  · simp only [run, Round.inputs]
    rw [Transducer.run_cons, sameSession]
    rfl
  · simp only [run, Round.inputs]
    rw [Transducer.run_cons, deeds_append, sameSession, sameDeeds, ← deeds_append]
    rfl

/-- A prompt is sent, and its answer is the reply that its own exchange brings. -/
theorem run_round_of_prompt (ready : session.Ready bound) (room : bound + 2 ≤ UInt64.size)
    (read : Prompt.ofLine round.line = .ok prompt) (stays : isFarewell prompt = false)
    (given : prompt ≠ "") :
    let told := session.course prompt round
    let run := machine.run session round.inputs
    ∃ store terminal, run.1 = { session with store, terminal, images := [] } ∧
      run.1.Ready (bound + 2) ∧
      store.messages = session.store.messages ++
        [⟨⟨session.store.nextId⟩, .user, prompt, [], session.images, false, round.now.prompt⟩,
          (Reply.ofReports told).answer session.sender.flushes ⟨session.store.nextId + 1⟩
            round.now.answer] ∧
      store.nextId = session.store.nextId + 2 ∧
      deeds run.2 = (told.filterMap Http.Report.request?).map .connect ++
        ({ session with store } : Session).save := by
  intro told run
  rcases transmitted_round ready room read stays given with ⟨shown, result, whole, final, done⟩
  rcases whole with ⟨terminal, back, kept, follows⟩
  have taken : session.nextSend.takeInAll told =
      session.nextSend.takeInAll (Reply.ofReports told).reports :=
    Send.takeInAll_course session.nextSend _ _ _
  rcases ready.numbered.performAll_reports room prompt session.images round.now
    session.sender.flushes (Reply.ofReports told) with ⟨messages, idle, numbered, nextId⟩
  rw [taken] at back kept follows
  refine ⟨_, terminal, ?_, ?_, messages, nextId, ?_⟩
  · rw [final, back, ← ready.phase]
    rfl
  · rw [final, back]
    exact ⟨rfl, ready.several, idle, numbered, follows⟩
  · rw [done, kept]
    rfl

end Session

end StreamingChat
