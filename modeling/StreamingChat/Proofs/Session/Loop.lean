import StreamingChat.Proofs.Session.Rounds
import StreamingChat.Session.Opening

/-!
# The loop of a session

A session for several prompts takes in line after line until one says farewell or the input ends.
`Served` says what it has done by then, in terms of the prompts before that line: each prompt that
is not blank has been sent, and only these; the conversation has grown by a question and an answer
for each; and what the file of the conversation holds in the end is the conversation as it is. By
the induction over the lines a session is as ready for each of them as it was for the first.
-/

namespace StreamingChat

open StreamingChat.Action

namespace Action

def request? : Action → Option Http.Request
  | .connect request => some request
  | _ => none

/-- The path of the file that an action writes, and what it writes. -/
def saved? : Action → Option (String × String)
  | .save path text => some (path, text)
  | _ => none

/-- What is only shown or logged plays no part in a view of the other actions. -/
theorem filterMap_deeds {β : Type} {view : Action → Option β}
    (hidden : ∀ action, action.isDeed = false → view action = none) (actions : List Action) :
    (deeds actions).filterMap view = actions.filterMap view := by
  rw [deeds, List.filterMap_filter]
  apply List.filterMap_congr
  intro action _
  cases deed : action.isDeed with
  | false => simp [hidden action deed]
  | true => simp

theorem requests_deeds (actions : List Action) :
    (deeds actions).filterMap request? = actions.filterMap request? := by
  apply filterMap_deeds
  intro action shown
  cases action <;> simp [isDeed, request?] at shown ⊢

theorem saved_deeds (actions : List Action) :
    (deeds actions).filterMap saved? = actions.filterMap saved? := by
  apply filterMap_deeds
  intro action shown
  cases action <;> simp [isDeed, saved?] at shown ⊢

theorem mem_deeds_iff {action : Action} (deed : action.isDeed = true) (actions : List Action) :
    action ∈ deeds actions ↔ action ∈ actions := by
  simp [deeds, deed]

theorem notMem_of_deeds_eq_nil {action : Action} {actions : List Action}
    (nothing : deeds actions = []) (deed : action.isDeed = true) : action ∉ actions := by
  rw [← mem_deeds_iff deed, nothing]
  exact List.not_mem_nil

end Action

namespace Session

theorem requests_save (session : Session) : session.save.filterMap request? = [] := by
  rw [save]
  split <;> rfl

theorem saved_save (session : Session) :
    session.save.filterMap saved? =
      (session.transcript.map fun path =>
        (path, (Transcript.ofStore session.store).write)).toList := by
  rw [save]
  split
  · rename_i named
    rw [named]
    rfl
  · rename_i unnamed
    rw [unnamed]
    rfl

def reply (session : Session) (prompt : String) (round : Round) : Reply :=
  .ofReports (session.course prompt round)

/-- Besides to show, a round does nothing but to connect and to save. -/
theorem connects_or_saves {requests : List Http.Request} {session : Session}
    {actions : List Action} (done : deeds actions = requests.map .connect ++ session.save)
    {action : Action} (deed : action.isDeed = true) (member : action ∈ actions) :
    (∃ request, action = .connect request) ∨ ∃ path text, action = .save path text := by
  rw [← mem_deeds_iff deed, done, List.mem_append] at member
  rcases member with connects | kept
  · rcases List.mem_map.mp connects with ⟨request, -, rfl⟩
    exact .inl ⟨request, rfl⟩
  · rw [save] at kept
    split at kept
    · exact .inr ⟨_, _, List.mem_singleton.mp kept⟩
    · cases kept

/-- The prompts that are sent: those that are not blank. -/
def sent (prompts : List (String × Round)) : List (String × Round) :=
  prompts.filter fun entry => entry.1 ≠ ""

/-- The questions and answers that come of prompts, from a number on. The images go with the first
prompt. -/
def pairs (flushes : Bool) (reply : String → Round → Reply) (number : UInt64)
    (images : List Image) : List (String × Round) → List Message
  | [] => []
  | (prompt, round) :: rest =>
      ⟨⟨number⟩, .user, prompt, [], images, false, round.now.prompt⟩ ::
        (reply prompt round).answer flushes ⟨number + 1⟩ round.now.answer ::
          pairs flushes reply (number + 2) [] rest

/-- What a session has done that was given some prompts and then ended. -/
structure Served (session : Session) (prompts : List (String × Round))
    (run : Session × List Action) : Prop where
  isOver : run.1.phase = .over
  messages : run.1.store.messages = session.store.messages ++
    pairs session.sender.flushes session.reply session.store.nextId session.images (sent prompts)
  /-- The requests are those of the exchanges of the prompts that are sent, one after the other. -/
  requests : run.2.filterMap request? = (sent prompts).flatMap fun entry =>
    (session.course entry.1 entry.2).filterMap Http.Report.request?
  /-- The last text that is written to the file is the transcript of the conversation. -/
  saved : (run.2.filterMap saved?).getLast? =
    if prompts = [] then none
    else session.transcript.map fun path => (path, (Transcript.ofStore run.1.store).write)
  /-- Nothing is rejected. -/
  quiet : ∀ message, .complain message ∉ run.2
  ending : ∃ before, run.2 = before ++ [.finish .finished] ∧ ∀ ending, .finish ending ∉ before

namespace Served

variable {session next : Session} {entry : String × Round} {prompts : List (String × Round)}
  {result : Session × List Action} {actions : List Action}

theorem sent_cons (entry : String × Round) (prompts : List (String × Round)) :
    sent (entry :: prompts) = sent [entry] ++ sent prompts :=
  List.filter_append [entry] prompts

theorem quiet_append (later : Served next prompts result)
    (noComplaint : ∀ message, .complain message ∉ actions) :
    ∀ message, .complain message ∉ actions ++ result.2 := by
  intro message member
  rcases List.mem_append.mp member with now | after
  · exact noComplaint message now
  · exact later.quiet message after

theorem ending_append (later : Served next prompts result)
    (unfinished : ∀ ending, .finish ending ∉ actions) :
    ∃ before, actions ++ result.2 = before ++ [.finish .finished] ∧
      ∀ ending, .finish ending ∉ before := by
  rcases later.ending with ⟨before, ends, unfinishedLater⟩
  refine ⟨actions ++ before, ?_, ?_⟩
  · rw [ends, List.append_assoc]
  · intro ending member
    rcases List.mem_append.mp member with now | after
    · exact unfinished ending now
    · exact unfinishedLater ending after

theorem after_round (later : Served next prompts result)
    (sameTranscript : next.transcript = session.transcript)
    (sameCourse : next.course = session.course)
    (done : deeds actions = ((sent [entry]).flatMap fun entry =>
      (session.course entry.1 entry.2).filterMap Http.Report.request?).map .connect ++ next.save)
    (messages : next.store.messages ++ pairs next.sender.flushes next.reply next.store.nextId
        next.images (sent prompts) =
      session.store.messages ++ pairs session.sender.flushes session.reply session.store.nextId
        session.images (sent (entry :: prompts))) :
    Served session (entry :: prompts) (result.1, actions ++ result.2) where
  isOver := later.isOver
  messages := later.messages.trans messages
  requests := by
    have first : actions.filterMap request? = (sent [entry]).flatMap fun entry =>
        (session.course entry.1 entry.2).filterMap Http.Report.request? := by
      rw [← requests_deeds, done, List.filterMap_append, requests_save, List.append_nil,
        List.filterMap_map]
      exact List.filterMap_some
    rw [List.filterMap_append, first, later.requests, sameCourse, sent_cons entry prompts,
      List.flatMap_append]
  saved := by
    have first : actions.filterMap saved? = (next.transcript.map fun path =>
        (path, (Transcript.ofStore next.store).write)).toList := by
      have noSave (requests : List Http.Request) :
          (requests.map Action.connect).filterMap saved? = [] := by
        simp [saved?]
      rw [← saved_deeds, done, List.filterMap_append, noSave, saved_save]
      rfl
    have someone : entry :: prompts ≠ [] := by simp
    rw [List.filterMap_append, List.getLast?_append, later.saved, first, if_neg someone,
      ← sameTranscript]
    by_cases none : prompts = []
    · -- Nothing has been added after this round.
      have same : result.1.store.messages = next.store.messages := by
        rw [later.messages, none]
        exact List.append_nil _
      rw [if_pos none, Transcript.ofStore, Transcript.ofStore, same]
      cases next.transcript <;> rfl
    · rw [if_neg none]
      cases next.transcript <;> rfl
  quiet := by
    refine later.quiet_append ?_
    intro message member
    rcases connects_or_saves done rfl member with ⟨_, same⟩ | ⟨_, _, same⟩
    · cases same
    · cases same
  ending := by
    refine later.ending_append ?_
    intro ending member
    rcases connects_or_saves done rfl member with ⟨_, same⟩ | ⟨_, _, same⟩
    · cases same
    · cases same

end Served

/-! ## The induction over the lines -/

variable {session : Session} {bound : Nat}

theorem run_of_over (isOver : session.phase = .over) (inputs : List SessionInput) :
    machine.run session inputs = (session, []) := by
  induction inputs with
  | nil => simp
  | cons input rest ih =>
      have ignored : machine.step session input = (session, []) := by
        simp only [machine, step, isOver]
      rw [Transducer.run_cons, ignored, ih]
      rfl

theorem served_finish (session : Session) : Served session [] (session.finish .finished) where
  isOver := rfl
  messages := (List.append_nil _).symm
  requests := rfl
  saved := rfl
  quiet := by simp [finish]
  ending := ⟨[], rfl, by simp⟩

def inputsOf (rounds : List Round) (closing : SendTimes) : List SessionInput :=
  rounds.flatMap Round.inputs ++ [.typed none closing]

theorem run_inputsOf_cons (session : Session) (round : Round) (rounds : List Round)
    (closing : SendTimes) :
    let first := machine.run session round.inputs
    let later := machine.run first.1 (inputsOf rounds closing)
    machine.run session (inputsOf (round :: rounds) closing) = (later.1, first.2 ++ later.2) := by
  intro first later
  have parts : inputsOf (round :: rounds) closing = round.inputs ++ inputsOf rounds closing := by
    simp [inputsOf]
  rw [parts, Transducer.run_append]

def goesOn (prompt : String) : Bool :=
  !isFarewell prompt

theorem run_inputsOf_nil (ready : session.Ready bound) (closing : SendTimes) :
    machine.run session (inputsOf [] closing) = session.finish .finished := by
  have ends : machine.step session (.typed none closing) = session.finish .finished := by
    simp only [machine, step, ready.phase, takeLine]
  simp [inputsOf, Transducer.run_cons, ends]

theorem run_inputsOf_of_farewell (ready : session.Ready bound) {prompt : String} {round : Round}
    (read : Prompt.ofLine round.line = .ok prompt) (farewell : isFarewell prompt = true)
    (rounds : List Round) (closing : SendTimes) :
    machine.run session (inputsOf (round :: rounds) closing) = session.finish .finished := by
  have ends : machine.step session (.typed (some round.line) round.now) =
      session.finish .finished := by
    rw [step_typed ready read, takePrompt, if_pos farewell]
  simp only [inputsOf, Round.inputs, List.flatMap_cons, List.cons_append]
  rw [Transducer.run_cons, ends, run_of_over rfl, List.append_nil]

/-- Whatever the server does in each round, the prompts before a farewell are served. -/
theorem served_rounds (ready : session.Ready bound) {prompts : List String} {rounds : List Round}
    (read : List.Forall₂ (fun prompt (round : Round) => Prompt.ofLine round.line = .ok prompt)
      prompts rounds)
    (closing : SendTimes)
    (room : bound + 2 * (sent ((prompts.takeWhile goesOn).zip rounds)).length ≤ UInt64.size) :
    Served session ((prompts.takeWhile goesOn).zip rounds)
      (machine.run session (inputsOf rounds closing)) := by
  induction read generalizing session bound with
  | nil =>
      rw [run_inputsOf_nil ready]
      exact served_finish session
  | @cons prompt round prompts rounds read rest ih =>
      cases farewell : isFarewell prompt with
      | true =>
          have none : (prompt :: prompts).takeWhile goesOn = [] := by simp [goesOn, farewell]
          rw [none, run_inputsOf_of_farewell ready read farewell]
          exact served_finish session
      | false =>
          have some : (prompt :: prompts).takeWhile goesOn =
              prompt :: prompts.takeWhile goesOn := by
            simp [goesOn, farewell]
          rw [some, List.zip_cons_cons] at room ⊢
          rw [Served.sent_cons, List.length_append] at room
          rw [run_inputsOf_cons]
          -- A blank line leaves the bound as it is; a prompt takes two numbers.
          by_cases blank : prompt = ""
          · subst blank
            rcases run_round_of_blank ready read with ⟨terminal, next, readyNext, done⟩
            rw [next] at readyNext ⊢
            have later := ih readyNext (by omega)
            have none : sent [("", round)] = [] := by simp [sent]
            refine later.after_round rfl rfl ?_ ?_
            · rw [none, done]
              rfl
            · rw [Served.sent_cons ("", round), none]
              rfl
          · have one : sent [(prompt, round)] = [(prompt, round)] := by simp [sent, blank]
            rw [one, List.length_singleton] at room
            rcases run_round_of_prompt ready (by omega) read farewell blank with
              ⟨store, terminal, next, readyNext, messages, nextId, done⟩
            rw [next] at readyNext ⊢
            have later := ih readyNext (by omega)
            refine later.after_round rfl rfl ?_ ?_
            · rw [one, done, List.flatMap_singleton]
              rfl
            · rw [Served.sent_cons (prompt, round), one, messages, nextId, List.append_assoc]
              rfl

end Session

end StreamingChat
