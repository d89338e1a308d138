import StreamingChat.Proofs.Send.Reports

/-!
# Single steps of a send

A send begins when no other one is active. It keeps its target, and it gives up its ticket in the
very step that ends it: neither earlier, so that no other send can begin meanwhile, nor later, so
that the next one need not wait.
-/

namespace StreamingChat

theorem Send.promptOf?_of_ne {text : String} (given : Text.trimString text ≠ "") :
    promptOf? text = some (Text.trimString text) := by
  simp [promptOf?, given]

theorem Send.eq_of_promptOf? {text prompt : String} (given : promptOf? text = some prompt) :
    prompt = Text.trimString text := by
  rw [promptOf?] at given
  split at given
  · cases given
  · exact (Option.some.inj given).symm

namespace Sender

variable (sender : Sender) {store : Store} (text : String) (images : List Image)
  (now : SendTimes)

theorem attempt_of_blank (blank : Send.promptOf? text = none) :
    sender.attempt store text images now = .ignored := by
  rw [attempt, blank]

theorem attempt_of_idle {prompt : String} (given : Send.promptOf? text = some prompt)
    (idle : store.loading = false) :
    sender.attempt store text images now =
      .begun ⟨⟨store.nextId + 1⟩, sender.flushes, .opening⟩ ⟨prompt, sender.userId⟩
        (store.begun prompt images now) := by
  rw [attempt, given]
  dsimp only
  rw [Store.beginSend_of_idle idle]

theorem attempt_of_loading {prompt : String} (given : Send.promptOf? text = some prompt)
    (busy : store.loading = true) :
    sender.attempt store text images now = .rejected .busy := by
  rw [attempt, given]
  dsimp only
  rw [Store.beginSend_of_loading busy]

/-- A send that is accepted begins on a conversation of which no other send is active. -/
theorem eq_of_attempt {sender : Sender} {text : String} {images : List Image}
    {now : SendTimes} {send : Send} {request : ChatRequest} {begun : Store}
    (accepted : sender.attempt store text images now = .begun send request begun) :
    ∃ prompt, Send.promptOf? text = some prompt ∧ store.loading = false ∧
      send = ⟨⟨store.nextId + 1⟩, sender.flushes, .opening⟩ ∧
      request = ⟨prompt, sender.userId⟩ ∧ begun = store.begun prompt images now := by
  cases given : Send.promptOf? text with
  | none =>
      rw [attempt_of_blank _ _ _ _ given] at accepted
      cases accepted
  | some prompt =>
      rcases Bool.eq_false_or_eq_true store.loading with busy | idle
      · rw [attempt_of_loading _ _ _ _ given busy] at accepted
        cases accepted
      · rw [attempt_of_idle _ _ _ _ given idle] at accepted
        cases accepted
        exact ⟨prompt, rfl, idle, rfl, rfl, rfl⟩

end Sender

namespace Send

theorem release_notMem_settle (readings : List LineReading) :
    .release ∉ (settle readings).1 := by
  induction readings with
  | nil => simp [settle]
  | cons reading rest ih => cases reading <;> simp [settle, ih]

theorem target_takeIn (send : Send) (report : Http.Report) :
    (send.takeIn report).1.target = send.target := by
  rcases send with ⟨target, flushes, _ | stream | outcome⟩
  · cases report with
    | connect request => rfl
    | answered answer =>
        cases answer with
        | error failure => rfl
        | ok hasBody => cases hasBody <;> rfl
    | arrived arrival => rfl
  · cases report with
    | connect request => rfl
    | answered answer => rfl
    | arrived arrival =>
        cases arrival with
        | chunk bytes =>
            rw [takeIn_chunk, after]
            split <;> rfl
        | broken failure => rfl
        | ended => rfl
  · cases report <;> rfl

/-- The step that ends a send is the one that gives up its ticket. -/
theorem release_mem_takeIn_iff {send : Send} (unfinished : send.outcome? = none)
    (report : Http.Report) :
    .release ∈ (send.takeIn report).2 ↔ (send.takeIn report).1.outcome?.isSome = true := by
  rcases send with ⟨target, flushes, _ | stream | outcome⟩
  · cases report with
    | connect request => simp [takeIn, outcome?]
    | answered answer =>
        cases answer with
        | error failure => simp [takeIn, answered, fail, outcome?]
        | ok hasBody => cases hasBody <;> simp [takeIn, answered, fail, outcome?]
    | arrived arrival => simp [takeIn, receive, outcome?]
  · have early (readings : List LineReading) := release_notMem_settle readings
    cases report with
    | connect request => simp [takeIn, outcome?]
    | answered answer => simp [takeIn, answered, outcome?]
    | arrived arrival =>
        cases arrival with
        | chunk bytes =>
            rw [takeIn_chunk, after]
            split
            · simp [complete, outcome?]
            · simp [early, outcome?]
        | broken failure => simp [takeIn, receive, fail, outcome?]
        | ended => simp [takeIn, receive, after, complete, outcome?]
  · cases unfinished

theorem takeInAll_of_outcome? {send : Send} {outcome : SendOutcome}
    (isOver : send.outcome? = some outcome) (reports : List Http.Report) :
    send.takeInAll reports = (send, []) := by
  rcases send with ⟨target, flushes, _ | stream | found⟩
  · cases isOver
  · cases isOver
  · exact takeInAll_of_over target flushes found reports

end Send

end StreamingChat
