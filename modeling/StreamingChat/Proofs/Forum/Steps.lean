import StreamingChat.Proofs.Send.Steps
import StreamingChat.Send.Forum

/-!
# What a step of a forum does to the conversation

Drivers and holders come to the conversation on different ways: a holder acts on it, a send attempts
to begin and then has its effects. This file shows that all of them do the same things to it. By
`Forum.step_take` every step either leaves the conversation as it is, and reports nothing, or is an
action on it that a holder might take as well. What is known of actions thereby holds in every
forum, with one case for each way to come to the conversation done once and for all.
-/

namespace StreamingChat

/-- Whether an answer reports that nothing was done. -/
def StoreAnswer.isIdle : StoreAnswer → Bool
  | .changed applied => !applied
  | .rejected _ => true
  | .dropped held => !held
  | _ => false

/-- What an effect asks of the conversation. A send gives up its own ticket, the only one there is. -/
def Effect.action? (target : MessageId) : Effect → Option StoreAction
  | .apply event =>
      match event.change? with
      | some (.content piece) => some (.appendContent target piece)
      | some (.log entry) => some (.appendLog target entry)
      | none => none
  | .fail note => some (.markError target note)
  | .log _ => none
  | .release => some (.dropTicket 0)

namespace Store

/-- What was asked of a conversation, what was answered, and what has become of it. -/
inductive Step (store : Store) : Option StoreAction → Option StoreAnswer → Store → Prop where
  | nothing {answer : Option StoreAnswer} (idle : ∀ told ∈ answer, told.isIdle = true) :
      Step store none answer store
  | acted (tickets : List Ticket) (action : StoreAction) :
      Step store (some action) (some (SharedStore.act ⟨store, tickets⟩ action).1)
        (SharedStore.act ⟨store, tickets⟩ action).2.store

theorem step_perform (store : Store) (target : MessageId) (effect : Effect) :
    store.Step (effect.action? target) (effect.answer? target store)
      (effect.perform target store) := by
  cases effect with
  | apply event =>
      simp only [Effect.action?, Effect.answer?, Effect.perform, applyEvent]
      cases event.change? with
      | none =>
          apply Step.nothing
          simp [StoreAnswer.isIdle]
      | some change =>
          cases change with
          | content piece => exact .acted [] (.appendContent target piece)
          | log entry => exact .acted [] (.appendLog target entry)
  | fail note => exact .acted [] (.markError target note)
  | log entry =>
      apply Step.nothing
      simp [Effect.answer?]
  | release => exact .acted [⟨target, target⟩] (.dropTicket 0)

end Store

namespace Forum

/-- What a step asks of the conversation. -/
def asked? (forum : Forum) : ForumStep → Option StoreAction
  | .act action => some action
  | .send _ text images now _ =>
      (Send.promptOf? text).map fun prompt => .beginSend prompt images now
  | .proceed place =>
      match forum.sends[place]? with
      | some ⟨target, effect :: _⟩ => effect.action? target
      | _ => none
  | _ => none

theorem step_send (forum : Forum) (sender : Sender) (text : String) (images : List Image)
    (now : SendTimes) (reports : List Http.Report) :
    let step : ForumStep := .send sender text images now reports
    forum.store.Step (forum.asked? step) (forum.take step).1 (forum.take step).2.store := by
  intro step
  cases given : Send.promptOf? text with
  | none =>
      simp only [step, asked?, take, sender.attempt_of_blank _ _ _ given, given]
      apply Store.Step.nothing
      simp
  | some prompt =>
      have acted : forum.store.Step _ _ _ := .acted [] (.beginSend prompt images now)
      rcases Bool.eq_false_or_eq_true forum.store.loading with busy | idle
      · simp only [step, asked?, take, sender.attempt_of_loading _ _ _ given busy, given]
        simpa only [SharedStore.act, Store.beginSend_of_loading busy, Option.map_some] using acted
      · simp only [step, asked?, take, sender.attempt_of_idle _ _ _ given idle, given, store_moveOn]
        simpa only [SharedStore.act, Store.beginSend_of_idle idle, Option.map_some] using acted

/-- Whoever takes a step, it is nothing for the conversation, or an action. -/
theorem step_take (forum : Forum) (step : ForumStep) :
    forum.store.Step (forum.asked? step) (forum.take step).1 (forum.take step).2.store := by
  have quiet : forum.store.Step none none forum.store := by
    apply Store.Step.nothing
    simp
  cases step with
  | act action => exact .acted forum.shared.tickets action
  | send sender text images now reports => exact forum.step_send sender text images now reports
  | proceed place =>
      cases there : forum.sends[place]? with
      | none => simpa only [asked?, take, there] using quiet
      | some send =>
          rcases send with ⟨target, _ | ⟨effect, due⟩⟩
          · simpa only [asked?, take, there] using quiet
          · simp only [asked?, take, there, store_moveOn]
            exact forum.store.step_perform target effect
  | subscribe => exact quiet
  | look place => exact quiet
  | glance place => exact quiet

end Forum

end StreamingChat
