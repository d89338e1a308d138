import StreamingChat.Proofs.Conversation.Lookup
import StreamingChat.Proofs.Forum.Steps

/-!
# Conversations grow in every forum

Nothing is ever taken back from a conversation, whoever has to do with it: holders who act on it,
sends that fill in their answers, in any number and in any order. Between any two states of a forum
the messages stay in their places and each of them only grows. A single step reaches one message at
most, the first one with the number that the step is about, and amends it; only a failure that is
recorded raises an error flag.
-/

namespace StreamingChat

open Message

namespace StoreAction

/-- What is made of a message by what is asked of the conversation, if anything is. -/
def amendBy (asked : Option StoreAction) (message : Message) : Message :=
  asked.elim message (amend message)

theorem error_of_amend {message : Message} {action : StoreAction}
    (raised : (amend message action).error = true) :
    message.error = true ∨ ∃ note, action = .markError message.id note := by
  cases action with
  | markError id note =>
      by_cases same : message.id = id
      · right
        exact ⟨note, by rw [same]⟩
      · left
        rwa [amend, changeAt_of_ne same] at raised
  | appendContent id piece =>
      left
      rw [amend, changeAt] at raised
      split at raised <;> exact raised
  | appendLog id entry =>
      left
      rw [amend, changeAt] at raised
      split at raised <;> exact raised
  | appendMessage role content images now => exact .inl raised
  | beginSend prompt images now => exact .inl raised
  | dropTicket place => exact .inl raised

variable {asked : Option StoreAction} {message : Message}

theorem amendBy_of_spares (spares : ∀ action ∈ asked, action.Spares message.id) :
    amendBy asked message = message := by
  cases asked with
  | none => rfl
  | some action => exact (spares action rfl).amend_eq

theorem error_of_amendBy (raised : (amendBy asked message).error = true) :
    message.error = true ∨
      ∃ note, asked = some (.markError (amendBy asked message).id note) := by
  cases asked with
  | none => exact .inl raised
  | some action =>
      rcases error_of_amend raised with before | ⟨note, marks⟩
      · exact .inl before
      · right
        refine ⟨note, ?_⟩
        simp [amendBy, ← marks]

end StoreAction

/-- A change is made in one place, if there is a message to be changed. -/
theorem Store.exists_modify_update (store : Store) (id : MessageId) (change : Message → Message) :
    ∃ reached, (store.update id change).2.messages =
      store.messages.modify reached (changeAt id change) := by
  rw [update]
  split
  · rename_i changed found
    rcases exists_split_of_changeFirst found with ⟨before, message, later, split, -, same, rfl⟩
    refine ⟨before.length, ?_⟩
    simp [split, List.modify_eq_take_drop, changeAt_of_eq same]
  · refine ⟨store.messages.length, ?_⟩
    simp [List.modify_eq_self]

namespace SharedStore

/-- An action amends a message in one place, and may add new ones at the end. -/
theorem exists_modify_act (shared : SharedStore) (action : StoreAction) :
    ∃ reached added, (shared.act action).2.store.messages =
        shared.store.messages.modify reached (fun message => action.amend message) ++ added ∧
      ∀ message ∈ added, message.error = false := by
  have updated (id : MessageId) (change : Message → Message) :
      ∃ reached added, (shared.store.update id change).2.messages =
          shared.store.messages.modify reached (changeAt id change) ++ added ∧
        ∀ message ∈ added, message.error = false := by
    rcases shared.store.exists_modify_update id change with ⟨reached, changed⟩
    exact ⟨reached, [], by simp [changed], by simp⟩
  have kept (change : Message → Message) (added : List Message) :
      shared.store.messages ++ added =
        shared.store.messages.modify shared.store.messages.length change ++ added := by
    simp [List.modify_eq_self]
  cases action with
  | appendMessage role content images now =>
      refine ⟨_, [Message.fresh ⟨shared.store.nextId⟩ role content images now], kept _ _, ?_⟩
      simp [Message.fresh]
  | appendContent id piece => exact updated id _
  | appendLog id entry => exact updated id _
  | markError id note => exact updated id _
  | beginSend prompt images now =>
      rcases Bool.eq_false_or_eq_true shared.store.loading with busy | idle
      · refine ⟨_, [], Eq.trans ?_ (kept _ []), by simp⟩
        simp [act, Store.beginSend_of_loading busy]
      · rw [act, Store.beginSend_of_idle idle]
        refine ⟨_, _, kept _ _, ?_⟩
        simp [Message.fresh]
  | dropTicket place =>
      refine ⟨_, [], Eq.trans ?_ (kept _ []), by simp⟩
      rw [act]
      split <;> simp

end SharedStore

namespace Store.Step

variable {store next : Store} {asked : Option StoreAction} {answer : Option StoreAnswer}

theorem grown (step : store.Step asked answer next) : Grown store.messages next.messages := by
  cases step with
  | nothing idle => exact .refl _
  | acted tickets action => exact SharedStore.grown_act ⟨store, tickets⟩ action

theorem exists_modify (step : store.Step asked answer next) :
    ∃ reached added,
      next.messages = store.messages.modify reached (StoreAction.amendBy asked) ++ added ∧
      ∀ message ∈ added, message.error = false := by
  cases step with
  | nothing idle =>
      refine ⟨store.messages.length, [], ?_, by simp⟩
      simp [List.modify_eq_self]
  | acted tickets action => exact SharedStore.exists_modify_act ⟨store, tickets⟩ action

/-- Every message stays in its place, and is amended in one place only. -/
theorem exists_reached (step : store.Step asked answer next) :
    ∃ reached,
      (∀ (place : Nat) (message : Message), store.messages[place]? = some message →
        next.messages[place]? =
          some (if place = reached then StoreAction.amendBy asked message else message)) ∧
      ∀ (place : Nat) (message : Message), store.messages[place]? = none →
        next.messages[place]? = some message → message.error = false := by
  rcases step.exists_modify with ⟨reached, added, changed, unmarked⟩
  refine ⟨reached, ?_, ?_⟩
  · intro place message there
    have inside := (List.getElem?_eq_some_iff.mp there).1
    rw [changed, List.getElem?_append_left (by simpa using inside), List.getElem?_modify, there]
    simp [eq_comm]
  · intro place message nothing there
    have outside : store.messages.length ≤ place := by simpa using nothing
    rw [changed, List.getElem?_append_right (by simpa using outside)] at there
    exact unmarked message (List.mem_of_getElem? there)

/-- One message at most is reached, and none that the number spares. A flag that is raised records a
failure. -/
theorem reaches_one (step : store.Step asked answer next) :
    ∃ reached,
      (∀ (place : Nat) (message : Message), store.messages[place]? = some message →
        (place ≠ reached ∨ ∀ action ∈ asked, action.Spares message.id) →
          next.messages[place]? = some message) ∧
      ∀ (place : Nat) (grown : Message), next.messages[place]? = some grown →
        grown.error = true →
          (∃ message, store.messages[place]? = some message ∧ message.error = true) ∨
            ∃ note, asked = some (.markError grown.id note) := by
  rcases step.exists_reached with ⟨reached, amended, unmarked⟩
  refine ⟨reached, ?_, ?_⟩
  · intro place message there spared
    rw [amended place message there]
    rcases spared with elsewhere | spares
    · rw [if_neg elsewhere]
    · rw [StoreAction.amendBy_of_spares spares, ite_self]
  · intro place grown there raised
    cases before : store.messages[place]? with
    | none =>
        have lowered := unmarked place grown before there
        simp [lowered] at raised
    | some old =>
        rw [amended place old before, Option.some.injEq] at there
        subst grown
        split at raised
        · rename_i here
          rw [if_pos here]
          rcases StoreAction.error_of_amendBy raised with already | marks
          · exact .inl ⟨old, rfl, already⟩
          · exact .inr marks
        · exact .inl ⟨old, rfl, raised⟩

end Store.Step

/-- Applying an event raises no error flag, whatever kind it has. -/
theorem Store.error_applyEvent (store : Store) (id : MessageId) (event : Event) :
    (store.applyEvent id event).2.messages.map Message.error =
      store.messages.map Message.error := by
  rw [applyEvent]
  split
  · apply map_update
    intro message
    rfl
  · apply map_update
    intro message
    rfl
  · rfl

namespace Forum

theorem grown_run (forum : Forum) (steps : List ForumStep) :
    Grown forum.store.messages (forum.run steps).store.messages := by
  induction steps generalizing forum with
  | nil => exact .refl _
  | cons step rest ih => exact (forum.step_take step).grown.trans (ih (forum.take step).2)

/-- Between any two states of a forum, every message stays in its place and only grows. A step
reaches one message at most, and none that its number spares. Events raise no error flag: a step
that raises one records a failure. -/
theorem conversation_grows (store : Store) (earlier later : List ForumStep) :
    let first := (ofStore store).run earlier
    let second := first.run later
    first.store.messages.length ≤ second.store.messages.length ∧
      (∀ (place : Nat) (message : Message), first.store.messages[place]? = some message →
        ∃ grown, second.store.messages[place]? = some grown ∧ message.Extends grown) ∧
      (∀ step, ∃ reached,
        let next := (first.take step).2
        (∀ (place : Nat) (message : Message), first.store.messages[place]? = some message →
          (place ≠ reached ∨ ∀ action ∈ first.asked? step, action.Spares message.id) →
            next.store.messages[place]? = some message) ∧
        ∀ (place : Nat) (grown : Message), next.store.messages[place]? = some grown →
          grown.error = true →
            (∃ message, first.store.messages[place]? = some message ∧ message.error = true) ∨
              ∃ note, first.asked? step = some (.markError grown.id note)) ∧
      ∀ id,
        (∀ event, (first.store.applyEvent id event).2.messages.map Message.error =
          first.store.messages.map Message.error) ∧
        ∀ note message, first.store.message? id = some message →
          (first.store.markError id note).2.message? id = some (message.markError note) := by
  intro first second
  have grown : Grown first.store.messages second.store.messages := first.grown_run later
  refine ⟨?_, ?_, ?_, ?_⟩
  · simpa using grown.ids.length_le
  · intro place message there
    exact grown.exists_of_getElem? there
  · intro step
    exact (first.step_take step).reaches_one
  · intro id
    refine ⟨first.store.error_applyEvent id, ?_⟩
    intro note message found
    exact Store.message?_update_self found rfl

/-- An answer is cut off after its first piece, while somebody else adds a message. -/
theorem conversation_grows_cut_off :
    let line := "data: \x7b\"type\":\"token\",\"content\":\"Ho\"\x7d\n"
    let reply : Reply := .body [line.toUTF8.toList] (some (.io "reset"))
    let earlier : List ForumStep :=
      [.send ⟨"reader", false⟩ "Hi" [] default reply.reports, .proceed 0]
    let later : List ForumStep :=
      [.act (.appendMessage .user "Hey" [] default), .proceed 0, .proceed 0, .proceed 0]
    let message : Message := ⟨⟨2⟩, .assistant, "Ho", [], [], false, default⟩
    ((ofStore Store.empty).run earlier).store.messages =
        [Message.fresh ⟨1⟩ .user "Hi" [] default, message] ∧
      ∃ grown, (((ofStore Store.empty).run earlier).run later).store.messages[1]? = some grown ∧
        message.Extends grown ∧ grown.logs = ["IO error: reset"] ∧ grown.error = true := by
  intro line reply earlier later message
  have begun : ((ofStore Store.empty).run earlier).store.messages =
      [Message.fresh ⟨1⟩ .user "Hi" [] default, message] := by decide +kernel
  have cutOff : (((ofStore Store.empty).run earlier).run later).store.messages[1]? =
      some { message with logs := ["IO error: reset"], error := true } := by decide +kernel
  have there : ((ofStore Store.empty).run earlier).store.messages[1]? = some message := by
    rw [begun]
    rfl
  rcases (conversation_grows Store.empty earlier later).2.1 1 message there with
    ⟨grown, thereLater, extended⟩
  have told := Option.some.inj (thereLater.symm.trans cutOff)
  exact ⟨begun, grown, thereLater, extended, by rw [told], by rw [told]⟩

end Forum

end StreamingChat
