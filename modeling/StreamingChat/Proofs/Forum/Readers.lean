import StreamingChat.Proofs.Conversation.Unique
import StreamingChat.Proofs.Forum.Steps

/-!
# Readers of a forum

A reader who is not told of a change has missed none. The version of a conversation goes up with
every step that has an effect, so that a reader for whom it stands where it has stood has the present
state before it. A step that has no effect tells nobody of a change: one that is asked for in vain,
and every step whose answer says that nothing was done.
-/

namespace StreamingChat

/-- Whether there is nothing for an action to do. -/
def StoreAction.IsVain (store : Store) : StoreAction → Prop
  | .appendMessage .. => False
  | .appendContent id _ => store.message? id = none
  | .appendLog id _ => store.message? id = none
  | .markError id _ => store.message? id = none
  | .beginSend .. => store.loading = true
  | .dropTicket _ => store.loading = false

namespace Store

theorem update_of_unknown {store : Store} {id : MessageId} (unknown : store.message? id = none)
    (change : Message → Message) : store.update id change = (false, store) := by
  have others : ∀ message ∈ store.messages, message.id ≠ id := by
    simpa [Snapshot.message?] using unknown
  rw [update, changeFirst_of_forall_ne others]

/-- A change is reported and counted, or there is none. -/
theorem update_counts (store : Store) (id : MessageId) (change : Message → Message) :
    store.update id change = (false, store) ∨
      (store.update id change).1 = true ∧
        (store.update id change).2.version = store.version + 1 := by
  rw [update]
  split
  · exact .inr ⟨rfl, rfl⟩
  · exact .inl rfl

end Store

namespace SharedStore

/-- An action leaves the conversation as it is, or is counted. -/
theorem act_counts (shared : SharedStore) (action : StoreAction) :
    (shared.act action).2.store = shared.store ∨
      (shared.act action).1.isIdle = false ∧
        (shared.act action).2.store.version = shared.store.version + 1 := by
  have updated (id : MessageId) (change : Message → Message) :
      (shared.store.update id change).2 = shared.store ∨
        (StoreAnswer.changed (shared.store.update id change).1).isIdle = false ∧
          (shared.store.update id change).2.version = shared.store.version + 1 := by
    rcases shared.store.update_counts id change with nothing | ⟨applied, counted⟩
    · left
      rw [nothing]
    · right
      exact ⟨by simp [StoreAnswer.isIdle, applied], counted⟩
  cases action with
  | appendMessage role content images now => exact .inr ⟨rfl, rfl⟩
  | appendContent id piece => exact updated id _
  | appendLog id entry => exact updated id _
  | markError id note => exact updated id _
  | beginSend prompt images now =>
      rw [act]
      rcases Bool.eq_false_or_eq_true shared.store.loading with busy | idle
      · rw [Store.beginSend_of_loading busy]
        exact .inl rfl
      · rw [Store.beginSend_of_idle idle]
        exact .inr ⟨rfl, rfl⟩
  | dropTicket place =>
      rw [act]
      split
      · rcases Bool.eq_false_or_eq_true shared.store.loading with busy | idle
        · right
          refine ⟨rfl, ?_⟩
          simp [Store.release, busy]
        · left
          simp [Store.release, idle]
      · exact .inl rfl

/-- What is asked for in vain changes nothing, and whoever asks is told so. Nobody is told whether
giving up a ticket has lowered the loading flag. -/
theorem act_of_isVain {shared : SharedStore} {action : StoreAction}
    (vain : action.IsVain shared.store) :
    (shared.act action).2.store = shared.store ∧
      ((shared.act action).1.isIdle = true ∨ ∃ held, (shared.act action).1 = .dropped held) := by
  have unchanged {id : MessageId} (unknown : shared.store.message? id = none)
      (change : Message → Message) :
      (shared.store.update id change).2 = shared.store ∧
        (StoreAnswer.changed (shared.store.update id change).1).isIdle = true := by
    rw [Store.update_of_unknown unknown]
    exact ⟨rfl, rfl⟩
  cases action with
  | appendMessage role content images now => exact vain.elim
  | appendContent id piece => exact (unchanged vain _).imp_right .inl
  | appendLog id entry => exact (unchanged vain _).imp_right .inl
  | markError id note => exact (unchanged vain _).imp_right .inl
  | beginSend prompt images now =>
      rw [act, Store.beginSend_of_loading vain]
      exact ⟨rfl, .inl rfl⟩
  | dropTicket place =>
      have lowered : shared.store.loading = false := vain
      rw [act]
      split
      · exact ⟨by simp [Store.release, lowered], .inr ⟨_, rfl⟩⟩
      · exact ⟨rfl, .inr ⟨_, rfl⟩⟩

end SharedStore

namespace Store.Step

variable {store next : Store} {asked : Option StoreAction} {answer : Option StoreAnswer}

theorem counts (step : store.Step asked answer next) :
    next = store ∨
      (∃ told ∈ answer, told.isIdle = false) ∧ next.version = store.version + 1 := by
  cases step with
  | nothing idle => exact .inl rfl
  | acted tickets action =>
      rcases SharedStore.act_counts ⟨store, tickets⟩ action with same | ⟨busy, counted⟩
      · exact .inl same
      · exact .inr ⟨⟨_, rfl, busy⟩, counted⟩

theorem eq_of_isIdle (step : store.Step asked answer next)
    (idle : ∀ told ∈ answer, told.isIdle = true) : next = store := by
  rcases step.counts with same | ⟨⟨told, given, busy⟩, -⟩
  · exact same
  · simp [idle told given] at busy

theorem of_isVain (step : store.Step asked answer next)
    (vain : ∀ action ∈ asked, action.IsVain store) :
    next = store ∧ ∀ told ∈ answer, told.isIdle = true ∨ ∃ held, told = .dropped held := by
  cases step with
  | nothing idle => exact ⟨rfl, fun told given => .inl (idle told given)⟩
  | acted tickets action =>
      have nothing : action.IsVain (⟨store, tickets⟩ : SharedStore).store := vain action rfl
      rcases SharedStore.act_of_isVain nothing with ⟨same, said⟩
      refine ⟨same, ?_⟩
      rintro told ⟨rfl⟩
      exact said

end Store.Step

namespace Reader

/-- A reader to whom the version says whether it has missed a change. -/
structure Current (reader : Reader) (store : Store) : Prop where
  seen : reader.subscription.seen ≤ store.version
  view : reader.subscription.seen = store.version → reader.view = store.toSnapshot

namespace Current

variable {reader : Reader} {store next : Store}

theorem ofStore (store : Store) : (Reader.ofStore store).Current store :=
  ⟨Nat.le_refl _, fun _ => rfl⟩

theorem glance (current : reader.Current store) : (reader.glance store).Current store :=
  ⟨current.seen, fun _ => rfl⟩

/-- Whatever happens to the conversation, a reader who has missed it can tell. -/
theorem step {asked : Option StoreAction} {answer : Option StoreAnswer}
    (current : reader.Current store) (step : store.Step asked answer next) :
    reader.Current next := by
  rcases step.counts with same | ⟨-, counted⟩
  · rwa [same]
  · have seen := current.seen
    constructor
    · omega
    · intro still
      omega

theorem view_of_not_isStale (current : reader.Current store)
    (told : reader.isStale store = false) : reader.view = store.toSnapshot := by
  apply current.view
  simpa [Reader.isStale, Subscription.isStale] using told

end Current

end Reader

namespace Forum

variable {forum : Forum}

theorem readers_take (forum : Forum) {step : ForumStep} (other : step.isReading = false) :
    (forum.take step).2.readers = forum.readers := by
  cases step with
  | act action => rfl
  | send sender text images now reports =>
      rw [take]
      split <;> rfl
  | proceed place =>
      rw [take]
      split <;> rfl
  | subscribe => cases other
  | look place => cases other
  | glance place => cases other

theorem current_take (current : ∀ reader ∈ forum.readers, reader.Current forum.store)
    (step : ForumStep) :
    ∀ reader ∈ (forum.take step).2.readers, reader.Current (forum.take step).2.store := by
  intro reader member
  have taken := forum.step_take step
  cases reading : step.isReading with
  | false =>
      rw [forum.readers_take reading] at member
      exact (current reader member).step taken
  | true =>
      cases step with
      | act action => cases reading
      | send sender text images now reports => cases reading
      | proceed place => cases reading
      | subscribe =>
          rcases List.mem_append.mp member with old | new
          · exact current reader old
          · rw [List.mem_singleton.mp new]
            exact .ofStore forum.store
      | look place =>
          rcases List.mem_or_eq_of_mem_set member with old | rfl
          · exact current reader old
          · exact .ofStore forum.store
      | glance place =>
          rcases List.mem_iff_getElem?.mp member with ⟨other, there⟩
          rw [take, List.getElem?_modify] at there
          rcases Option.map_eq_some_iff.mp there with ⟨before, old, rfl⟩
          have known := current before (List.mem_of_getElem? old)
          split
          · exact known.glance
          · exact known

theorem current_run (current : ∀ reader ∈ forum.readers, reader.Current forum.store)
    (steps : List ForumStep) :
    ∀ reader ∈ (forum.run steps).readers, reader.Current (forum.run steps).store := by
  induction steps generalizing forum with
  | nil => exact current
  | cons step rest ih => exact ih (current_take current step)

/-- A reader who is not told of a change has the present state before it, whenever it has joined and
whatever it has read since. A step that says that nothing was done, or that there is nothing to do
for, leaves the conversation as it is and tells no reader of a change. There is nothing to do for
what concerns an unknown number, for an attempt to send while another send is active, for an event of
another kind, and for a ticket that is given up while the loading flag is lowered. -/
theorem readers_current (store : Store) (steps : List ForumStep) :
    let forum := (ofStore store).run steps
    (∀ reader ∈ forum.readers, reader.isStale forum.store = false →
      reader.view = forum.store.toSnapshot) ∧
    (∀ step,
      let answer := (forum.take step).1
      let next := (forum.take step).2
      (∀ told ∈ answer, told.isIdle = true) ∨
          (∀ action ∈ forum.asked? step, action.IsVain forum.store) →
        next.store = forum.store ∧
          (step.isReading = false → next.readers = forum.readers ∧
            next.readers.map (fun reader => reader.isStale next.store) =
              forum.readers.map fun reader => reader.isStale forum.store)) ∧
    (∀ step, (∀ action ∈ forum.asked? step, action.IsVain forum.store) →
      ∀ told ∈ (forum.take step).1, told.isIdle = true ∨ ∃ held, told = .dropped held) ∧
    ∀ id name content,
      forum.store.applyEvent id ⟨.other name, content⟩ = (false, forum.store) := by
  intro forum
  refine ⟨?_, ?_, ?_, ?_⟩
  · intro reader member told
    have joined : ∀ reader ∈ (ofStore store).readers, reader.Current (ofStore store).store := by
      simp [ofStore]
    exact (current_run joined steps reader member).view_of_not_isStale told
  · intro step answer next quiet
    have same : next.store = forum.store := by
      rcases quiet with idle | vain
      · exact (forum.step_take step).eq_of_isIdle idle
      · exact ((forum.step_take step).of_isVain vain).1
    refine ⟨same, ?_⟩
    intro other
    have kept : next.readers = forum.readers := forum.readers_take other
    exact ⟨kept, by rw [kept, same]⟩
  · intro step vain
    exact ((forum.step_take step).of_isVain vain).2
  · intro id name content
    rfl

/-- Two readers, of whom one has read what has come last, and a change that is asked for in vain. -/
theorem readers_current_in_vain :
    let steps : List ForumStep :=
      [.subscribe, .send ⟨"reader", false⟩ "Hi" [] default [], .look 0, .subscribe,
        .act (.appendContent ⟨2⟩ "Ho"), .look 1]
    let forum := (ofStore Store.empty).run steps
    let next := (forum.take (.act (.markError ⟨9⟩ "lost"))).2
    next.store = forum.store ∧
      next.readers.map (fun reader => reader.isStale next.store) = [true, false] ∧
      ∃ reader ∈ forum.readers, reader.isStale forum.store = false ∧
        reader.view = forum.store.toSnapshot ∧
        reader.view.messages.map Message.content = ["Hi", "Ho"] := by
  intro steps forum next
  have told : forum.readers.map (fun reader => reader.isStale forum.store) = [true, false] := by
    decide +kernel
  have vain : ∀ action ∈ forum.asked? (.act (.markError ⟨9⟩ "lost")),
      action.IsVain forum.store := by
    rintro action ⟨rfl⟩
    show forum.store.message? ⟨9⟩ = none
    decide +kernel
  have present : forum.readers[1]? = some (.ofStore forum.store) := by decide +kernel
  rcases readers_current Store.empty steps with ⟨current, unchanged, -⟩
  rcases unchanged (.act (.markError ⟨9⟩ "lost")) (.inr vain) with ⟨same, kept⟩
  have member := List.mem_of_getElem? present
  have fresh : (Reader.ofStore forum.store).isStale forum.store = false := by decide +kernel
  refine ⟨same, (kept rfl).2.trans told, _, member, fresh, current _ member fresh, ?_⟩
  decide +kernel

end Forum

end StreamingChat
