import StreamingChat.Proofs.Conversation.NewNumbers
import StreamingChat.Proofs.Forum.Growth

/-!
# Numbers in the order of insertion

The counter of a conversation is kept apart from its messages. This file shows that the two agree in
every forum whose conversation has begun without messages: the messages have the numbers from one
on, without a gap and in their order, and the counter stands at the next number. A send that is
rejected and a change that reaches no message leave both as they are.

The invariant is `Store.InOrder`. It holds of all runs, for it counts as the counter does and wraps
round with it. As long as the numbers last, the number of a message tells its place, so that whoever
looks a number up finds the message that it was given for, and finds it again in every later state.
-/

namespace StreamingChat

namespace StoreAnswer

/-- The numbers that an answer gives out, if there is one. -/
def given (answer : Option StoreAnswer) : List MessageId :=
  answer.elim [] added

theorem given_of_isIdle {answer : Option StoreAnswer}
    (idle : ∀ told ∈ answer, told.isIdle = true) : given answer = [] := by
  cases answer with
  | none => rfl
  | some told =>
      have quiet := idle told rfl
      cases told with
      | appended id => cases quiet
      | begun ticket => cases quiet
      | changed applied => rfl
      | rejected rejection => rfl
      | dropped held => rfl

end StoreAnswer

open StoreAnswer

namespace Store

/-- The messages are numbered in their order, and the counter goes on from the last one. -/
structure InOrder (store : Store) : Prop where
  ids : store.messages.map Message.id =
    (List.range' 1 store.messages.length).map fun number => ⟨UInt64.ofNat number⟩
  nextId : store.nextId = UInt64.ofNat (store.messages.length + 1)

namespace InOrder

variable {store : Store}

theorem empty : Store.empty.InOrder :=
  ⟨rfl, rfl⟩

theorem id_eq (inOrder : store.InOrder) {place : Nat} {message : Message}
    (there : store.messages[place]? = some message) :
    message.id = ⟨UInt64.ofNat (place + 1)⟩ := by
  have inside := (List.getElem?_eq_some_iff.mp there).1
  have numbers := congrArg (fun ids => ids[place]?) inOrder.ids
  simp only [List.getElem?_map, there, List.getElem?_range' inside, Option.map_some,
    Option.some.injEq] at numbers
  rw [numbers]
  congr 2
  omega

theorem toNat_id (inOrder : store.InOrder) (room : store.messages.length + 1 < UInt64.size)
    {place : Nat} {message : Message} (there : store.messages[place]? = some message) :
    message.id.value.toNat = place + 1 := by
  have inside := (List.getElem?_eq_some_iff.mp there).1
  rw [inOrder.id_eq there, UInt64.toNat_ofNat', Nat.mod_eq_of_lt]
  have size : UInt64.size = 2 ^ 64 := rfl
  omega

theorem toNat_nextId (inOrder : store.InOrder) (room : store.messages.length + 1 < UInt64.size) :
    store.nextId.toNat = store.messages.length + 1 := by
  rw [inOrder.nextId, UInt64.toNat_ofNat', Nat.mod_eq_of_lt room]

/-- A number finds the message in its place, because no other message has it. -/
theorem message?_of_getElem? (inOrder : store.InOrder)
    (room : store.messages.length + 1 < UInt64.size) {place : Nat} {message : Message}
    (there : store.messages[place]? = some message) :
    store.message? message.id = some message := by
  have inside := (List.getElem?_eq_some_iff.mp there).1
  rw [Snapshot.message?, List.find?_eq_some_iff_getElem]
  refine ⟨by simp, place, inside, (List.getElem?_eq_some_iff.mp there).2, ?_⟩
  intro earlier before
  have number := inOrder.toNat_id room there
  have other := inOrder.toNat_id room
    (List.getElem?_eq_getElem (Nat.lt_trans before inside))
  simp only [Bool.not_eq_true', decide_eq_false_iff_not]
  intro same
  rw [same] at other
  omega

theorem countedTo (inOrder : store.InOrder) : store.CountedTo (store.messages.length + 1) where
  nextId := inOrder.nextId
  below := by
    intro room id member
    rcases List.mem_map.mp member with ⟨message, old, rfl⟩
    rcases List.mem_iff_getElem?.mp old with ⟨place, there⟩
    have inside := (List.getElem?_eq_some_iff.mp there).1
    rw [inOrder.id_eq there, UInt64.toNat_ofNat', Nat.mod_eq_of_lt]
    · omega
    · have size : UInt64.size = 2 ^ 64 := rfl
      omega

end InOrder

namespace Step

variable {store next : Store} {asked : Option StoreAction} {answer : Option StoreAnswer}

/-- The numbers of the messages that a step adds are those that it gives out. -/
theorem ids (step : store.Step asked answer next) :
    next.messages.map Message.id = store.messages.map Message.id ++ given answer := by
  cases step with
  | nothing idle => simp [given_of_isIdle idle]
  | acted tickets action => exact SharedStore.ids_act ⟨store, tickets⟩ action

theorem countedTo (step : store.Step asked answer next) {bound : Nat}
    (counted : store.CountedTo bound) :
    given answer = (List.range' bound (given answer).length).map
        (fun number => ⟨UInt64.ofNat number⟩) ∧
      next.CountedTo (bound + (given answer).length) := by
  cases step with
  | nothing idle => simpa [given_of_isIdle idle] using counted
  | acted tickets action =>
      have start : (⟨store, tickets⟩ : SharedStore).store.CountedTo bound := counted
      exact SharedStore.countedTo_act start action

theorem length (step : store.Step asked answer next) :
    next.messages.length = store.messages.length + (given answer).length := by
  simpa using congrArg List.length step.ids

theorem inOrder (step : store.Step asked answer next) (start : store.InOrder) :
    next.InOrder := by
  rcases step.countedTo start.countedTo with ⟨numbers, counted⟩
  constructor
  · rw [step.ids, start.ids, step.length, ← List.range'_append_1, List.map_append,
      Nat.add_comm 1 store.messages.length, ← numbers]
  · rw [counted.nextId, step.length]
    congr 1
    omega

theorem nextId_of_given (step : store.Step asked answer next) (start : store.InOrder)
    (nothing : given answer = []) : next.nextId = store.nextId := by
  have length := step.length
  rw [nothing, List.length_nil, Nat.add_zero] at length
  rw [(step.inOrder start).nextId, start.nextId, length]

theorem messages_of_appended {role : Role} {content : String} {images : List Image}
    {now : Time.Timestamp}
    (step : store.Step (some (.appendMessage role content images now)) answer next) :
    ∃ id, answer = some (.appended id) ∧
      next.messages = store.messages ++ [⟨id, role, content, [], images, false, now⟩] := by
  cases step with
  | acted tickets action => exact ⟨⟨store.nextId⟩, rfl, rfl⟩

theorem messages_of_begun {prompt : String} {images : List Image} {now : SendTimes}
    {ticket : Ticket} (step : store.Step (some (.beginSend prompt images now)) answer next)
    (accepted : answer = some (.begun ticket)) :
    next.messages = store.messages ++
        [⟨ticket.userMessage, .user, prompt, [], images, false, now.prompt⟩,
          ⟨ticket.assistantMessage, .assistant, "", [], [], false, now.answer⟩] ∧
      ticket.assistantMessage.value = ticket.userMessage.value + 1 := by
  cases step with
  | acted tickets action =>
      rw [SharedStore.act] at accepted ⊢
      rcases Bool.eq_false_or_eq_true store.loading with busy | idle
      · rw [Store.beginSend_of_loading busy] at accepted
        cases accepted
      · rw [Store.beginSend_of_idle idle] at accepted ⊢
        cases accepted
        exact ⟨rfl, rfl⟩

end Step

end Store

namespace Forum

theorem inOrder_run (forum : Forum) (start : forum.store.InOrder) (steps : List ForumStep) :
    (forum.run steps).store.InOrder := by
  induction steps generalizing forum with
  | nil => exact start
  | cons step rest ih => exact ih _ ((forum.step_take step).inOrder start)

/-- In a conversation that has begun without messages, every message has the number of its place,
counted from one, and the counter stands at the next number. A step gives out the numbers of the
messages that it adds, and no others; whoever is given a number finds that message by it ever
after. -/
theorem numbered_in_order (steps : List ForumStep)
    (room : ((ofStore Store.empty).run steps).store.messages.length + 1 < UInt64.size) :
    let forum := (ofStore Store.empty).run steps
    (∀ (place : Nat) (message : Message), forum.store.messages[place]? = some message →
      message.id.value.toNat = place + 1) ∧
    forum.store.nextId.toNat = forum.store.messages.length + 1 ∧
    ∀ step,
      let answer := (forum.take step).1
      let next := (forum.take step).2
      next.store.messages.map Message.id = forum.store.messages.map Message.id ++ given answer ∧
      (given answer = [] → next.store.nextId = forum.store.nextId) ∧
      (∀ role content images now,
        forum.asked? step = some (.appendMessage role content images now) →
          ∃ id, answer = some (.appended id) ∧ next.store.messages =
            forum.store.messages ++ [⟨id, role, content, [], images, false, now⟩]) ∧
      (∀ prompt images now ticket,
        forum.asked? step = some (.beginSend prompt images now) →
          answer = some (.begun ticket) →
            next.store.messages = forum.store.messages ++
                [⟨ticket.userMessage, .user, prompt, [], images, false, now.prompt⟩,
                  ⟨ticket.assistantMessage, .assistant, "", [], [], false, now.answer⟩] ∧
              ticket.assistantMessage.value = ticket.userMessage.value + 1) ∧
      ∀ (place : Nat) (message : Message), next.store.messages[place]? = some message → ∀ later,
        let final := next.run later
        final.store.messages.length + 1 < UInt64.size →
          ∃ found, final.store.message? message.id = some found ∧
            final.store.messages[place]? = some found ∧ message.Extends found := by
  intro forum
  have inOrder : forum.store.InOrder := inOrder_run (ofStore Store.empty) .empty steps
  refine ⟨fun place message there => inOrder.toNat_id room there, inOrder.toNat_nextId room, ?_⟩
  intro step answer next
  have taken := forum.step_take step
  refine ⟨taken.ids, taken.nextId_of_given inOrder, ?_, ?_, ?_⟩
  · intro role content images now asked
    rw [asked] at taken
    exact taken.messages_of_appended
  · intro prompt images now ticket asked accepted
    rw [asked] at taken
    exact taken.messages_of_begun accepted
  · intro place message there later final roomFinal
    have inOrderFinal : final.store.InOrder := inOrder_run next (taken.inOrder inOrder) later
    rcases (next.grown_run later).exists_of_getElem? there with ⟨found, thereFinal, grows⟩
    have looked := inOrderFinal.message?_of_getElem? roomFinal thereFinal
    rw [grows.id] at looked
    exact ⟨found, looked, thereFinal, grows⟩

/-- Two messages are added by a send; another attempt and a change in vain take no number. -/
theorem numbered_in_order_rejected :
    let steps : List ForumStep :=
      [.send ⟨"reader", false⟩ "Hi" [] default [], .send ⟨"writer", true⟩ "Hm" [] default [],
        .act (.appendContent ⟨9⟩ "!")]
    let forum := (ofStore Store.empty).run steps
    let next := (forum.take (.act (.appendMessage .user "Hey" [] default))).2
    forum.store.messages.length + 1 < UInt64.size ∧ forum.store.nextId.toNat = 3 ∧
      next.store.messages.map Message.id = [⟨1⟩, ⟨2⟩, ⟨3⟩] ∧
      next.store.message? ⟨3⟩ = some ⟨⟨3⟩, .user, "Hey", [], [], false, default⟩ := by
  intro steps forum next
  have left : forum.store.messages =
      [⟨⟨1⟩, .user, "Hi", [], [], false, default⟩,
        ⟨⟨2⟩, .assistant, "", [], [], false, default⟩] := by
    decide +kernel
  have room : forum.store.messages.length + 1 < UInt64.size := by
    rw [left]
    decide
  rcases numbered_in_order steps room with ⟨-, counter, each⟩
  rcases each (.act (.appendMessage .user "Hey" [] default)) with ⟨numbers, -, added, -, found⟩
  have answered : (forum.take (.act (.appendMessage .user "Hey" [] default))).1 =
      some (.appended ⟨3⟩) := by decide +kernel
  rcases added .user "Hey" [] default rfl with ⟨id, given, grown⟩
  rw [answered, Option.some.injEq, StoreAnswer.appended.injEq] at given
  subst given
  have there : next.store.messages[2]? =
      some ⟨⟨3⟩, .user, "Hey", [], [], false, default⟩ := by
    rw [grown, left]
    rfl
  refine ⟨room, by rw [counter, left]; rfl, ?_, ?_⟩
  · rw [numbers, answered, left]
    rfl
  · have roomNext : next.store.messages.length + 1 < UInt64.size := by
      rw [grown, left]
      decide
    rcases found 2 _ there [] roomNext with ⟨message, looked, same, -⟩
    obtain rfl := Option.some.inj (there.symm.trans same)
    exact looked

end Forum

end StreamingChat
