import StreamingChat.Proofs.Conversation.Lookup
import StreamingChat.Proofs.Send.Steps
import StreamingChat.Send.Company

/-!
# A send and the other holders of its conversation

This file shows that a send and the other holders of its conversation do not disturb each other,
however their steps are interleaved. Every turn is a change of the messages that are there, one by
one, and maybe a new message at the end. What the turns together make of a message therefore depends
only on those of them that are about its number: the effects of the send for the answer, the actions
of the others for every other message.
-/

namespace StreamingChat

namespace Effect

variable {store : Store}

theorem messages_perform (unique : (store.messages.map Message.id).Nodup) (target : MessageId)
    (effect : Effect) :
    (effect.perform target store).messages =
      store.messages.map (Message.changeAt target fun message => effect.amend message) := by
  have unchanged : Message.changeAt target (fun message => message) = id := by
    funext message
    exact ite_self message
  have updated := Store.messages_update unique target
  cases effect with
  | apply event =>
      rw [perform, Store.applyEvent]
      cases changes : event.change? with
      | none => simp [amend, changes, unchanged]
      | some change =>
          cases change with
          | content piece =>
              simp only [amend, changes]
              exact updated _
          | log entry =>
              simp only [amend, changes]
              exact updated _
  | fail note => exact updated _
  | log entry => simp [perform, amend, unchanged]
  | release => simp [perform, amend, unchanged]

theorem numbered_perform {bound : Nat} (numbered : store.Numbered bound) (target : MessageId)
    (effect : Effect) : (effect.perform target store).Numbered bound := by
  refine numbered.of_same ?_ (amended_perform target store effect).nextId
  rw [messages_perform numbered.unique, List.map_map]
  refine List.map_congr_left fun message _ => ?_
  exact Message.id_changeAt fun message => id_amend message effect

@[simp]
theorem id_foldl_amend (effects : List Effect) (message : Message) :
    (effects.foldl amend message).id = message.id := by
  induction effects generalizing message with
  | nil => rfl
  | cons effect rest ih => exact (ih _).trans (id_amend message effect)

end Effect

namespace Turn

/-- What turns make of a message: the effects of the send change the answer, and the actions of the
others every other message. -/
def leave (target : MessageId) (turns : List Turn) (message : Message) : Message :=
  if message.id = target then (turns.filterMap effect?).foldl Effect.amend message
  else (turns.filterMap action?).foldl StoreAction.amend message

theorem leave_of_ne {target : MessageId} {message : Message} (other : message.id ≠ target)
    (turns : List Turn) :
    leave target turns message =
      (turns.filterMap action?).foldl StoreAction.amend message :=
  if_neg other

variable {target : MessageId} {shared : SharedStore} {bound : Nat}

theorem map_leave_own (numbered : shared.store.Numbered bound) (effect : Effect)
    (rest : List Turn) :
    (effect.perform target shared.store).messages.map (leave target rest) =
      shared.store.messages.map (leave target (.own effect :: rest)) := by
  rw [Effect.messages_perform numbered.unique, List.map_map]
  refine List.map_congr_left fun message _ => ?_
  by_cases same : message.id = target
  · have still : (effect.amend message).id = target := (Effect.id_amend message effect).trans same
    rw [Function.comp_apply, Message.changeAt_of_eq same, leave, leave, if_pos same, if_pos still]
    rfl
  · rw [Function.comp_apply, Message.changeAt_of_ne same, leave_of_ne same, leave_of_ne same]
    rfl

theorem leave_other {action : StoreAction} (spares : action.Spares target) (rest : List Turn)
    (message : Message) :
    leave target rest (action.amend message) = leave target (.other action :: rest) message := by
  have still : (action.amend message).id = message.id := StoreAction.id_amend message action
  by_cases same : message.id = target
  · subst same
    rw [spares.amend_eq, leave, leave, if_pos rfl, if_pos rfl]
    rfl
  · rw [leave_of_ne same, leave_of_ne (still ▸ same)]
    rfl

theorem map_leave_other (numbered : shared.store.Numbered bound) {action : StoreAction}
    (spares : action.Spares target) (quiet : action.appends = false)
    (unaccepted : ∀ ticket, (shared.act action).1 ≠ .begun ticket) (rest : List Turn) :
    (shared.act action).2.store.messages.map (leave target rest) =
      shared.store.messages.map (leave target (.other action :: rest)) := by
  rw [(SharedStore.messages_act numbered.unique quiet unaccepted).1, List.map_map]
  exact List.map_congr_left fun message _ => leave_other spares rest message

/-- However effects and actions are interleaved, every message that is there is left as its own
turns leave it, and the new messages as their own actions do. -/
theorem messages_run (numbered : shared.store.Numbered bound) (old : target.value.toNat < bound)
    {turns : List Turn} (spared : ∀ action ∈ turns.filterMap action?, action.Spares target)
    (rejected : ∀ ticket, .begun ticket ∉ ((machine target).run shared turns).2)
    (room : bound + (turns.filterMap action?).countP StoreAction.appends ≤ UInt64.size) :
    ((machine target).run shared turns).1.store.messages =
      shared.store.messages.map (leave target turns) ++
        StoreAction.added shared.store.nextId (turns.filterMap action?) := by
  -- The bound grows with each message that another holder adds, and the answer stays below it.
  induction turns generalizing shared bound with
  | nil =>
      have unchanged : leave target [] = id := by
        funext message
        exact ite_self message
      simp [unchanged, StoreAction.added]
  | cons turn rest ih =>
      rw [Transducer.run_cons] at rejected ⊢
      have rejectedRest (ticket : Ticket) :=
        fun begun => rejected ticket (List.mem_append_right _ begun)
      cases turn with
      | own effect =>
          have numberedNext := Effect.numbered_perform numbered target effect
          refine (ih numberedNext old spared rejectedRest room).trans ?_
          have nextId : (effect.perform target shared.store).nextId = shared.store.nextId :=
            (Effect.amended_perform target _ effect).nextId
          rw [← map_leave_own numbered, ← nextId]
          rfl
      | other action =>
          have spares : action.Spares target := spared action (List.mem_cons_self ..)
          have sparedRest : ∀ action ∈ rest.filterMap action?, action.Spares target :=
            fun action member => spared action (List.mem_cons_of_mem _ member)
          have parted : (Turn.other action :: rest).filterMap action? =
              action :: rest.filterMap action? := rfl
          rw [parted, List.countP_cons] at room
          cases appends : action.appends with
          | false =>
              have unaccepted (ticket : Ticket) : (shared.act action).1 ≠ .begun ticket := by
                intro begun
                exact rejected ticket (List.mem_append_left _ (by simp [machine, take, begun]))
              rw [appends] at room
              have numberedNext := SharedStore.numbered_act numbered appends unaccepted
              have nextId := (SharedStore.messages_act numbered.unique appends unaccepted).2
              refine (ih numberedNext old sparedRest rejectedRest room).trans ?_
              rw [parted, StoreAction.added_cons_of_quiet appends, ← nextId,
                ← map_leave_other numbered spares appends unaccepted]
          | true =>
              rw [appends] at room
              rcases StoreAction.exists_of_appends appends with ⟨role, content, images, now, rfl⟩
              have inRange : bound < UInt64.size := by grind
              have numberedNext := numbered.appendMessage inRange role content images now
              refine (ih numberedNext (by omega) sparedRest rejectedRest (by grind)).trans ?_
              -- The new message is not the answer, so that only later actions change it.
              have foreign : (⟨shared.store.nextId⟩ : MessageId) ≠ target := by
                rintro rfl
                rw [numbered.toNat_nextId inRange] at old
                exact Nat.lt_irrefl _ old
              have grown : ((machine target).step shared
                  (.other (.appendMessage role content images now))).1.store.messages =
                  shared.store.messages ++
                    [Message.fresh ⟨shared.store.nextId⟩ role content images now] := rfl
              rw [grown, List.map_append, List.map_singleton, leave_of_ne foreign,
                List.append_assoc]
              rfl

/-- The answer of a send is the last message when the send begins. -/
theorem messages_run_of_last {before : List Message} {answer : Message}
    (numbered : shared.store.Numbered bound) (last : shared.store.Holds before answer [])
    {turns : List Turn} (spared : ∀ action ∈ turns.filterMap action?, action.Spares answer.id)
    (rejected : ∀ ticket, .begun ticket ∉ ((machine answer.id).run shared turns).2)
    (room : bound + (turns.filterMap action?).countP StoreAction.appends ≤ UInt64.size) :
    let actions := turns.filterMap action?
    ((machine answer.id).run shared turns).1.store.messages =
      before.map (fun message => actions.foldl StoreAction.amend message) ++
        (turns.filterMap effect?).foldl Effect.amend answer ::
          StoreAction.added shared.store.nextId actions := by
  intro actions
  have old : answer.id.value.toNat < bound := by
    refine numbered.below answer.id (List.mem_map_of_mem ?_)
    rw [last.split]
    simp
  have others : before.map (leave answer.id turns) =
      before.map (fun message => actions.foldl StoreAction.amend message) :=
    List.map_congr_left fun message member => leave_of_ne (last.others message member) turns
  have left : leave answer.id turns answer =
      (turns.filterMap effect?).foldl Effect.amend answer := if_pos rfl
  rw [messages_run numbered old spared rejected room, last.split, List.map_append, others,
    List.map_singleton, left, List.append_assoc]
  rfl

end Turn

namespace Sender

open SharedStore

variable {shared : SharedStore} {sender : Sender} {text : String} {images : List Image}
  {now : SendTimes} {send : Send} {request : ChatRequest} {begun : Store}

/-- A send and whoever else holds the conversation do not disturb each other. However the effects of
the send and the actions of the others are interleaved, the answer is left as by the send alone, and
every other message as by the actions on its own number, in their order; so are the messages that
are added after the answer. -/
theorem send_undisturbed (reachable : shared.Reachable)
    (unique : (shared.store.messages.map Message.id).Nodup)
    (accepted : sender.attempt shared.store text images now = .begun send request begun)
    (reply : Reply) {turns : List Turn}
    (own : turns.filterMap Turn.effect? = (send.takeInAll reply.reports).2)
    (spared : ∀ action ∈ turns.filterMap Turn.action?, action.Spares send.target)
    (rejected : ∀ ticket,
      .begun ticket ∉ ((Turn.machine send.target).run (shared.withStore begun) turns).2)
    (room : shared.store.nextId.toNat + 2 +
      (turns.filterMap Turn.action?).countP StoreAction.appends ≤ UInt64.size) :
    let actions := turns.filterMap Turn.action?
    let alone := (sender.send shared.store text images now reply).store
    let together := ((Turn.machine send.target).run (shared.withStore begun) turns).1.store
    ∃ prompt answer, answer.id = send.target ∧
      alone.messages = shared.store.messages ++ [prompt, answer] ∧
      together.messages =
        (shared.store.messages ++ [prompt]).map
            (fun message => actions.foldl StoreAction.amend message) ++
          answer :: StoreAction.added (shared.store.nextId + 2) actions := by
  intro actions alone together
  rcases eq_of_attempt accepted with ⟨prompt, given, idle, rfl, rfl, rfl⟩
  have ahead := reachable.counterAhead
  have size : UInt64.size = 2 ^ 64 := rfl
  have first : shared.store.nextId < shared.store.nextId + 1 := by
    rw [UInt64.lt_iff_toNat_lt, UInt64.toNat_add]
    simp
    omega
  have last := ahead.holds_begun first prompt images now
  have numbered := ahead.numbered_begun unique (by omega) prompt images now
  let begun := shared.withStore (shared.store.begun prompt images now)
  refine ⟨Message.fresh ⟨shared.store.nextId⟩ .user prompt images now.prompt,
    (turns.filterMap Turn.effect?).foldl Effect.amend
      (Message.fresh ⟨shared.store.nextId + 1⟩ .assistant "" [] now.answer), ?_, ?_, ?_⟩
  · exact Effect.id_foldl_amend _ _
  · have filled := (last.performAll (turns.filterMap Turn.effect?)).split
    rw [List.append_assoc] at filled
    refine Eq.trans ?_ filled
    simp only [alone, Sender.send, attempt_of_idle _ _ _ _ given idle, own]
    rfl
  · have numberedBegun : begun.store.Numbered _ := numbered
    exact Turn.messages_run_of_last numberedBegun last spared rejected room

/-- A send that is cut off while somebody else adds a message and calls in vain. -/
theorem send_undisturbed_cut_off :
    let line := "data: \x7b\"type\":\"token\",\"content\":\"Ho\"\x7d\n"
    let reply : Reply := .body [line.toUTF8.toList] (some (.io "reset"))
    let turns : List Turn :=
      [.other (.appendMessage .user "Hey" [] default), .own (.apply ⟨.token, "Ho"⟩),
        .other (.appendContent ⟨3⟩ "!"), .other (.beginSend "Hm" [] default),
        .own (.log ⟨.warn, "Response #2 failed: IO error: reset"⟩),
        .other (.markError ⟨9⟩ "lost"), .own (.fail "IO error: reset"), .own .release]
    let begun := Store.empty.begun "Hi" [] default
    (ofStore Store.empty).Reachable ∧ (Store.empty.messages.map Message.id).Nodup ∧
      (⟨"reader", false⟩ : Sender).attempt Store.empty "Hi" [] default =
        .begun ⟨⟨2⟩, false, .opening⟩ ⟨"Hi", "reader"⟩ begun ∧
      turns.filterMap Turn.effect? =
        ((⟨⟨2⟩, false, .opening⟩ : Send).takeInAll reply.reports).2 ∧
      (∀ action ∈ turns.filterMap Turn.action?, action.Spares ⟨2⟩) ∧
      (∀ ticket, .begun ticket ∉ ((Turn.machine ⟨2⟩).run (ofStore begun) turns).2) ∧
      ((Turn.machine ⟨2⟩).run (ofStore begun) turns).1.store.messages =
        [Message.fresh ⟨1⟩ .user "Hi" [] default,
          ⟨⟨2⟩, .assistant, "Ho", ["IO error: reset"], [], true, default⟩,
          Message.fresh ⟨3⟩ .user "Hey!" [] default] := by
  intro line reply turns begun
  have reachable : (ofStore Store.empty).Reachable :=
    .opened (show Store.ofMessages? [] = some Store.empty from rfl)
  have unique : (Store.empty.messages.map Message.id).Nodup := List.nodup_nil
  have accepted : (⟨"reader", false⟩ : Sender).attempt Store.empty "Hi" [] default =
      .begun ⟨⟨2⟩, false, .opening⟩ ⟨"Hi", "reader"⟩ begun := by decide +kernel
  have own : turns.filterMap Turn.effect? =
      ((⟨⟨2⟩, false, .opening⟩ : Send).takeInAll reply.reports).2 := by decide +kernel
  have spared : ∀ action ∈ turns.filterMap Turn.action?, action.Spares ⟨2⟩ := by
    have theirs : turns.filterMap Turn.action? =
        [.appendMessage .user "Hey" [] default, .appendContent ⟨3⟩ "!",
          .beginSend "Hm" [] default, .markError ⟨9⟩ "lost"] := rfl
    simp [theirs, StoreAction.Spares]
  have answers : ((Turn.machine ⟨2⟩).run (ofStore begun) turns).2 =
      [.appended ⟨3⟩, .changed true, .rejected .busy, .changed false] := by decide +kernel
  have rejected : ∀ ticket, .begun ticket ∉ ((Turn.machine ⟨2⟩).run (ofStore begun) turns).2 := by
    rw [answers]
    simp
  refine ⟨reachable, unique, accepted, own, spared, rejected, ?_⟩
  rcases send_undisturbed reachable unique accepted reply own spared rejected (by decide) with
    ⟨prompt, answer, -, alone, together⟩
  have left : ((⟨"reader", false⟩ : Sender).send Store.empty "Hi" [] default reply).store.messages =
      [Message.fresh ⟨1⟩ .user "Hi" [] default,
        ⟨⟨2⟩, .assistant, "Ho", ["IO error: reset"], [], true, default⟩] := by decide +kernel
  rw [show (ofStore Store.empty).store = Store.empty from rfl, left] at alone
  simp [Store.empty] at alone
  rcases alone with ⟨rfl, rfl⟩
  exact together.trans (by decide +kernel)

end Sender

end StreamingChat
