import StreamingChat.Proofs.Conversation.Loading

/-!
# Numbers of new messages

A conversation may be resumed from messages with any numbers, repeated ones among them. The counter
starts above all of them, if there is such a number, and every new message takes the number that the
counter stands at. `Store.CountedTo` says where the counter stands as if it could not wrap round;
up to its size, it is above the numbers of all messages. Beyond its size nothing of the kind holds,
and when the greatest number of all is in use, the conversation is not resumed at all.
-/

namespace StreamingChat

/-- The numbers that an action has given to new messages, in order. -/
def StoreAnswer.added : StoreAnswer → List MessageId
  | .appended id => [id]
  | .begun ticket => [ticket.userMessage, ticket.assistantMessage]
  | _ => []

namespace Store

/-- The counter has been counted up to a bound. Unless it has wrapped round on its way, the numbers
of all messages are below. -/
structure CountedTo (store : Store) (bound : Nat) : Prop where
  nextId : store.nextId = UInt64.ofNat bound
  below : bound ≤ UInt64.size → ∀ id ∈ store.messages.map Message.id, id.value.toNat < bound

namespace CountedTo

variable {store : Store} {bound : Nat}

theorem ofTight (tight : store.CounterTight) : store.CountedTo (firstFreeId store.messages) where
  nextId := by rw [← tight, UInt64.ofNat_toNat]
  below := by
    intro _ id member
    rcases List.mem_map.mp member with ⟨message, old, rfl⟩
    exact lt_firstFreeId old

theorem of_same {other : Store} (counted : store.CountedTo bound)
    (ids : other.messages.map Message.id = store.messages.map Message.id)
    (nextId : other.nextId = store.nextId) : other.CountedTo bound :=
  ⟨nextId.trans counted.nextId, ids ▸ counted.below⟩

theorem push (counted : store.CountedTo bound) (role : Role) (content : String)
    (images : List Image) (now : Time.Timestamp) :
    (store.push role content images now).2.CountedTo (bound + 1) where
  nextId := by simp [Store.push, counted.nextId, UInt64.ofNat_add]
  below := by
    intro room id member
    simp only [Store.push, List.map_append, List.mem_append, List.map_cons, List.map_nil,
      List.mem_singleton, Message.fresh] at member
    rcases member with old | rfl
    · have below := counted.below (by omega) id old
      omega
    · rw [counted.nextId, UInt64.toNat_ofNat']
      have small : bound < UInt64.size := by omega
      simp [Nat.mod_eq_of_lt small]

end CountedTo

end Store

namespace SharedStore

variable {shared : SharedStore} {bound : Nat}

/-- The numbers of the messages that an action adds are those that it answers with. -/
theorem ids_act (shared : SharedStore) (action : StoreAction) :
    (shared.act action).2.store.messages.map Message.id =
      shared.store.messages.map Message.id ++ (shared.act action).1.added := by
  have kept (id : MessageId) {change : Message → Message}
      (keeps : ∀ message, (change message).id = message.id) :
      (shared.store.update id change).2.messages.map Message.id =
        shared.store.messages.map Message.id ++ [] := by
    rw [List.append_nil, Store.ids_update _ _ keeps]
  cases action with
  | appendMessage role content images now =>
      simp [act, withStore, Store.appendMessage, Store.push, StoreAnswer.added, Message.fresh]
  | appendContent id piece => exact kept id fun _ => rfl
  | appendLog id entry => exact kept id fun _ => rfl
  | markError id note => exact kept id fun _ => rfl
  | beginSend prompt images now =>
      rcases Bool.eq_false_or_eq_true shared.store.loading with busy | idle
      · simp [act, Store.beginSend_of_loading busy, StoreAnswer.added]
      · simp [act, Store.beginSend_of_idle idle, Store.begun, StoreAnswer.added, Message.fresh]
  | dropTicket place =>
      rw [act]
      split <;> simp [StoreAnswer.added]

theorem ids_run (shared : SharedStore) (actions : List StoreAction) :
    shared.store.messages.map Message.id <+:
      (shared.run actions).store.messages.map Message.id := by
  induction actions generalizing shared with
  | nil => exact List.prefix_refl _
  | cons action rest ih =>
      have first : shared.store.messages.map Message.id <+:
          (shared.act action).2.store.messages.map Message.id := by
        rw [ids_act]
        exact List.prefix_append _ _
      exact first.trans (ih (shared.act action).2)

/-- New messages take the numbers from the counter on, one after the other. -/
theorem countedTo_act (counted : shared.store.CountedTo bound) (action : StoreAction) :
    let answer := (shared.act action).1
    answer.added =
        (List.range' bound answer.added.length).map (fun number => ⟨UInt64.ofNat number⟩) ∧
      (shared.act action).2.store.CountedTo (bound + answer.added.length) := by
  cases action with
  | appendMessage role content images now =>
      refine ⟨?_, ?_⟩
      · simp [act, Store.appendMessage, Store.push, StoreAnswer.added, counted.nextId]
      · exact (counted.push role content images now).of_same rfl rfl
  | appendContent id piece =>
      refine ⟨rfl, ?_⟩
      exact counted.of_same (Store.ids_update _ _ fun _ => rfl) (Store.nextId_update _ _ _)
  | appendLog id entry =>
      refine ⟨rfl, ?_⟩
      exact counted.of_same (Store.ids_update _ _ fun _ => rfl) (Store.nextId_update _ _ _)
  | markError id note =>
      refine ⟨rfl, ?_⟩
      exact counted.of_same (Store.ids_update _ _ fun _ => rfl) (Store.nextId_update _ _ _)
  | beginSend prompt images now =>
      rcases Bool.eq_false_or_eq_true shared.store.loading with busy | idle
      · simpa [act, Store.beginSend_of_loading busy, StoreAnswer.added] using counted
      · simp only [act, Store.beginSend_of_idle idle, StoreAnswer.added]
        refine ⟨?_, ?_⟩
        · simp [counted.nextId, UInt64.ofNat_add, List.range']
        · have first := counted.push .user prompt images now.prompt
          have both := first.push .assistant "" [] now.answer
          apply both.of_same
          · simp [Store.begun, Store.push]
          · have twice : shared.store.nextId + 1 + 1 = shared.store.nextId + 2 :=
              UInt64.add_assoc _ _ _
            exact twice.symm
  | dropTicket place =>
      rw [act]
      split
      · exact ⟨rfl, counted.of_same (by simp) (by simp)⟩
      · exact ⟨rfl, counted⟩

/-- The counter goes on by one for each new message. -/
theorem countedTo_run (counted : shared.store.CountedTo bound) (actions : List StoreAction) :
    ∃ added, (shared.run actions).store.messages.length = shared.store.messages.length + added ∧
      (shared.run actions).store.CountedTo (bound + added) := by
  induction actions generalizing shared bound with
  | nil => exact ⟨0, rfl, counted⟩
  | cons action rest ih =>
      rcases countedTo_act counted action with ⟨-, countedNext⟩
      rcases ih countedNext with ⟨added, longer, countedLater⟩
      have lengths := congrArg List.length (ids_act shared action)
      simp only [List.length_map, List.length_append] at lengths
      refine ⟨(shared.act action).1.added.length + added, ?_, ?_⟩
      · rw [run, List.foldl_cons, ← run, longer, lengths, Nat.add_assoc]
      · rw [← Nat.add_assoc]
        exact countedLater

/-- New numbers are above those that are there, unless the counter wraps round. -/
theorem lt_of_mem_added (counted : shared.store.CountedTo bound) {action : StoreAction}
    (room : bound + (shared.act action).1.added.length ≤ UInt64.size) :
    let added := (shared.act action).1.added
    (∀ id ∈ added, ∀ old ∈ shared.store.messages, old.id.value < id.value) ∧
      added.Pairwise fun first second => first.value < second.value := by
  intro added
  have numbers : added = _ := (countedTo_act counted action).1
  have value {number : Nat} (member : number ∈ List.range' bound added.length) :
      bound ≤ number ∧ (UInt64.ofNat number).toNat = number := by
    rcases List.mem_range'_1.mp member with ⟨above, below⟩
    have small : number < UInt64.size := Nat.lt_of_lt_of_le below room
    rw [UInt64.toNat_ofNat', Nat.mod_eq_of_lt small]
    exact ⟨above, rfl⟩
  refine ⟨?_, ?_⟩
  · intro id member old oldMember
    rw [numbers] at member
    rcases List.mem_map.mp member with ⟨number, new, rfl⟩
    have below := counted.below (by omega) old.id (List.mem_map_of_mem oldMember)
    rw [UInt64.lt_iff_toNat_lt, (value new).2]
    exact Nat.lt_of_lt_of_le below (value new).1
  · rw [numbers, List.pairwise_map]
    have sorted : (List.range' bound added.length).Pairwise (· < ·) := List.pairwise_lt_range'
    refine List.Pairwise.imp_of_mem ?_ sorted
    intro first second firstMember secondMember less
    rwa [UInt64.lt_iff_toNat_lt, (value firstMember).2, (value secondMember).2]

/-- Numbers stay unique as long as they last. -/
theorem unique_act (counted : shared.store.CountedTo bound)
    (unique : (shared.store.messages.map Message.id).Nodup) {action : StoreAction}
    (room : bound + (shared.act action).1.added.length ≤ UInt64.size) :
    ((shared.act action).2.store.messages.map Message.id).Nodup := by
  rcases lt_of_mem_added counted room with ⟨above, sorted⟩
  rw [ids_act]
  refine List.nodup_append.mpr ⟨unique, ?_, ?_⟩
  · refine sorted.imp ?_
    rintro id _ less rfl
    exact UInt64.lt_irrefl _ less
  · rintro id member _ new rfl
    rcases List.mem_map.mp member with ⟨old, oldMember, rfl⟩
    exact UInt64.lt_irrefl _ (above old.id new old oldMember)

theorem unique_run (counted : shared.store.CountedTo bound)
    (unique : (shared.store.messages.map Message.id).Nodup) {actions : List StoreAction}
    {added : Nat} (longer : (shared.run actions).store.messages.length =
      shared.store.messages.length + added) (room : bound + added ≤ UInt64.size) :
    ((shared.run actions).store.messages.map Message.id).Nodup := by
  induction actions generalizing shared bound added with
  | nil => exact unique
  | cons action rest ih =>
      rcases countedTo_act counted action with ⟨-, countedNext⟩
      rcases countedTo_run countedNext rest with ⟨addedLater, longerLater, -⟩
      have lengths := congrArg List.length (ids_act shared action)
      simp only [List.length_map, List.length_append] at lengths
      have total : added = (shared.act action).1.added.length + addedLater := by
        rw [run, List.foldl_cons, ← run, longerLater, lengths] at longer
        omega
      have uniqueNext : ((shared.act action).2.store.messages.map Message.id).Nodup :=
        unique_act counted unique (by omega)
      exact ih countedNext uniqueNext longerLater (by omega)

/-- A message whose number none before it has is reached by that number ever after. -/
theorem update_run_of_new {before rest : List Message} {message : Message}
    (split : shared.store.messages = before ++ message :: rest)
    (new : ∀ old ∈ before, old.id ≠ message.id) (later : List StoreAction)
    (change : Message → Message) :
    let final := (shared.run later).store
    ∃ earlier reached others, final.messages = earlier ++ reached :: others ∧
      earlier.length = before.length ∧ reached.id = message.id ∧
      final.update message.id change =
        (true, { final with
          messages := earlier ++ change reached :: others
          version := final.version + 1 }) := by
  intro final
  have kept : shared.store.messages.map Message.id <+: final.messages.map Message.id :=
    ids_run shared later
  rw [split, List.map_append, List.map_cons] at kept
  rcases kept with ⟨more, ids⟩
  rw [List.append_assoc, List.cons_append] at ids
  rcases List.map_eq_append_iff.mp ids.symm with ⟨earlier, tail, whole, earlierIds, tailIds⟩
  rcases List.map_eq_cons_iff.mp tailIds with ⟨reached, others, rfl, sameId, -⟩
  have others_ne : ∀ old ∈ earlier, old.id ≠ message.id := by
    intro old member
    have member : old.id ∈ before.map Message.id := earlierIds ▸ List.mem_map_of_mem member
    rcases List.mem_map.mp member with ⟨same, sameMember, ids⟩
    rw [← ids]
    exact new same sameMember
  refine ⟨earlier, reached, others, whole, ?_, sameId, ?_⟩
  · simpa using congrArg List.length earlierIds
  · have found := Store.changeFirst_append_of_forall_ne others_ne change (reached :: others)
    rw [Store.changeFirst, if_pos sameId, Option.map_some, ← whole] at found
    rw [Store.update, found]

/-- A number that has just been given out reaches the message that it was given for ever after. -/
theorem update_run_of_added {action : StoreAction} {place : Nat} {id : MessageId}
    (above : ∀ id ∈ (shared.act action).1.added, ∀ old ∈ shared.store.messages,
      old.id.value < id.value)
    (sorted : (shared.act action).1.added.Pairwise fun first second => first.value < second.value)
    (there : (shared.act action).1.added[place]? = some id) (later : List StoreAction)
    (change : Message → Message) :
    let final := ((shared.act action).2.run later).store
    ∃ before message rest, final.messages = before ++ message :: rest ∧
      before.length = shared.store.messages.length + place ∧ message.id = id ∧
      final.update id change =
        (true, { final with
          messages := before ++ change message :: rest
          version := final.version + 1 }) := by
  intro final
  have parted : ∃ first second, (shared.act action).1.added = first ++ id :: second ∧
      first.length = place := by
    rcases List.getElem?_eq_some_iff.mp there with ⟨inside, rfl⟩
    refine ⟨(shared.act action).1.added.take place, (shared.act action).1.added.drop (place + 1),
      ?_, List.length_take_of_le (Nat.le_of_lt inside)⟩
    rw [← List.drop_eq_getElem_cons inside, List.take_append_drop]
  rcases parted with ⟨first, second, parts, rfl⟩
  have ids := ids_act shared action
  rw [parts, ← List.append_assoc] at ids
  rw [parts] at above sorted
  rcases List.map_eq_append_iff.mp ids with ⟨before, tail, split, beforeIds, tailIds⟩
  rcases List.map_eq_cons_iff.mp tailIds with ⟨message, rest, rfl, rfl, -⟩
  have new : ∀ old ∈ before, old.id ≠ message.id := by
    intro old member same
    have listed : old.id ∈ before.map Message.id := List.mem_map_of_mem member
    rw [beforeIds, List.mem_append, same] at listed
    rcases listed with older | given
    · rcases List.mem_map.mp older with ⟨known, knownMember, knownId⟩
      have less := above message.id (by simp) known knownMember
      rw [knownId] at less
      exact UInt64.lt_irrefl _ less
    · rw [List.pairwise_append] at sorted
      have less := sorted.2.2 message.id given message.id (List.mem_cons_self ..)
      exact UInt64.lt_irrefl _ less
  rcases update_run_of_new split new later change with
    ⟨earlier, reached, others, whole, length, sameId, update⟩
  refine ⟨earlier, reached, others, whole, ?_, sameId, update⟩
  have counted := congrArg List.length beforeIds
  simp only [List.length_map, List.length_append] at counted
  rw [length, counted]

end SharedStore

namespace SharedStore

/-- A transcript is resumed unless a message has the greatest number of all. As long as the numbers
last, whoever acts on the resumed conversation is given numbers above all those that are there, and
by each of them reaches the message that it was given for, and no older one. -/
theorem resumed_numbers (path : String) {file : FileState} {text : String}
    {transcript : Transcript} (given : file.text = .ok text)
    (accepted : Transcript.read text = .ok transcript) :
    (Transcript.load path file = .error .exhausted ↔
      ∃ message ∈ transcript.messages, message.id.value.toNat + 1 = UInt64.size) ∧
    ((∀ message ∈ transcript.messages, message.id.value.toNat + 1 ≠ UInt64.size) →
      ∃ store, Transcript.load path file = .ok store ∧ store.messages = transcript.messages ∧
        store.loading = false ∧
        ∀ actions action,
          let shared := (ofStore store).run actions
          let added := (shared.act action).1.added
          let after := (shared.act action).2
          after.store.messages.map Message.id =
              shared.store.messages.map Message.id ++ added ∧
          (Store.firstFreeId transcript.messages +
                (after.store.messages.length - transcript.messages.length) ≤ UInt64.size →
            (∀ id ∈ added, ∀ old ∈ shared.store.messages, old.id.value < id.value) ∧
            added.Pairwise (fun first second => first.value < second.value) ∧
            ∀ place id, added[place]? = some id → ∀ later change,
              let final := (after.run later).store
              ∃ before message rest, final.messages = before ++ message :: rest ∧
                before.length = shared.store.messages.length + place ∧ message.id = id ∧
                final.update id change =
                  (true, { final with
                    messages := before ++ change message :: rest
                    version := final.version + 1 }))) := by
  refine ⟨Transcript.load_eq_exhausted_iff path given accepted, ?_⟩
  intro free
  rcases Transcript.load_of_free path given accepted free with
    ⟨store, opened, loaded, messages, idle⟩
  refine ⟨store, loaded, messages, idle, ?_⟩
  intro actions action shared added after
  have ids := ids_act shared action
  refine ⟨ids, ?_⟩
  intro lasts
  have counted : (ofStore store).store.CountedTo (Store.firstFreeId store.messages) :=
    .ofTight (counterTight_ofMessages opened)
  rcases countedTo_run counted actions with ⟨count, longer, countedNow⟩
  have lasting : Store.firstFreeId store.messages + count + added.length ≤ UInt64.size := by
    have start : (ofStore store).store.messages.length = transcript.messages.length := by
      rw [ofStore, messages]
    have before : shared.store.messages.length =
        (ofStore store).store.messages.length + count := longer
    have lengths := congrArg List.length ids
    simp only [List.length_map, List.length_append] at lengths
    have grown : after.store.messages.length = shared.store.messages.length + added.length :=
      lengths
    rw [messages]
    omega
  rcases lt_of_mem_added countedNow lasting with ⟨above, sorted⟩
  refine ⟨above, sorted, ?_⟩
  intro place id there later change
  exact update_run_of_added above sorted there later change

/-- A transcript whose messages have the same number is resumed, and the next number is above it. -/
theorem resumed_numbers_repeated :
    let transcript : Transcript :=
      ⟨[Message.fresh ⟨5⟩ .user "Hi" [] default, Message.fresh ⟨5⟩ .assistant "Ho" [] default]⟩
    let file := FileState.content transcript.write.toUTF8.toList
    let action : StoreAction := .appendMessage .user "Hm" [] default
    file.text = .ok transcript.write ∧ Transcript.read transcript.write = .ok transcript ∧
      (∀ message ∈ transcript.messages, message.id.value.toNat + 1 ≠ UInt64.size) ∧
      ∃ store, Transcript.load "chat.json" file = .ok store ∧
        ((ofStore store).act action).1.added = [⟨6⟩] ∧
        ∀ old ∈ store.messages, old.id.value < 6 := by
  intro transcript file action
  have given : file.text = .ok transcript.write := FileState.text_content _
  have accepted : Transcript.read transcript.write = .ok transcript :=
    Transcript.read_write transcript
  have free : ∀ message ∈ transcript.messages, message.id.value.toNat + 1 ≠ UInt64.size := by
    decide
  refine ⟨given, accepted, free, ?_⟩
  rcases (resumed_numbers "chat.json" given accepted).2 free with
    ⟨store, loaded, messages, -, acts⟩
  rcases acts [] action with ⟨-, lasts⟩
  have resumed := Transcript.load_of_read "chat.json" given accepted
  rw [loaded] at resumed
  cases resumed
  refine ⟨_, loaded, by decide, ?_⟩
  exact (lasts (by decide)).1 ⟨6⟩ (by decide)

/-- Two transcripts at the end of the numbers: the greatest one keeps the first from being resumed,
and the second one runs out of numbers after a message. -/
theorem numbers_run_out :
    let last : Transcript := ⟨[Message.fresh ⟨18446744073709551615⟩ .user "Hi" [] default]⟩
    let next : Transcript := ⟨[Message.fresh ⟨18446744073709551614⟩ .user "Hi" [] default]⟩
    let action : StoreAction := .appendMessage .user "Hm" [] default
    Transcript.read last.write = .ok last ∧
      Transcript.load "chat.json" (.content last.write.toUTF8.toList) = .error .exhausted ∧
      Transcript.read next.write = .ok next ∧
      ∃ store, Transcript.load "chat.json" (.content next.write.toUTF8.toList) = .ok store ∧
        (ofStore store).answers [action, action] =
          [.appended ⟨18446744073709551615⟩, .appended ⟨0⟩] := by
  intro last next action
  have lastAccepted := Transcript.read_write last
  have nextAccepted := Transcript.read_write next
  have lastLoaded := Transcript.load_of_read "chat.json" (FileState.text_content _) lastAccepted
  have nextLoaded := Transcript.load_of_read "chat.json" (FileState.text_content _) nextAccepted
  exact ⟨lastAccepted, lastLoaded, nextAccepted, _, nextLoaded, by decide⟩

end SharedStore

end StreamingChat
