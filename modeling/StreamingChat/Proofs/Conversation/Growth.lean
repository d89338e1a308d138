import Mathlib.Data.List.Nodup
import StreamingChat.Proofs.Conversation.Counter

/-!
# Conversations only grow

Whatever is done to a conversation, its messages stay where they are: a content or a log may become
longer, the error flag may be raised, and new messages come at the end. `Message.Extends` says this
of one message and `Message.Grown` of a whole list. Both are preorders, so that what a single action
keeps is kept by every run, however many of its states go unseen.
-/

namespace StreamingChat

namespace Message

/-- A message as it may have become of another one. -/
structure Extends (message later : Message) : Prop where
  id : later.id = message.id
  role : later.role = message.role
  images : later.images = message.images
  createdAt : later.createdAt = message.createdAt
  content : message.content.toList <+: later.content.toList
  logs : message.logs <+: later.logs
  error : message.error = true → later.error = true

namespace Extends

variable {message middle later : Message}

@[refl]
theorem refl (message : Message) : message.Extends message :=
  ⟨rfl, rfl, rfl, rfl, List.prefix_refl _, List.prefix_refl _, fun raised => raised⟩

theorem trans (first : message.Extends middle) (second : middle.Extends later) :
    message.Extends later where
  id := second.id.trans first.id
  role := second.role.trans first.role
  images := second.images.trans first.images
  createdAt := second.createdAt.trans first.createdAt
  content := first.content.trans second.content
  logs := first.logs.trans second.logs
  error := fun raised => second.error (first.error raised)

theorem appendContent (message : Message) (piece : String) :
    message.Extends (message.appendContent piece) where
  id := rfl
  role := rfl
  images := rfl
  createdAt := rfl
  content := by simp [Message.appendContent]
  logs := List.prefix_refl _
  error := fun raised => raised

theorem appendLog (message : Message) (entry : String) :
    message.Extends (message.appendLog entry) where
  id := rfl
  role := rfl
  images := rfl
  createdAt := rfl
  content := List.prefix_refl _
  logs := by simp [Message.appendLog]
  error := fun raised => raised

theorem markError (message : Message) (note : String) :
    message.Extends (message.markError note) where
  id := rfl
  role := rfl
  images := rfl
  createdAt := rfl
  content := List.prefix_refl _
  logs := by simp [Message.markError, Message.appendLog]
  error := fun _ => rfl

end Extends

/-- Messages as they may have become of others: each in its place, and new ones behind them. -/
inductive Grown : List Message → List Message → Prop where
  | added (later : List Message) : Grown [] later
  | kept {message later : Message} {messages others : List Message}
      (first : message.Extends later) (rest : Grown messages others) :
      Grown (message :: messages) (later :: others)

namespace Grown

variable {before middle after : List Message}

theorem append (messages added : List Message) : Grown messages (messages ++ added) := by
  induction messages with
  | nil => exact .added _
  | cons message rest ih => exact .kept (.refl message) ih

@[refl]
theorem refl (messages : List Message) : Grown messages messages := by
  have same := append messages []
  rwa [List.append_nil] at same

theorem trans (first : Grown before middle) (second : Grown middle after) :
    Grown before after := by
  induction first generalizing after with
  | added middle => exact .added _
  | kept grows rest ih =>
      cases second with
      | kept growsLater restLater => exact .kept (grows.trans growsLater) (ih restLater)

theorem split {message later : Message} (grows : message.Extends later)
    (before rest : List Message) :
    Grown (before ++ message :: rest) (before ++ later :: rest) := by
  induction before with
  | nil => exact .kept grows (.refl rest)
  | cons first others ih => exact .kept (.refl first) ih

theorem exists_of_mem (grown : Grown before after) {message : Message}
    (member : message ∈ before) : ∃ later ∈ after, message.Extends later := by
  induction grown with
  | added after => cases member
  | kept grows rest ih =>
      rcases List.mem_cons.mp member with rfl | old
      · exact ⟨_, List.mem_cons_self .., grows⟩
      · rcases ih old with ⟨later, laterMember, growsLater⟩
        exact ⟨later, List.mem_cons_of_mem _ laterMember, growsLater⟩

theorem exists_of_getElem? (grown : Grown before after) {place : Nat} {message : Message}
    (there : before[place]? = some message) :
    ∃ later, after[place]? = some later ∧ message.Extends later := by
  induction grown generalizing place with
  | added after => simp at there
  | @kept first later messages others grows rest ih =>
      cases place with
      | zero =>
          simp only [List.getElem?_cons_zero, Option.some.injEq] at there
          subst there
          exact ⟨later, rfl, grows⟩
      | succ place => exact ih there

theorem ids (grown : Grown before after) :
    before.map Message.id <+: after.map Message.id := by
  induction grown with
  | added after => exact List.nil_prefix
  | kept grows rest ih =>
      rw [List.map_cons, List.map_cons, grows.id]
      exact List.cons_prefix_cons.mpr ⟨rfl, ih⟩

/-- Without repeated numbers, a message has come of the one that had its number before. -/
theorem extends_of_find? (grown : Grown before after)
    (unique : (after.map Message.id).Nodup) {message old : Message} (member : message ∈ after)
    (found : before.find? (fun old => old.id = message.id) = some old) :
    old.Extends message := by
  have oldMember := List.mem_of_find?_eq_some found
  have sameId : old.id = message.id := by simpa using List.find?_some found
  rcases grown.exists_of_mem oldMember with ⟨later, laterMember, grows⟩
  have same : later = message :=
    List.inj_on_of_nodup_map unique laterMember member (grows.id.trans sameId)
  exact same ▸ grows

end Grown

end Message

open Message

theorem Store.grown_update (store : Store) (id : MessageId) {change : Message → Message}
    (grows : ∀ message : Message, message.Extends (change message)) :
    Grown store.messages (store.update id change).2.messages := by
  rw [update]
  split
  · rename_i changed found
    rcases exists_split_of_changeFirst found with ⟨before, message, later, split, -, -, rfl⟩
    rw [split]
    exact .split (grows message) before later
  · exact .refl _

namespace SharedStore

/-- No action takes anything back. -/
theorem grown_act (shared : SharedStore) (action : StoreAction) :
    Grown shared.store.messages (shared.act action).2.store.messages := by
  cases action with
  | appendMessage role content images now => exact .append _ _
  | appendContent id piece =>
      apply Store.grown_update
      intro message
      exact .appendContent message piece
  | appendLog id entry =>
      apply Store.grown_update
      intro message
      exact .appendLog message entry
  | markError id note =>
      apply Store.grown_update
      intro message
      exact .markError message note
  | beginSend prompt images now =>
      rcases Bool.eq_false_or_eq_true shared.store.loading with busy | idle
      · rw [act, Store.beginSend_of_loading busy]
      · rw [act, Store.beginSend_of_idle idle]
        exact .append _ _
  | dropTicket place =>
      rw [act]
      split
      · simp only [Store.messages_release]
        exact .refl _
      · exact .refl _

theorem grown_run (shared : SharedStore) (actions : List StoreAction) :
    Grown shared.store.messages (shared.run actions).store.messages := by
  induction actions generalizing shared with
  | nil => exact .refl _
  | cons action rest ih => exact (shared.grown_act action).trans (ih (shared.act action).2)

/-- What a reader sees before the first of several actions and after each of them. -/
def states (shared : SharedStore) : List StoreAction → List Snapshot
  | [] => [shared.store.toSnapshot]
  | action :: rest => shared.store.toSnapshot :: (shared.act action).2.states rest

theorem grown_of_mem_states {shared : SharedStore} {actions : List StoreAction}
    {snapshot : Snapshot} (member : snapshot ∈ shared.states actions) :
    Grown shared.store.messages snapshot.messages ∧
      Grown snapshot.messages (shared.run actions).store.messages := by
  induction actions generalizing shared with
  | nil =>
      rw [states, List.mem_singleton] at member
      subst snapshot
      exact ⟨.refl _, .refl _⟩
  | cons action rest ih =>
      rcases List.mem_cons.mp member with rfl | later
      · exact ⟨.refl _, shared.grown_run (action :: rest)⟩
      · rcases ih later with ⟨earlier, final⟩
        exact ⟨(shared.grown_act action).trans earlier, final⟩

theorem pairwise_grown_states (shared : SharedStore) (actions : List StoreAction) :
    (shared.states actions).Pairwise fun first second => Grown first.messages second.messages := by
  induction actions generalizing shared with
  | nil => exact List.pairwise_singleton _ _
  | cons action rest ih =>
      refine List.pairwise_cons.mpr ⟨?_, ih (shared.act action).2⟩
      intro snapshot member
      exact (shared.grown_act action).trans (grown_of_mem_states member).1

end SharedStore

end StreamingChat
