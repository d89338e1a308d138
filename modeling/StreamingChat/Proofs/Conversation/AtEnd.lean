import StreamingChat.Proofs.Conversation.Growth

/-!
# Growth at the end of a conversation

While nobody but one send acts on a conversation, only its last message grows, and new messages come
behind it. A message that has failed grows no more: its note comes in the same step as its flag, and
no entry of the log comes after it. `Message.Proceeds` says this of one message and
`Message.GrownAtEnd` of all; both are preorders, so that they hold between any two states, whichever
go unseen in between.
-/

namespace StreamingChat

namespace Message

/-- A message as a send may make it of another one. A failure comes with a note of its own, and
nothing comes after it. -/
structure Proceeds (message later : Message) : Prop where
  grows : message.Extends later
  last : message.error = true → later.logs = message.logs
  noted : message.error = false → later.error = true → later.logs ≠ message.logs

namespace Proceeds

variable {message middle later : Message}

@[refl]
theorem refl (message : Message) : message.Proceeds message where
  grows := .refl message
  last := fun _ => rfl
  noted := fun unfailed failed => by rw [unfailed] at failed; cases failed

theorem of_unfailed (grows : message.Extends later) (unfailed : later.error = false) :
    message.Proceeds later where
  grows := grows
  last := fun failed => by rw [grows.error failed] at unfailed; cases unfailed
  noted := fun _ failed => by rw [unfailed] at failed; cases failed

theorem trans (first : message.Proceeds middle) (second : middle.Proceeds later) :
    message.Proceeds later where
  grows := first.grows.trans second.grows
  last := fun failed => (second.last (first.grows.error failed)).trans (first.last failed)
  noted := by
    intro unfailed failed same
    cases between : middle.error with
    | true => exact first.noted unfailed between ((second.last between).symm.trans same)
    | false =>
        -- The log in the middle lies between two equal ones.
        have longer : later.logs <+: middle.logs := same ▸ first.grows.logs
        refine second.noted between failed ?_
        exact longer.eq_of_length_le second.grows.logs.length_le

end Proceeds

/-- Messages as they may have become of others when only the last of them has been filled in, and
new ones have come behind it. -/
inductive GrownAtEnd : List Message → List Message → Prop where
  | added (later : List Message) : GrownAtEnd [] later
  | last {message later : Message} (proceeds : message.Proceeds later) (others : List Message) :
      GrownAtEnd [message] (later :: others)
  | kept (message : Message) {messages others : List Message} (rest : GrownAtEnd messages others) :
      GrownAtEnd (message :: messages) (message :: others)

namespace GrownAtEnd

variable {before middle after : List Message}

theorem append (messages added : List Message) : GrownAtEnd messages (messages ++ added) := by
  induction messages with
  | nil => exact .added _
  | cons message rest ih => exact .kept message ih

@[refl]
theorem refl (messages : List Message) : GrownAtEnd messages messages := by
  have same := append messages []
  rwa [List.append_nil] at same

theorem concat {message later : Message} (proceeds : message.Proceeds later)
    (front : List Message) : GrownAtEnd (front ++ [message]) (front ++ [later]) := by
  induction front with
  | nil => exact .last proceeds []
  | cons first rest ih => exact .kept first ih

theorem trans (first : GrownAtEnd before middle) (second : GrownAtEnd middle after) :
    GrownAtEnd before after := by
  induction first generalizing after with
  | added middle => exact .added _
  | @last message later proceeds others =>
      cases second with
      | last proceedsMore added => exact .last (proceeds.trans proceedsMore) added
      | kept same rest => exact .last proceeds _
  | @kept message messages others rest ih =>
      cases second with
      | @last _ later proceeds added =>
          -- The middle has one message only, and so has the beginning.
          cases rest with
          | added none => exact .last proceeds added
      | kept same restMore => exact .kept message (ih restMore)

theorem grown (atEnd : GrownAtEnd before after) : Grown before after := by
  induction atEnd with
  | added later => exact .added later
  | last proceeds others => exact .kept proceeds.grows (.added others)
  | kept message rest ih => exact .kept (.refl message) ih

end GrownAtEnd

end Message

end StreamingChat
