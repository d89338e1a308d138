import StreamingChat.Proofs.Conversation.Counter
import StreamingChat.Proofs.Conversation.Transcript
import StreamingChat.Proofs.Text.Utf8.Strict

/-!
# Loading a conversation

Loading reads the bytes of a file as text, the text as a transcript, and the transcript as a
conversation to go on with. Only the last step can fail on a transcript that has been read: there
must be a number above those of its messages.
-/

namespace StreamingChat

namespace Store

theorem firstFreeId_lt_iff (messages : List Message) :
    firstFreeId messages < UInt64.size ↔
      ∀ message ∈ messages, message.id.value.toNat + 1 ≠ UInt64.size := by
  constructor
  · intro room message member
    have below := lt_firstFreeId member
    omega
  · intro free
    have bounded (bound : Nat) (small : bound < UInt64.size) :
        messages.foldl (fun bound message => max bound (message.id.value.toNat + 1)) bound <
          UInt64.size := by
      induction messages generalizing bound with
      | nil => exact small
      | cons message rest ih =>
          rw [List.forall_mem_cons] at free
          have below := message.id.value.toNat_lt_size
          apply ih free.2
          exact Nat.max_lt.mpr ⟨small, by omega⟩
    exact bounded 1 (by decide)

theorem messages_ofMessages {messages : List Message} {store : Store}
    (opened : ofMessages? messages = some store) : store.messages = messages := by
  rw [ofMessages?] at opened
  split at opened
  · cases opened
    rfl
  · cases opened

end Store

theorem FileState.text_content (text : String) :
    (content text.toUTF8.toList).text = .ok text := by
  have decoded := Text.Utf8.decodeStrict_toUTF8 text
  generalize text.toUTF8.toList = bytes at decoded ⊢
  simp [FileState.text, FileState.bytes, decoded, bind, Except.bind]

namespace Transcript

variable {file : FileState} {text : String} {transcript : Transcript}

/-- A conversation is loaded from a file that is missing or has the text of its transcript. -/
theorem eq_of_load {path : String} {store : Store} (loaded : load path file = .ok store) :
    (file.exists = false ∧ store = Store.empty) ∨
      ∃ text, file.text = .ok text ∧ read text = .ok ⟨store.messages⟩ ∧
        Store.ofMessages? store.messages = some store := by
  rw [load] at loaded
  split at loaded
  · rename_i missing
    cases loaded
    exact .inl ⟨by simpa using missing, rfl⟩
  · split at loaded
    · cases loaded
    · rename_i text given
      split at loaded
      · cases loaded
      · rename_i transcript accepted
        split at loaded
        · rename_i resumed
          cases loaded
          have same := Store.messages_ofMessages resumed
          refine .inr ⟨text, given, ?_, ?_⟩
          · rw [same, accepted]
          · rw [same, resumed]
        · cases loaded

/-- Loading fails on a transcript that can be read only when no number is left. -/
theorem load_of_read (path : String) (given : file.text = .ok text)
    (accepted : read text = .ok transcript) :
    load path file =
      match Store.ofMessages? transcript.messages with
      | some store => .ok store
      | none => .error .exhausted := by
  have there : file.exists = true := by
    cases file with
    | missing => cases given
    | throughFile => cases given
    | nameTooLong => cases given
    | unnameable => cases given
    | directory => rfl
    | unreadable reason => rfl
    | content bytes => rfl
  simp only [load, there, given, accepted]
  rfl

theorem load_eq_exhausted_iff (path : String) (given : file.text = .ok text)
    (accepted : read text = .ok transcript) :
    load path file = .error .exhausted ↔
      ∃ message ∈ transcript.messages, message.id.value.toNat + 1 = UInt64.size := by
  have room := Store.firstFreeId_lt_iff transcript.messages
  rw [load_of_read path given accepted, Store.ofMessages?]
  by_cases free : Store.firstFreeId transcript.messages < UInt64.size
  · simpa [free] using room.mp free
  · have full := free
    rw [room] at full
    simpa [free] using full

/-- The conversation that a transcript is resumed as when there are numbers left. -/
theorem load_of_free (path : String) (given : file.text = .ok text)
    (accepted : read text = .ok transcript)
    (free : ∀ message ∈ transcript.messages, message.id.value.toNat + 1 ≠ UInt64.size) :
    ∃ store, Store.ofMessages? transcript.messages = some store ∧ load path file = .ok store ∧
      store.messages = transcript.messages ∧ store.loading = false := by
  have room := (Store.firstFreeId_lt_iff transcript.messages).mpr free
  refine ⟨_, if_pos room, ?_, rfl, rfl⟩
  rw [load_of_read path given accepted, Store.ofMessages?, if_pos room]

end Transcript

end StreamingChat
