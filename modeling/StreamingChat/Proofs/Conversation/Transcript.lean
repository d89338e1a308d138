import StreamingChat.Conversation.Transcript
import StreamingChat.Proofs.Json.Reading
import StreamingChat.Proofs.Time.Stamp

/-!
# Saved conversations are read back

The text that saves a conversation spells the record of its messages, and the reader of transcripts
accepts every spelling of that record. Nothing is asked of the messages: their numbers may repeat,
and their texts may hold any characters. A message without images is written without them, and the
reader takes a missing list for an empty one.
-/

namespace StreamingChat

open Json

theorem Role.ofName?_name (role : Role) : ofName? role.name = some role := by
  cases role <;> rfl

theorem Role.accepts_reader (role : Role) : reader.Accepts (.string role.name) role := by
  intro gapped text rest gap spelled
  have read : nameReader.Accepts (.string role.name) role :=
    Reader.Accepts.decoded (by rw [ofName?_name])
  cases spelled with
  | string spelled =>
      have name := read (.none _) (.string spelled)
      simp [reader, gap.skipSpace_token rfl, StateT.run, name]

theorem Time.Timestamp.accepts_reader (timestamp : Time.Timestamp) :
    Time.Timestamp.reader.Accepts (.string timestamp.write) timestamp :=
  Reader.Accepts.decoded (by rw [read_write])

theorem Image.accepts_reader (image : Image) : shape.reader.Accepts image.toValue image := by
  have mediaType := (Reader.accepts_stringCalled "a string" image.mediaType).map
    fun mediaType => (⟨some mediaType, none⟩ : Draft)
  have data := (Reader.accepts_stringCalled "a string" image.data).map
    fun data => (⟨some image.mediaType, some data⟩ : Draft)
  exact Shape.accepts_reader (.member rfl rfl mediaType (.member rfl rfl data (.full _))) rfl

/-- The members of a message fill its draft one after the other. -/
theorem Message.accepts_reader (message : Message) :
    shape.reader.Accepts message.toValue message := by
  rcases message with ⟨id, role, content, logs, images, error, createdAt⟩
  have idRead := (Reader.accepts_natural id.value).map
    fun value => (⟨some ⟨value⟩, none, none, none, none, none, none⟩ : Draft)
  have roleRead := role.accepts_reader.map
    fun role => (⟨some id, some role, none, none, none, none, none⟩ : Draft)
  have contentRead := (Reader.accepts_stringCalled "a string" content).map
    fun content => (⟨some id, some role, some content, none, none, none, none⟩ : Draft)
  have logsRead := (Reader.accepts_list (Reader.accepts_stringCalled "a string") logs).map
    fun logs => (⟨some id, some role, some content, some logs, none, none, none⟩ : Draft)
  have imagesRead := (Reader.accepts_list Image.accepts_reader images).map
    fun images => (⟨some id, some role, some content, some logs, some images, none, none⟩ : Draft)
  -- The last two members follow the images, or the logs when there are no images.
  have rest (shown : Option (List Image)) :
      shape.Fills ⟨some id, some role, some content, some logs, shown, none, none⟩
        [("error", .boolean error), ("created_at", .string createdAt.write)]
        ⟨some id, some role, some content, some logs, shown, some error, some createdAt⟩ := by
    have errorRead := (Reader.accepts_boolean error).map
      fun error => (⟨some id, some role, some content, some logs, shown, some error, none⟩ : Draft)
    have createdAtRead := createdAt.accepts_reader.map fun createdAt =>
      (⟨some id, some role, some content, some logs, shown, some error, some createdAt⟩ : Draft)
    exact .member rfl rfl errorRead (.member rfl rfl createdAtRead (.full _))
  cases images with
  | nil =>
      exact Shape.accepts_reader
        (.member rfl rfl idRead (.member rfl rfl roleRead (.member rfl rfl contentRead
          (.member rfl rfl logsRead (rest none))))) rfl
  | cons first others =>
      exact Shape.accepts_reader
        (.member rfl rfl idRead (.member rfl rfl roleRead (.member rfl rfl contentRead
          (.member rfl rfl logsRead (.member rfl rfl imagesRead (rest _)))))) rfl

namespace Transcript

theorem accepts_reader (transcript : Transcript) :
    shape.reader.Accepts
      (.object [("messages", .list (transcript.messages.map Message.toValue))]) transcript := by
  have messagesRead := (Reader.accepts_list Message.accepts_reader transcript.messages).map some
  exact Shape.accepts_reader (.member rfl rfl messagesRead (.full _)) rfl

/-- Every transcript is read back from the text that saves it. -/
theorem read_write (transcript : Transcript) : read transcript.write = .ok transcript := by
  have ends : EndsNumber [] := trivial
  have spelled := Value.spells_prettyChars 0
    (.object [("messages", .list (transcript.messages.map Message.toValue))]) ends
  rw [List.append_nil] at spelled
  have whole := accepts_reader transcript (.none _) spelled
  simp [read, write, Value.pretty, Reader.parse, StateT.run, whole, skipSpace, bind, Except.bind]

/-- Saving loses nothing. A transcript is read back from the text that saves it, whatever its
messages hold; and once a text has been read, saving what it says and reading that again changes
neither the messages nor the saved text any more. -/
theorem saved_read_back :
    (∀ transcript : Transcript, read transcript.write = .ok transcript) ∧
      ∀ text transcript, read text = .ok transcript →
        ∃ again, read transcript.write = .ok again ∧ again.messages = transcript.messages ∧
          again.write = transcript.write :=
  ⟨read_write, fun _ transcript _ => ⟨transcript, read_write transcript, rfl, rfl⟩⟩

/-- A text that another program has written, with a leap second and the greatest number. -/
theorem saved_read_back_foreign_text :
    let text := "\x7b\"messages\":[\x7b\"created_at\":\"2016-12-31 23:59:60.5-00:30\"," ++
      "\"content\":\"\\u00e9\\/\",\"seen\":[],\"role\":\"user\"," ++
      "\"id\":18446744073709551615\x7d]\x7d"
    let message : Message :=
      ⟨⟨18446744073709551615⟩, .user, "é/", [], [], false,
        ⟨⟨2017, 1, 1, by decide⟩,
          ⟨0, 29, 60, 500000000, by decide, by decide, by decide, by decide⟩⟩⟩
    read text = .ok ⟨[message]⟩ ∧
      ∃ again, read (write ⟨[message]⟩) = .ok again ∧ again.messages = [message] ∧
        again.write = write ⟨[message]⟩ := by
  intro text message
  have parsed : (read text).toOption = some ⟨[message]⟩ := by decide +kernel
  have found : read text = .ok ⟨[message]⟩ := by
    cases given : read text with
    | error fault =>
        rw [given] at parsed
        cases parsed
    | ok transcript =>
        rw [given] at parsed
        cases parsed
        rfl
  exact ⟨found, saved_read_back.2 text ⟨[message]⟩ found⟩

end Transcript

end StreamingChat
