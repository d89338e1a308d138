import StreamingChat.Proofs.Terminal.Rendering

/-!
# Showing a resumed conversation

A transcript may be resumed whose messages have the same number, but a terminal tells messages apart
by their numbers: it writes one header for each number only, and takes a second message for what has
become of the first. A resumed conversation is therefore shown as it is exactly when its messages
have numbers of their own. When they have not, it may even be impossible to go on, since what has
been written of the first message may end inside a character of the second.
-/

namespace StreamingChat

open Stroke

namespace Stroke

/-- The message whose header a stroke is. -/
def headed? : Stroke → Option MessageId
  | .header id _ _ => some id
  | _ => none

/-- The messages whose headers are among some strokes. -/
def headed (strokes : List Stroke) : List MessageId :=
  strokes.filterMap headed?

@[simp]
theorem headed_append (first second : List Stroke) :
    headed (first ++ second) = headed first ++ headed second := by
  simp [headed]

theorem headed_visible (strokes : List Stroke) : headed (visible strokes) = headed strokes := by
  rw [headed, headed, visible, List.filterMap_filter]
  apply List.filterMap_congr
  intro stroke _
  cases stroke <;> simp [headed?]

@[simp]
theorem headed_logged (id : MessageId) (error : Bool) (entries : List String) :
    headed (logged id error entries) = [] := by
  induction entries with
  | nil => rfl
  | cons entry rest ih => exact ih

@[simp]
theorem headed_written (id : MessageId) (piece : List Char) : headed (written id piece) = [] := by
  rw [written]
  split <;> rfl

theorem headed_news_none (message : Message) : headed (news none message) = [message.id] := by
  rw [news, headed_append, headed_append, headed_logged, headed_written]
  rfl

theorem headed_flatMap_news_none (messages : List Message) :
    headed (messages.flatMap (news none)) = messages.map Message.id := by
  induction messages with
  | nil => rfl
  | cons message rest ih => simp [headed_news_none, ih]

end Stroke

namespace Terminal

variable {terminal : Terminal} {message : Message} {messages : List Message}

theorem headed_contentStrokes (id : MessageId) (known : Nat) (content : String) :
    headed ((contentStrokes id known content).toOption.getD []) = [] := by
  rw [contentStrokes]
  split
  · rfl
  · cases dropBytes known content.toList <;> rfl

/-- A header is written of a message unless its number is known. -/
theorem headed_draft (terminal : Terminal) (message : Message) :
    headed (terminal.draft message).2 =
      if (terminal.progress.lookup message.id).isSome then [] else [message.id] := by
  have logs (atLineStart : Bool) (entries : List String) :
      headed (logStrokes message.id atLineStart message.error entries) = [] := by
    rw [← headed_visible, visible_logStrokes, headed_logged]
  have header (atLineStart : Bool) : headed (headerStrokes atLineStart message) = [message.id] := by
    rw [← headed_visible, visible_headerStrokes]
    rfl
  rw [draft, headed_append, headed_contentStrokes, upperStrokes, headed_append, logs]
  split
  · rfl
  · simp [header]

theorem isSome_lookup_draft (terminal : Terminal) (message : Message) {id : MessageId}
    (known : (terminal.progress.lookup id).isSome ∨ id = message.id) :
    ((terminal.draft message).1.progress.lookup id).isSome := by
  by_cases same : id = message.id
  · simp [draft, remember, same]
  · have skipped : (id == message.id) = false := by simp [same]
    simp only [draft, remember, forget, List.lookup_cons, skipped]
    rw [lookup_filter_ne same]
    exact known.resolve_right same

/-- No number is given a second header. -/
theorem headed_run_messageWriter (terminal : Terminal) (messages : List Message) :
    let headers := headed (messageWriter.run terminal messages).2
    headers.Nodup ∧ ∀ id ∈ headers, (terminal.progress.lookup id).isSome = false := by
  intro headers
  induction messages generalizing terminal with
  | nil => simp [headers, headed]
  | cons message rest ih =>
      rcases ih (terminal.draft message).1 with ⟨distinct, new⟩
      have parts : headers = headed (terminal.draft message).2 ++
          headed (messageWriter.run (terminal.draft message).1 rest).2 := by
        rw [← headed_append]
        exact congrArg (fun run => headed run.2) (run_messageWriter_cons terminal message rest)
      have unknown : ∀ id ∈ headed (messageWriter.run (terminal.draft message).1 rest).2,
          (terminal.progress.lookup id).isSome = false ∧ id ≠ message.id := by
        intro id member
        have absent := new id member
        refine ⟨?_, ?_⟩
        · by_contra known
          have kept := isSome_lookup_draft terminal message (.inl (by simpa using known))
          rw [kept] at absent
          cases absent
        · rintro rfl
          rw [isSome_lookup_draft terminal message (.inr rfl)] at absent
          cases absent
      rw [parts, headed_draft]
      split
      · exact ⟨distinct, fun id member => (unknown id member).1⟩
      · rename_i fresh
        refine ⟨?_, ?_⟩
        · refine List.nodup_cons.mpr ⟨?_, distinct⟩
          intro again
          exact (unknown message.id again).2 rfl
        · intro id member
          rcases List.mem_cons.mp member with rfl | later
          · exact Bool.eq_false_iff.mpr fresh
          · exact (unknown id later).1

theorem nodup_headed_display (terminal : Terminal) (snapshot : Snapshot) :
    (headed (terminal.display snapshot).2).Nodup := by
  have ending (atLineStart : Bool) : headed (startLine atLineStart) = [] := by
    cases atLineStart <;> rfl
  have headers := (headed_run_messageWriter terminal snapshot.messages).1
  rw [display, headed_append]
  split
  · simpa [ending] using headers
  · simpa [headed] using headers

/-- A resumed conversation is written as it is, message by message, exactly when its messages have
numbers of their own. Shown it again, the terminal then writes nothing. -/
theorem resumed_shown (path : String) (palette : Palette) {file : FileState} {text : String}
    {transcript : Transcript} (given : file.text = .ok text)
    (accepted : Transcript.read text = .ok transcript)
    (free : ∀ message ∈ transcript.messages, message.id.value.toNat + 1 ≠ UInt64.size) :
    ∃ store, Transcript.load path file = .ok store ∧ store.messages = transcript.messages ∧
      let shown := (start palette).display store.toSnapshot
      ((start palette).render .unlimited store.toSnapshot =
            (.ok (), shown.1, ⟨(bytes palette shown.2).toArray, none⟩) ∧
          visible shown.2 = transcript.messages.flatMap (news none) ↔
        (transcript.messages.map Message.id).Nodup) ∧
      ((transcript.messages.map Message.id).Nodup →
        ∀ taken, ∃ same, shown.1.render ⟨taken, none⟩ store.toSnapshot =
          (.ok (), same, ⟨taken, none⟩)) := by
  rcases Transcript.load_of_free path given accepted free with ⟨store, -, loaded, messages, -⟩
  refine ⟨store, loaded, messages, ?_⟩
  intro shown
  rw [← messages]
  refine ⟨⟨?_, ?_⟩, ?_⟩
  · rintro ⟨-, whole⟩
    have headers := nodup_headed_display (start palette) store.toSnapshot
    rwa [← headed_visible, whole, headed_flatMap_news_none] at headers
  · intro unique
    rcases render_of_grown (remembers_start palette) (.added _) unique #[] with
      ⟨rendered, -, -, new⟩
    refine ⟨?_, new⟩
    rw [Output.unlimited, rendered]
    simp [shown, start]
  · intro unique taken
    rcases render_of_grown (remembers_start palette) (.added _) unique #[] with
      ⟨-, remembers, loading, -⟩
    exact render_again remembers unique loading taken

/-- A question and an answer of two lines. -/
theorem resumed_shown_answered :
    let transcript : Transcript :=
      ⟨[Message.fresh ⟨2⟩ .user "Na?" [] default,
        { Message.fresh ⟨1⟩ .assistant "Schön\n" [] default with logs := ["search"] }]⟩
    let file := FileState.content transcript.write.toUTF8.toList
    file.text = .ok transcript.write ∧ Transcript.read transcript.write = .ok transcript ∧
      (∀ message ∈ transcript.messages, message.id.value.toNat + 1 ≠ UInt64.size) ∧
      ∃ store, Transcript.load "chat.json" file = .ok store ∧
        ((start .plain).render .unlimited store.toSnapshot).2.2.taken.toList =
          "You: Na?\nOswald: \n  · search\nSchön\n".toUTF8.toList := by
  intro transcript file
  have given : file.text = .ok transcript.write := FileState.text_content _
  have accepted : Transcript.read transcript.write = .ok transcript :=
    Transcript.read_write transcript
  have free : ∀ message ∈ transcript.messages, message.id.value.toNat + 1 ≠ UInt64.size := by
    decide
  refine ⟨given, accepted, free, ?_⟩
  rcases resumed_shown "chat.json" .plain given accepted free with
    ⟨store, loaded, messages, shown, -⟩
  have rendered := (shown.mpr (by decide)).1
  have resumed := Transcript.load_of_read "chat.json" given accepted
  rw [loaded] at resumed
  cases resumed
  refine ⟨_, loaded, ?_⟩
  rw [rendered]
  decide +kernel

/-- Of two messages with the same number, what has been written of the first ends inside a character
of the second, and the terminal cannot go on. -/
theorem repeated_number_stops :
    let transcript : Transcript :=
      ⟨[Message.fresh ⟨1⟩ .user "a" [] default, Message.fresh ⟨1⟩ .assistant "é" [] default]⟩
    Transcript.read transcript.write = .ok transcript ∧
      ∃ store, Transcript.load "chat.json" (.content transcript.write.toUTF8.toList) = .ok store ∧
        ((start .plain).render .unlimited store.toSnapshot).1 = .error .insideCharacter := by
  intro transcript
  have accepted := Transcript.read_write transcript
  have loaded := Transcript.load_of_read "chat.json" (FileState.text_content _) accepted
  exact ⟨accepted, _, loaded, by decide +kernel⟩

end Terminal

end StreamingChat
