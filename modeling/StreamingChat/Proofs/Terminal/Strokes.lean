import StreamingChat.Proofs.Conversation.Growth
import StreamingChat.Terminal.Render
import StreamingChat.Transducer

/-!
# What a terminal writes

An output that takes everything takes in the strokes of a terminal as they are, and a terminal on
such an output is a machine: it takes in messages, or whole snapshots, and gives strokes. This file
says which strokes these are when a message has grown since it was last shown: its header if it has
none yet, the new entries of its log, and what has been added to its content. The line ends between
them belong to no message.
-/

namespace StreamingChat

namespace Stroke

def bytes (palette : Palette) (strokes : List Stroke) : List UInt8 :=
  strokes.flatMap fun stroke => (stroke.text palette).toUTF8.toList

@[simp]
theorem bytes_append (palette : Palette) (first second : List Stroke) :
    bytes palette (first ++ second) = bytes palette first ++ bytes palette second := by
  simp [bytes]

/-- The strokes that show something. -/
def visible (strokes : List Stroke) : List Stroke :=
  strokes.filter (· ≠ .lineEnd)

@[simp]
theorem visible_nil : visible [] = [] :=
  rfl

@[simp]
theorem visible_append (first second : List Stroke) :
    visible (first ++ second) = visible first ++ visible second := by
  simp [visible]

theorem filter_visible {chosen : Stroke → Bool} (noLineEnd : chosen .lineEnd = false)
    (strokes : List Stroke) : (visible strokes).filter chosen = strokes.filter chosen := by
  rw [visible, List.filter_filter]
  apply List.filter_congr
  intro stroke _
  cases stroke <;> simp [noLineEnd]

/-- Entries at the end of the log of a message. -/
def logged (id : MessageId) (error : Bool) : List String → List Stroke
  | [] => []
  | entry :: rest => .log id (error && rest.isEmpty) entry :: logged id error rest

/-- A piece of the content of a message, unless it is empty. -/
def written (id : MessageId) (piece : List Char) : List Stroke :=
  if piece = [] then [] else [.content id (String.ofList piece)]

/-- The strokes that may be written of a message. -/
inductive Concerns (message : Message) : Stroke → Prop where
  | lineEnd : Concerns message .lineEnd
  | header : Concerns message (.header message.id message.role message.images.length)
  | log (failure : Bool) {entry : String} (member : entry ∈ message.logs) :
      Concerns message (.log message.id failure entry)
  | content {piece : List Char} (nonempty : piece ≠ []) (part : piece <:+ message.content.toList) :
      Concerns message (.content message.id (String.ofList piece))

/-- What there is to show of a message when it has been shown as `old?` before. -/
def news (old? : Option Message) (message : Message) : List Stroke :=
  (if old?.isSome then [] else [.header message.id message.role message.images.length]) ++
    logged message.id message.error (message.logs.drop (old?.elim 0 fun old => old.logs.length)) ++
    written message.id
      (message.content.toList.drop (old?.elim 0 fun old => old.content.toList.length))

end Stroke

open Stroke

/-- How much of a message has been written once all of it has. -/
def Message.progress (message : Message) : Progress :=
  ⟨message.content.utf8ByteSize, message.logs.length⟩

namespace Terminal

/-! ## Outputs without a limit -/

theorem taken_append (taken : Array UInt8) (first second : List UInt8) :
    taken ++ first ++ second = taken ++ (first ++ second) := by
  apply Array.ext'
  simp

theorem write_unlimited (terminal : Terminal) (taken : Array UInt8) (strokes : List Stroke) :
    terminal.write ⟨taken, none⟩ strokes =
      (true, { terminal with atLineStart := endsLine terminal.atLineStart strokes },
        ⟨taken ++ bytes terminal.palette strokes, none⟩) := by
  induction strokes generalizing terminal taken with
  | nil => simp [write, endsLine, bytes]
  | cons stroke rest ih =>
      simp [write, Output.put, ih, endsLine, bytes, taken_append]

/-- What is written of a message, and the terminal after it, if nothing fails. -/
def draft (terminal : Terminal) (message : Message) : Terminal × List Stroke :=
  let known := ((terminal.progress.lookup message.id).map Progress.content).getD 0
  let strokes := terminal.upperStrokes message ++
    (contentStrokes message.id known message.content).toOption.getD []
  ({ terminal.forget message.id with
      atLineStart := endsLine terminal.atLineStart strokes }.remember message known, strokes)

def messageWriter : Transducer Terminal Message Stroke := ⟨draft⟩

/-- What is written of a snapshot, and the terminal after it, if nothing fails. -/
def display (terminal : Terminal) (snapshot : Snapshot) : Terminal × List Stroke :=
  let (drawn, strokes) := messageWriter.run terminal snapshot.messages
  let ending := if drawn.wasLoading && !snapshot.loading then startLine drawn.atLineStart else []
  ({ drawn with
      atLineStart := endsLine drawn.atLineStart ending
      wasLoading := snapshot.loading }, strokes ++ ending)

def snapshotWriter : Transducer Terminal Snapshot Stroke := ⟨display⟩

variable {terminal : Terminal} {message : Message}

@[simp]
theorem palette_draft (terminal : Terminal) (message : Message) :
    (terminal.draft message).1.palette = terminal.palette :=
  rfl

theorem run_messageWriter_cons (terminal : Terminal) (message : Message) (rest : List Message) :
    messageWriter.run terminal (message :: rest) =
      ((messageWriter.run (terminal.draft message).1 rest).1,
        (terminal.draft message).2 ++ (messageWriter.run (terminal.draft message).1 rest).2) :=
  Transducer.run_cons ..

@[simp]
theorem palette_run_messageWriter (terminal : Terminal) (messages : List Message) :
    (messageWriter.run terminal messages).1.palette = terminal.palette := by
  induction messages generalizing terminal with
  | nil => simp
  | cons message rest ih =>
      rw [run_messageWriter_cons, ih]
      rfl

@[simp]
theorem wasLoading_run_messageWriter (terminal : Terminal) (messages : List Message) :
    (messageWriter.run terminal messages).1.wasLoading = terminal.wasLoading := by
  induction messages generalizing terminal with
  | nil => simp
  | cons message rest ih =>
      rw [run_messageWriter_cons, ih]
      rfl

@[simp]
theorem palette_display (terminal : Terminal) (snapshot : Snapshot) :
    (terminal.display snapshot).1.palette = terminal.palette := by
  simp [display]

/-- Drawing a message writes its draft, unless the written part of its content ends inside a
character. -/
theorem draw_unlimited (taken : Array UInt8) {strokes : List Stroke}
    (whole : contentStrokes message.id
      (((terminal.progress.lookup message.id).map Progress.content).getD 0) message.content =
        .ok strokes) :
    terminal.draw ⟨taken, none⟩ message =
      (.ok (), (terminal.draft message).1,
        ⟨taken ++ bytes terminal.palette (terminal.draft message).2, none⟩) := by
  simp [draw, draft, write_unlimited, whole, forget, remember, endsLine, taken_append,
    Except.toOption]

/-! ## The strokes of a message -/

theorem utf8ByteSize_ofList_cons (character : Char) (rest : List Char) :
    (String.ofList (character :: rest)).utf8ByteSize =
      character.utf8Size + (String.ofList rest).utf8ByteSize := by
  simp [String.ofList_cons, String.utf8ByteSize_append]

theorem suffix_of_dropBytes {count : Nat} {text piece : List Char}
    (dropped : dropBytes count text = some piece) : piece <:+ text := by
  fun_induction dropBytes count text with
  | case1 text =>
      cases dropped
      exact List.suffix_rfl
  | case2 count =>
      cases dropped
      exact List.suffix_rfl
  | case3 count character rest small ih => exact (ih dropped).trans (List.suffix_cons _ _)
  | case4 count character rest large => cases dropped

theorem utf8ByteSize_le_of_dropBytes {count : Nat} {text : List Char}
    (dropped : dropBytes count text = some []) : (String.ofList text).utf8ByteSize ≤ count := by
  fun_induction dropBytes count text with
  | case1 text =>
      cases dropped
      exact Nat.zero_le 0
  | case2 count => exact Nat.zero_le _
  | case3 count character rest small ih =>
      have size := utf8ByteSize_ofList_cons character rest
      have fits := ih dropped
      omega
  | case4 count character rest large => cases dropped

section Concerns

variable {stroke : Stroke}

theorem eq_lineEnd_of_mem_startLine {atLineStart : Bool}
    (member : stroke ∈ startLine atLineStart) : stroke = .lineEnd := by
  rw [startLine] at member
  split at member
  · cases member
  · exact List.mem_singleton.mp member

theorem concerns_of_mem_logStrokes {atLineStart error : Bool} {entries : List String}
    (known : ∀ entry ∈ entries, entry ∈ message.logs)
    (member : stroke ∈ logStrokes message.id atLineStart error entries) :
    stroke.Concerns message := by
  induction entries generalizing atLineStart with
  | nil => cases member
  | cons entry rest ih =>
      rcases List.forall_mem_cons.mp known with ⟨first, others⟩
      rcases List.mem_append.mp member with ending | logged
      · rw [eq_lineEnd_of_mem_startLine ending]
        exact .lineEnd
      · rcases List.mem_cons.mp logged with rfl | later
        · exact .log _ first
        · exact ih others later

theorem concerns_of_mem_upperStrokes (terminal : Terminal)
    (member : stroke ∈ terminal.upperStrokes message) : stroke.Concerns message := by
  rcases List.mem_append.mp member with header | logged
  · split at header
    · cases header
    · rcases List.mem_append.mp header with ending | header
      · rw [eq_lineEnd_of_mem_startLine ending]
        exact .lineEnd
      · rw [List.mem_singleton.mp header]
        exact .header
  · exact concerns_of_mem_logStrokes (fun entry => List.mem_of_mem_drop) logged

theorem concerns_of_mem_contentStrokes {known : Nat} {strokes : List Stroke}
    (whole : contentStrokes message.id known message.content = .ok strokes)
    (member : stroke ∈ strokes) : stroke.Concerns message := by
  rw [contentStrokes] at whole
  split at whole
  · cases whole
    cases member
  · rename_i more
    split at whole
    · cases whole
    · rename_i piece dropped
      cases whole
      rw [List.mem_singleton.mp member]
      refine .content ?_ (suffix_of_dropBytes dropped)
      -- Nothing is left only of a content that has been written as a whole.
      rintro rfl
      have fits := utf8ByteSize_le_of_dropBytes dropped
      rw [String.ofList_toList] at fits
      exact more fits

theorem concerns_of_mem_draft (terminal : Terminal)
    (member : stroke ∈ (terminal.draft message).2) : stroke.Concerns message := by
  rcases List.mem_append.mp member with upper | added
  · exact concerns_of_mem_upperStrokes terminal upper
  · cases content : contentStrokes message.id
      (((terminal.progress.lookup message.id).map Progress.content).getD 0) message.content with
    | error failure =>
        rw [content] at added
        cases added
    | ok strokes =>
        rw [content] at added
        exact concerns_of_mem_contentStrokes content added

end Concerns

/-! ## Messages that have grown -/

theorem dropBytes_append (first rest : List Char) :
    dropBytes (String.ofList first).utf8ByteSize (first ++ rest) = some rest := by
  induction first with
  | nil => cases rest <;> simp [dropBytes]
  | cons character later ih =>
      have positive := character.utf8Size_pos
      rw [utf8ByteSize_ofList_cons, List.cons_append]
      generalize (String.ofList later).utf8ByteSize = left at ih ⊢
      cases total : character.utf8Size + left with
      | zero => omega
      | succ count =>
          have rest_left : count + 1 - character.utf8Size = left := by omega
          rw [dropBytes, if_pos (by omega), rest_left, ih]

/-- What is written of a content that has grown is what has been added to it. -/
theorem contentStrokes_of_prefix (id : MessageId) {old content : String}
    (grows : old.toList <+: content.toList) :
    contentStrokes id old.utf8ByteSize content =
      .ok (written id (content.toList.drop old.toList.length)) := by
  rcases grows with ⟨more, split⟩
  have whole : content = old ++ String.ofList more := by
    rw [← String.toList_inj, String.toList_append, String.toList_ofList, split]
  have dropped := dropBytes_append old.toList more
  rw [String.ofList_toList, split] at dropped
  rw [contentStrokes, dropped, ← split, List.drop_left, whole, String.utf8ByteSize_append]
  cases more with
  | nil => simp [written]
  | cons character rest =>
      have size := utf8ByteSize_ofList_cons character rest
      have positive := character.utf8Size_pos
      have more_left : ¬ old.utf8ByteSize + (String.ofList (character :: rest)).utf8ByteSize ≤
          old.utf8ByteSize := by
        omega
      rw [if_neg more_left, written, if_neg (List.cons_ne_nil _ _)]

@[simp]
theorem visible_startLine (atLineStart : Bool) : visible (startLine atLineStart) = [] := by
  cases atLineStart <;> rfl

@[simp]
theorem visible_headerStrokes (atLineStart : Bool) (message : Message) :
    visible (headerStrokes atLineStart message) =
      [.header message.id message.role message.images.length] := by
  rw [headerStrokes, visible_append, visible_startLine]
  rfl

@[simp]
theorem visible_logStrokes (id : MessageId) (atLineStart error : Bool) (entries : List String) :
    visible (logStrokes id atLineStart error entries) = logged id error entries := by
  induction entries generalizing atLineStart with
  | nil => rfl
  | cons entry rest ih =>
      rw [logStrokes, visible_append, visible_startLine, logged, ← ih true]
      simp [visible]

@[simp]
theorem visible_written (id : MessageId) (piece : List Char) :
    visible (written id piece) = written id piece := by
  rw [written]
  split <;> simp [visible]

/-- What a terminal remembers of the messages that it has shown. -/
def Remembers (terminal : Terminal) (shown : MessageId → Option Message) : Prop :=
  ∀ id, terminal.progress.lookup id = (shown id).map Message.progress

/-- Whether a message has come of the one that was shown with its number. -/
def Continues (shown : MessageId → Option Message) (message : Message) : Prop :=
  ∀ old, shown message.id = some old → old.Extends message

section Growth

variable {shown : MessageId → Option Message}

theorem contentStrokes_of_continues (remembers : terminal.Remembers shown)
    (continues : Continues shown message) :
    contentStrokes message.id
        (((terminal.progress.lookup message.id).map Progress.content).getD 0) message.content =
      .ok (written message.id
        (message.content.toList.drop
          ((shown message.id).elim 0 fun old => old.content.toList.length))) := by
  rw [remembers]
  cases known : shown message.id with
  | none =>
      have grows : "".toList <+: message.content.toList := List.nil_prefix
      simpa using contentStrokes_of_prefix message.id grows
  | some old => exact contentStrokes_of_prefix message.id (continues old known).content

/-- Apart from line ends, the draft of a message consists of what is new. -/
theorem visible_draft (remembers : terminal.Remembers shown)
    (continues : Continues shown message) :
    visible (terminal.draft message).2 = news (shown message.id) message := by
  rw [draft]
  dsimp only
  rw [contentStrokes_of_continues remembers continues, upperStrokes, remembers]
  cases known : shown message.id with
  | none =>
      simp [news, Except.toOption]
  | some old =>
      simp [news, Except.toOption, Message.progress]

theorem lookup_filter_ne {progress : List (MessageId × Progress)} {id other : MessageId}
    (different : other ≠ id) :
    (progress.filter fun entry => entry.1 ≠ id).lookup other = progress.lookup other := by
  induction progress with
  | nil => rfl
  | cons entry rest ih =>
      rcases entry with ⟨found, amount⟩
      by_cases removed : found = id
      · have skipped : (other == found) = false := by simp [removed, different]
        rw [List.filter_cons_of_neg (by simp [removed]), ih, List.lookup_cons, skipped]
      · rw [List.filter_cons_of_pos (by simp [removed]), List.lookup_cons, List.lookup_cons, ih]

theorem remembers_draft (remembers : terminal.Remembers shown)
    (continues : Continues shown message) :
    (terminal.draft message).1.Remembers (Function.update shown message.id (some message)) := by
  intro id
  by_cases same : id = message.id
  · subst same
    have most : max (((terminal.progress.lookup message.id).map Progress.content).getD 0)
        message.content.utf8ByteSize = message.content.utf8ByteSize := by
      rw [remembers]
      cases known : shown message.id with
      | none => simp
      | some old =>
          rcases (continues old known).content with ⟨more, split⟩
          have whole : message.content = old.content ++ String.ofList more := by
            rw [← String.toList_inj, String.toList_append, String.toList_ofList, split]
          simp [Message.progress, whole, String.utf8ByteSize_append]
    simp [draft, remember, most, Message.progress]
  · have skipped : (id == message.id) = false := by simp [same]
    rw [Function.update_of_ne same, ← remembers]
    simp only [draft, remember, forget, List.lookup_cons, skipped]
    exact lookup_filter_ne same

end Growth

end Terminal

end StreamingChat
