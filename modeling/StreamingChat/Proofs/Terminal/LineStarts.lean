import StreamingChat.Proofs.Terminal.Strokes
import StreamingChat.Proofs.Text.Utf8.Lines
import StreamingChat.Proofs.Text.Utf8.Strict

/-!
# Where the output stands

A terminal keeps track of whether its output stands at the start of a line. No stroke is empty, and
the last character of a stroke tells whether it ends a line, whatever the palette. What a terminal
has written therefore ends with a newline exactly when the terminal says so. A snapshot without an
active send ends its line if there was one in the snapshot shown before; otherwise its last message
decides.
-/

namespace StreamingChat

/-! ## Last characters -/

theorem Text.Utf8.getLast?_utf8EncodeChar_iff {character : Char} :
    (String.utf8EncodeChar character).getLast? = some newline ↔ character = '\n' := by
  constructor
  · intro ends
    exact eq_newline_of_mem_utf8EncodeChar (List.mem_of_getLast? ends)
  · rintro rfl
    rfl

theorem Text.getLast?_append_of_some (front : String) {back : String} {last : Char}
    (ends : back.toList.getLast? = some last) : (front ++ back).toList.getLast? = some last := by
  rw [String.toList_append, List.getLast?_append, ends]
  rfl

theorem Palette.getLast?_headerText (palette : Palette) (role : Role) (images : Nat) :
    (palette.headerText role images).toList.getLast? = some ' ' := by
  have space : " ".toList.getLast? = some ' ' := by decide
  cases role with
  | user =>
      rw [headerText]
      split
      · rw [String.append_empty]
        exact Text.getLast?_append_of_some _ space
      · exact Text.getLast?_append_of_some _ (Text.getLast?_append_of_some _ space)
  | assistant => exact Text.getLast?_append_of_some _ space

theorem Palette.getLast?_logText (palette : Palette) (failure : Bool) (entry : String) :
    (palette.logText failure entry).toList.getLast? = some '\n' := by
  have newline : "\n".toList.getLast? = some '\n' := by decide
  rw [logText]
  split <;> exact Text.getLast?_append_of_some _ newline

namespace Stroke

/-- Whether a stroke writes anything, which only a piece of content could fail to do. -/
def Writes : Stroke → Prop
  | .content _ piece => piece ≠ ""
  | _ => True

/-- A stroke has a last character, and ends a line when that is a newline. -/
theorem Writes.exists_last {stroke : Stroke} (writes : stroke.Writes) (palette : Palette) :
    ∃ front last, (stroke.text palette).toList = front ++ [last] ∧
      (last = '\n' ↔ stroke.endsLine = true) := by
  cases stroke with
  | lineEnd => exact ⟨[], '\n', (by decide : "\n".toList = ['\n']), iff_of_true rfl rfl⟩
  | header id role images =>
      rcases List.getLast?_eq_some_iff.mp (palette.getLast?_headerText role images) with
        ⟨front, split⟩
      exact ⟨front, ' ', split, iff_of_false (by decide) Bool.false_ne_true⟩
  | log id failure entry =>
      rcases List.getLast?_eq_some_iff.mp (palette.getLast?_logText failure entry) with
        ⟨front, split⟩
      exact ⟨front, '\n', split, iff_of_true rfl rfl⟩
  | content id piece =>
      rcases List.eq_nil_or_concat' piece.toList with nothing | ⟨front, last, split⟩
      · exact absurd (String.toList_eq_nil_iff.mp nothing) writes
      · exact ⟨front, last, split, by simp [endsLine, split]⟩

/-- The last byte of a stroke is one of its last character. -/
theorem Writes.exists_bytes {stroke : Stroke} (writes : stroke.Writes) (palette : Palette) :
    ∃ front last, bytes palette [stroke] = front ++ String.utf8EncodeChar last ∧
      (last = '\n' ↔ stroke.endsLine = true) := by
  rcases writes.exists_last palette with ⟨before, last, split, ends⟩
  refine ⟨before.flatMap String.utf8EncodeChar, last, ?_, ends⟩
  rw [bytes, List.flatMap_singleton, Text.Utf8.toList_toUTF8, split, List.flatMap_append,
    List.flatMap_singleton]

theorem Writes.bytes_ne_nil {stroke : Stroke} (writes : stroke.Writes) (palette : Palette) :
    bytes palette [stroke] ≠ [] := by
  rcases writes.exists_bytes palette with ⟨front, last, split, -⟩
  simp [split, String.utf8EncodeChar_ne_nil]

end Stroke

open Stroke

/-- Whether a message that is written as a whole ends a line: its content comes last, and the log
before it. -/
def Message.endsLine (message : Message) : Bool :=
  if message.content.toList = [] then !message.logs.isEmpty
  else message.content.toList.getLast? = some '\n'

namespace Terminal

variable {terminal : Terminal} {message : Message} {snapshot : Snapshot}

theorem endsLine_append (atLineStart : Bool) (first second : List Stroke) :
    endsLine atLineStart (first ++ second) = endsLine (endsLine atLineStart first) second :=
  List.foldl_append

/-- What is written by strokes ends with a newline exactly when the last of them ends a line. -/
theorem getLast?_bytes_iff (palette : Palette) {strokes : List Stroke} (nonempty : strokes ≠ [])
    (written : ∀ stroke ∈ strokes, stroke.Writes) (atLineStart : Bool) :
    (bytes palette strokes).getLast? = some Text.Utf8.newline ↔
      endsLine atLineStart strokes = true := by
  cases strokes using List.reverseRecOn with
  | nil => exact absurd rfl nonempty
  | append_singleton front stroke =>
      rcases (written stroke (by simp)).exists_bytes palette with ⟨before, last, split, ends⟩
      rw [bytes_append, split, ← List.append_assoc,
        List.getLast?_append_of_ne_nil _ String.utf8EncodeChar_ne_nil,
        Text.Utf8.getLast?_utf8EncodeChar_iff, ends, endsLine_append]
      rfl

/-! ## Drafts -/

theorem writes_of_concerns {stroke : Stroke} (concerns : stroke.Concerns message) :
    stroke.Writes := by
  cases concerns with
  | lineEnd => trivial
  | header => trivial
  | log failure member => trivial
  | content nonempty part =>
      intro nothing
      exact nonempty (by simpa using congrArg String.toList nothing)

theorem writes_of_mem_draft (terminal : Terminal) (message : Message) :
    ∀ stroke ∈ (terminal.draft message).2, stroke.Writes :=
  fun _ member => writes_of_concerns (concerns_of_mem_draft terminal member)

/-! ## Lines of messages and snapshots -/

theorem endsLine_headerStrokes (before atLineStart : Bool) (message : Message) :
    endsLine before (headerStrokes atLineStart message) = false := by
  rw [headerStrokes, endsLine_append]
  rfl

theorem endsLine_logStrokes (before atLineStart : Bool) (id : MessageId) (error : Bool)
    (entries : List String) :
    endsLine before (logStrokes id atLineStart error entries) = (before || !entries.isEmpty) := by
  induction entries generalizing before atLineStart with
  | nil => simp [logStrokes, endsLine]
  | cons entry rest ih =>
      have behind : endsLine before (logStrokes id atLineStart error (entry :: rest)) =
          endsLine true (logStrokes id true error rest) := by
        rw [logStrokes, endsLine_append]
        rfl
      simp [behind, ih]

theorem endsLine_written (before : Bool) (id : MessageId) (piece : List Char) :
    endsLine before (written id piece) =
      if piece = [] then before else decide (piece.getLast? = some '\n') := by
  rw [written]
  split
  · rfl
  · simp [endsLine, Stroke.endsLine]

/-- Of a message that has not been written yet, the content is written last. -/
theorem atLineStart_draft_of_new (new : terminal.progress.lookup message.id = none) :
    (terminal.draft message).1.atLineStart = message.endsLine := by
  have noContent : "".toList <+: message.content.toList := List.nil_prefix
  have content : contentStrokes message.id 0 message.content =
      .ok (written message.id message.content.toList) := by
    simpa using contentStrokes_of_prefix message.id noContent
  have drafted : (terminal.draft message).1.atLineStart =
      endsLine terminal.atLineStart (terminal.upperStrokes message ++
        written message.id message.content.toList) := by
    simp [draft, remember, new, content, Except.toOption]
  rw [drafted, upperStrokes, new, endsLine_append, endsLine_written, endsLine_append,
    endsLine_logStrokes]
  simp [Message.endsLine, endsLine_headerStrokes]

/-- A flag that every step leaves as its strokes end is left so by every run. -/
theorem atLineStart_run {α : Type} {machine : Transducer Terminal α Stroke}
    (step : ∀ terminal symbol, (machine.step terminal symbol).1.atLineStart =
      endsLine terminal.atLineStart (machine.step terminal symbol).2)
    (terminal : Terminal) (input : List α) :
    (machine.run terminal input).1.atLineStart =
      endsLine terminal.atLineStart (machine.run terminal input).2 := by
  induction input generalizing terminal with
  | nil => rw [Transducer.run_nil]; rfl
  | cons symbol rest ih => rw [Transducer.run_cons, ih, step, endsLine_append]

theorem forall_writes_run {α : Type} {machine : Transducer Terminal α Stroke}
    (step : ∀ terminal symbol, ∀ stroke ∈ (machine.step terminal symbol).2, stroke.Writes)
    (terminal : Terminal) (input : List α) :
    ∀ stroke ∈ (machine.run terminal input).2, stroke.Writes := by
  induction input generalizing terminal with
  | nil => simp
  | cons symbol rest ih =>
      intro stroke member
      rw [Transducer.run_cons] at member
      rcases List.mem_append.mp member with first | later
      · exact step terminal symbol stroke first
      · exact ih _ stroke later

theorem atLineStart_run_messageWriter (terminal : Terminal) (messages : List Message) :
    (messageWriter.run terminal messages).1.atLineStart =
      endsLine terminal.atLineStart (messageWriter.run terminal messages).2 :=
  atLineStart_run (fun _ _ => rfl) terminal messages

theorem atLineStart_display (terminal : Terminal) (snapshot : Snapshot) :
    (terminal.display snapshot).1.atLineStart =
      endsLine terminal.atLineStart (terminal.display snapshot).2 := by
  rw [display, endsLine_append, ← atLineStart_run_messageWriter]

theorem writes_of_mem_display (terminal : Terminal) (snapshot : Snapshot) :
    ∀ stroke ∈ (terminal.display snapshot).2, stroke.Writes := by
  intro stroke member
  rcases List.mem_append.mp member with drawn | ending
  · exact forall_writes_run writes_of_mem_draft terminal snapshot.messages stroke drawn
  · split at ending
    · rw [eq_lineEnd_of_mem_startLine ending]
      trivial
    · cases ending

/-- A terminal that has written anything says rightly whether it stands at the start of a line. -/
theorem getLast?_bytes_run_iff (palette : Palette) {terminal : Terminal}
    {snapshots : List Snapshot} (given : (snapshotWriter.run terminal snapshots).2 ≠ []) :
    (bytes palette (snapshotWriter.run terminal snapshots).2).getLast? =
        some Text.Utf8.newline ↔
      (snapshotWriter.run terminal snapshots).1.atLineStart = true := by
  rw [atLineStart_run atLineStart_display]
  exact getLast?_bytes_iff palette given (forall_writes_run writes_of_mem_display _ _) _

/-- Once a send is over that was active in the snapshot shown before, the line is ended. -/
theorem atLineStart_display_of_over (active : terminal.wasLoading = true)
    (isOver : snapshot.loading = false) : (terminal.display snapshot).1.atLineStart = true := by
  simp only [display, wasLoading_run_messageWriter, active, isOver, Bool.not_false, Bool.and_self,
    if_true]
  cases (messageWriter.run terminal snapshot.messages).1.atLineStart <;> rfl

theorem atLineStart_display_of_quiet (quiet : terminal.wasLoading = false) :
    (terminal.display snapshot).1.atLineStart =
      (messageWriter.run terminal snapshot.messages).1.atLineStart := by
  simp [display, quiet, endsLine]

theorem run_snapshotWriter_concat (terminal : Terminal) (earlier : List Snapshot)
    (last : Snapshot) :
    (snapshotWriter.run terminal (earlier ++ [last])).1 =
      ((snapshotWriter.run terminal earlier).1.display last).1 := by
  rw [Transducer.run_append, Transducer.run_cons, Transducer.run_nil]
  rfl

theorem wasLoading_run_snapshotWriter (terminal : Terminal) (snapshots : List Snapshot) :
    (snapshotWriter.run terminal snapshots).1.wasLoading =
      snapshots.getLast?.elim terminal.wasLoading Snapshot.loading := by
  cases snapshots using List.reverseRecOn with
  | nil => rw [Transducer.run_nil]; rfl
  | append_singleton earlier last =>
      rw [run_snapshotWriter_concat, List.getLast?_concat]
      rfl

end Terminal

end StreamingChat
