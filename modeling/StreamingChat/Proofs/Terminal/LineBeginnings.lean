import StreamingChat.Proofs.Terminal.LineStarts
import StreamingChat.Proofs.Terminal.Rendering

/-!
# Where headers and entries begin

A header and an entry of a log each begin a line: the terminal ends the line before them, and only
if there is one to be ended. `Placed` says this of strokes that follow an output of which it is known
whether it stands at the start of a line. Whatever a terminal writes of a message, of a snapshot or
of many is placed so; since the terminal knows where its output stands, this is a fact about the
bytes in front of each header, entry and line end.
-/

namespace StreamingChat

/-- Whether an output stands at the start of a line. -/
def AtLineStart (output : List UInt8) : Prop :=
  output = [] ∨ output.getLast? = some Text.Utf8.newline

open Stroke

namespace Stroke

/-- Whether a stroke has to begin a line. -/
def beginsLine : Stroke → Bool
  | .header _ _ _ => true
  | .log _ _ _ => true
  | _ => false

/-- Whether a stroke is in its place where an output stands at the start of a line, or does not. -/
def Fits (atLineStart : Bool) (stroke : Stroke) : Prop :=
  (stroke.beginsLine = true → atLineStart = true) ∧ (stroke = .lineEnd → atLineStart = false)

/-- Whether each of some strokes is in its place behind those before it. -/
def Placed (atLineStart : Bool) : List Stroke → Prop
  | [] => True
  | stroke :: rest => stroke.Fits atLineStart ∧ Placed stroke.endsLine rest

theorem placed_append (atLineStart : Bool) (first second : List Stroke) :
    Placed atLineStart (first ++ second) ↔
      Placed atLineStart first ∧ Placed (Terminal.endsLine atLineStart first) second := by
  induction first generalizing atLineStart with
  | nil => simp [Placed, Terminal.endsLine]
  | cons stroke rest ih =>
      rw [List.cons_append, Placed, ih, Placed, and_assoc]
      rfl

end Stroke

namespace Terminal

theorem placed_startLine (atLineStart : Bool) : Placed atLineStart (startLine atLineStart) := by
  cases atLineStart with
  | true => trivial
  | false => exact ⟨⟨Bool.noConfusion, fun _ => rfl⟩, trivial⟩

theorem endsLine_startLine (atLineStart : Bool) :
    endsLine atLineStart (startLine atLineStart) = true := by
  cases atLineStart <;> rfl

/-- What begins a line is in its place behind the end of the line before it. -/
theorem placed_startLine_append (atLineStart : Bool) {stroke : Stroke} {rest : List Stroke}
    (begins : stroke.beginsLine = true) (placed : Placed stroke.endsLine rest) :
    Placed atLineStart (startLine atLineStart ++ stroke :: rest) := by
  rw [placed_append, endsLine_startLine]
  refine ⟨placed_startLine atLineStart, ⟨fun _ => rfl, ?_⟩, placed⟩
  rintro rfl
  cases begins

theorem placed_headerStrokes (atLineStart : Bool) (message : Message) :
    Placed atLineStart (headerStrokes atLineStart message) :=
  placed_startLine_append atLineStart rfl trivial

theorem placed_logStrokes (id : MessageId) (atLineStart error : Bool) (entries : List String) :
    Placed atLineStart (logStrokes id atLineStart error entries) := by
  induction entries generalizing atLineStart with
  | nil => trivial
  | cons entry rest ih => exact placed_startLine_append atLineStart rfl (ih true)

theorem placed_contentStrokes (atLineStart : Bool) (id : MessageId) (known : Nat)
    (content : String) :
    Placed atLineStart ((contentStrokes id known content).toOption.getD []) := by
  rw [contentStrokes]
  split
  · trivial
  · cases dropBytes known content.toList with
    | none => trivial
    | some piece =>
        refine ⟨⟨fun begins => ?_, fun same => ?_⟩, trivial⟩
        · cases begins
        · cases same

theorem placed_draft (terminal : Terminal) (message : Message) :
    Placed terminal.atLineStart (terminal.draft message).2 := by
  rw [draft]
  dsimp only
  rw [placed_append, upperStrokes, placed_append]
  refine ⟨⟨?_, placed_logStrokes _ _ _ _⟩, placed_contentStrokes _ _ _ _⟩
  split
  · trivial
  · exact placed_headerStrokes _ message

/-- Strokes that are in their places after every step are so after every run. -/
theorem placed_run {α : Type} {machine : Transducer Terminal α Stroke}
    (atLineStart : ∀ terminal symbol, (machine.step terminal symbol).1.atLineStart =
      endsLine terminal.atLineStart (machine.step terminal symbol).2)
    (step : ∀ terminal symbol, Placed terminal.atLineStart (machine.step terminal symbol).2)
    (terminal : Terminal) (input : List α) :
    Placed terminal.atLineStart (machine.run terminal input).2 := by
  induction input generalizing terminal with
  | nil => rw [Transducer.run_nil]; trivial
  | cons symbol rest ih =>
      rw [Transducer.run_cons, placed_append, ← atLineStart]
      exact ⟨step terminal symbol, ih _⟩

theorem placed_display (terminal : Terminal) (snapshot : Snapshot) :
    Placed terminal.atLineStart (terminal.display snapshot).2 := by
  have drawn : Placed terminal.atLineStart (messageWriter.run terminal snapshot.messages).2 :=
    placed_run (fun _ _ => rfl) placed_draft terminal snapshot.messages
  rw [display, placed_append, ← atLineStart_run_messageWriter]
  refine ⟨drawn, ?_⟩
  split
  · exact placed_startLine _
  · trivial

/-- Strokes leave an output at the start of a line exactly when they say so. -/
theorem endsLine_eq_true_iff (palette : Palette) {strokes : List Stroke}
    (written : ∀ stroke ∈ strokes, stroke.Writes) :
    endsLine true strokes = true ↔ AtLineStart (bytes palette strokes) := by
  rcases List.eq_nil_or_concat' strokes with rfl | ⟨front, last, rfl⟩
  · exact iff_of_true rfl (.inl rfl)
  · have given : front ++ [last] ≠ [] := by simp
    rw [← getLast?_bytes_iff palette given written true, AtLineStart, iff_or_self]
    intro nothing
    rw [bytes_append] at nothing
    exact absurd (List.append_eq_nil_iff.mp nothing).2
      ((written last (by simp)).bytes_ne_nil palette)

/-- Whatever states of a growing conversation a terminal has been shown, it says rightly whether its
output stands at the start of a line. Every header and every entry of a log begins a line, and a line
is only ended where one has begun, so that no empty line comes in front of them. -/
theorem lines_begun (palette : Palette) {snapshots : List Snapshot}
    (states : snapshots.Pairwise fun first second => Message.Grown first.messages second.messages)
    (unique : ∀ snapshot ∈ snapshots, (snapshot.messages.map Message.id).Nodup) :
    let shown := snapshotWriter.run (start palette) snapshots
    (start palette).renderAll .unlimited snapshots =
        (.ok (), shown.1, ⟨(bytes palette shown.2).toArray, none⟩) ∧
      (shown.1.atLineStart = true ↔ AtLineStart (bytes palette shown.2)) ∧
      ∀ before stroke after, shown.2 = before ++ stroke :: after →
        (stroke.beginsLine = true → AtLineStart (bytes palette before)) ∧
          (stroke = .lineEnd → ¬AtLineStart (bytes palette before)) := by
  intro shown
  have written : ∀ stroke ∈ shown.2, stroke.Writes :=
    forall_writes_run writes_of_mem_display (start palette) snapshots
  have placed : Placed true shown.2 :=
    placed_run atLineStart_display placed_display (start palette) snapshots
  have stands : shown.1.atLineStart = endsLine true shown.2 :=
    atLineStart_run atLineStart_display (start palette) snapshots
  refine ⟨?_, ?_, ?_⟩
  · rcases List.eq_nil_or_concat' snapshots with rfl | ⟨earlier, last, rfl⟩
    · rfl
    · exact (renderAll_of_states palette states (unique last (by simp))).1
  · rw [stands]
    exact endsLine_eq_true_iff palette written
  · intro before stroke after split
    rw [split] at written placed
    have fits := ((placed_append true before (stroke :: after)).mp placed).2.1
    have begun := endsLine_eq_true_iff palette
      fun stroke member => written stroke (List.mem_append_left _ member)
    rw [← begun, Bool.not_eq_true]
    exact fits

/-- An answer whose first piece ends its line and whose note, of two lines, comes later. -/
theorem lines_begun_between_pieces :
    let prompt := Message.fresh ⟨1⟩ .user "Na?" [] default
    let answer (content : String) (logs : List String) : Message :=
      ⟨⟨2⟩, .assistant, content, logs, [], false, default⟩
    let snapshots : List Snapshot :=
      [⟨[prompt, answer "Ja.\n" []], true⟩, ⟨[prompt, answer "Ja.\nNein" ["a\nb"]], true⟩,
        ⟨[prompt, answer "Ja.\nNein" ["a\nb", "c"]], false⟩]
    let shown := snapshotWriter.run (start .plain) snapshots
    (snapshots.Pairwise fun first second => Message.Grown first.messages second.messages) ∧
      (∀ snapshot ∈ snapshots, (snapshot.messages.map Message.id).Nodup) ∧
      (start .plain).renderAll .unlimited snapshots =
        (.ok (), shown.1, ⟨(bytes .plain shown.2).toArray, none⟩) ∧
      bytes .plain shown.2 =
        "You: Na?\nOswald: Ja.\n  · a\nb\nNein\n  · c\n".toUTF8.toList ∧
      AtLineStart (bytes .plain shown.2) := by
  intro prompt answer snapshots shown
  have grows {content later : String} {logs more : List String}
      (longer : content.toList <+: later.toList) (added : logs <+: more) :
      Message.Grown [prompt, answer content logs] [prompt, answer later more] :=
    .kept (.refl prompt) (.kept ⟨rfl, rfl, rfl, rfl, longer, added, fun raised => raised⟩ (.refl []))
  have states : snapshots.Pairwise fun first second =>
      Message.Grown first.messages second.messages := by
    simp only [snapshots, List.pairwise_cons, List.forall_mem_cons, List.not_mem_nil]
    exact ⟨⟨grows (by decide) (by decide), grows (by decide) (by decide), by simp⟩,
      ⟨grows (by decide) (by decide), by simp⟩, by simp, .nil⟩
  have unique : ∀ snapshot ∈ snapshots, (snapshot.messages.map Message.id).Nodup := by decide
  rcases lines_begun .plain states unique with ⟨rendered, stands, -⟩
  exact ⟨states, unique, rendered, by decide +kernel, stands.mp (by decide +kernel)⟩

end Terminal

end StreamingChat
