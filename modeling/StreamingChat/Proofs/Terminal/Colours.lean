import StreamingChat.Proofs.Terminal.Codes
import StreamingChat.Proofs.Terminal.Strokes

/-!
# Plain and coloured output

A terminal never looks at its palette: how a rendering ends, what the terminal remembers after it
and which strokes it writes are the same for every palette, also when a rendering fails. So a plain
terminal and a coloured one go in lockstep, and only the texts of single strokes are to be compared.
-/

namespace StreamingChat

open Text

/-! ## Strokes -/

/-- Whether the texts of a message have no escape character. -/
def Message.Unescaped (message : Message) : Prop :=
  Text.Unescaped message.content ∧ ∀ entry ∈ message.logs, Text.Unescaped entry

instance (message : Message) : Decidable message.Unescaped :=
  inferInstanceAs (Decidable (_ ∧ _))

namespace Stroke

/-- Whether what a stroke shows of a message has no escape character. -/
def Unescaped : Stroke → Prop
  | .lineEnd => True
  | .header _ _ _ => True
  | .log _ _ entry => Text.Unescaped entry
  | .content _ piece => Text.Unescaped piece

theorem Unescaped.tintsText {stroke : Stroke} (unescaped : stroke.Unescaped) :
    TintsText (stroke.text .coloured) (stroke.text .plain) := by
  cases stroke with
  | lineEnd => exact .of_unescaped (by decide)
  | header id role images => exact Palette.tintsText_headerText role images
  | log id failure entry => exact Palette.tintsText_logText failure unescaped
  | content id piece => exact .of_unescaped unescaped

theorem erase_bytes {strokes : List Stroke} (unescaped : ∀ stroke ∈ strokes, stroke.Unescaped) :
    Palette.coloured.erase (bytes .coloured strokes) = bytes .plain strokes := by
  have tints : Tints (bytes .coloured strokes) (bytes .plain strokes) := by
    induction strokes with
    | nil => exact .nil
    | cons stroke rest ih =>
        rcases List.forall_mem_cons.mp unescaped with ⟨first, later⟩
        have tints : Tints _ _ := first.tintsText
        exact tints.append (ih later)
  exact tints.erase_eq

end Stroke

namespace Terminal

open Stroke (bytes)

variable {message : Message} {stroke : Stroke}

theorem unescaped_of_concerns (unescaped : message.Unescaped) (concerns : stroke.Concerns message) :
    stroke.Unescaped := by
  cases concerns with
  | lineEnd => trivial
  | header => trivial
  | log failure member => exact unescaped.2 _ member
  | content nonempty part =>
      intro escaped
      rw [String.toList_ofList] at escaped
      exact unescaped.1 (part.subset escaped)

/-! ## Lockstep -/

/-- What a terminal does on an output without a limit, whatever its palette is: how that ends, the
terminal after it and the strokes that it writes, which have no escape character. -/
structure Performs (step : Terminal → Output → Except RenderFailure Unit × Terminal × Output)
    (terminal : Terminal) (result : Except RenderFailure Unit) (next : Terminal)
    (strokes : List Stroke) : Prop where
  unescaped : ∀ stroke ∈ strokes, stroke.Unescaped
  step_eq : ∀ palette taken, step { terminal with palette } ⟨taken, none⟩ =
    (result, { next with palette }, ⟨taken ++ bytes palette strokes, none⟩)

theorem exists_draw (terminal : Terminal) (unescaped : message.Unescaped) :
    ∃ result next strokes, Performs (draw · · message) terminal result next strokes := by
  have upper : ∀ stroke ∈ terminal.upperStrokes message, stroke.Unescaped := fun stroke member =>
    unescaped_of_concerns unescaped (concerns_of_mem_upperStrokes terminal member)
  cases content : contentStrokes message.id
    (((terminal.progress.lookup message.id).map Progress.content).getD 0) message.content with
  | error failure =>
      -- The upper strokes are written before the content turns out to be changed.
      refine ⟨.error failure, { terminal.forget message.id with
        atLineStart := endsLine terminal.atLineStart (terminal.upperStrokes message) },
        terminal.upperStrokes message, upper, fun palette taken => ?_⟩
      simp only [draw, write_unlimited, content]
      rfl
  | ok strokes =>
      exact ⟨.ok (), (terminal.draft message).1, (terminal.draft message).2,
        fun stroke member => unescaped_of_concerns unescaped
          (concerns_of_mem_draft terminal member),
        fun palette taken => draw_unlimited taken content⟩

theorem exists_drawAll (terminal : Terminal) {messages : List Message}
    (unescaped : ∀ message ∈ messages, message.Unescaped) :
    ∃ result next strokes, Performs (drawAll · · messages) terminal result next strokes := by
  induction messages generalizing terminal with
  | nil => exact ⟨.ok (), terminal, [], by simp, fun palette taken => by simp [drawAll, bytes]⟩
  | cons message rest ih =>
      rcases List.forall_mem_cons.mp unescaped with ⟨first, others⟩
      rcases exists_draw terminal first with ⟨result, next, strokes, drawn⟩
      cases result with
      | error failure =>
          exact ⟨.error failure, next, strokes, drawn.unescaped, fun palette taken => by
            simp only [drawAll, drawn.step_eq]⟩
      | ok =>
          rcases ih next others with ⟨final, last, more, later⟩
          refine ⟨final, last, strokes ++ more, ?_, fun palette taken => ?_⟩
          · exact List.forall_mem_append.mpr ⟨drawn.unescaped, later.unescaped⟩
          · simp only [drawAll, drawn.step_eq, later.step_eq, Stroke.bytes_append, taken_append]

theorem exists_render (terminal : Terminal) {snapshot : Snapshot}
    (unescaped : ∀ message ∈ snapshot.messages, message.Unescaped) :
    ∃ result next strokes, Performs (render · · snapshot) terminal result next strokes := by
  rcases exists_drawAll terminal unescaped with ⟨result, next, strokes, drawn⟩
  cases result with
  | error failure =>
      exact ⟨.error failure, next, strokes, drawn.unescaped, fun palette taken => by
        simp only [render, drawn.step_eq]⟩
  | ok =>
      let ending :=
        if next.wasLoading && !snapshot.loading then startLine next.atLineStart else []
      refine ⟨.ok (), { next with
        atLineStart := endsLine next.atLineStart ending
        wasLoading := snapshot.loading }, strokes ++ ending, ?_, fun palette taken => ?_⟩
      · refine List.forall_mem_append.mpr ⟨drawn.unescaped, fun stroke member => ?_⟩
        simp only [ending] at member
        split at member
        · rw [eq_lineEnd_of_mem_startLine member]
          trivial
        · cases member
      · simp only [render, drawn.step_eq, write_unlimited, Stroke.bytes_append, taken_append]
        rfl

/-! ## Plain and coloured terminals -/

/-- What rendering a snapshot comes to. -/
structure Rendering where
  result : Except RenderFailure Unit
  /-- The terminal after it. -/
  terminal : Terminal
  /-- The bytes that are written. -/
  written : List UInt8
  deriving DecidableEq

/-- A rendering on a plain terminal, made of one on a coloured terminal: the codes are deleted, and
the terminal remembers the same. -/
def Rendering.uncoloured (rendering : Rendering) : Rendering where
  result := rendering.result
  terminal := { rendering.terminal with palette := .plain }
  written := Palette.coloured.erase rendering.written

/-- Renders snapshots one after the other, each on an output of its own, and goes on also after
one that cannot be shown. -/
def renderEach (terminal : Terminal) : List Snapshot → List Rendering
  | [] => []
  | snapshot :: rest =>
      let (result, next, output) := terminal.render .unlimited snapshot
      ⟨result, next, output.taken.toList⟩ :: next.renderEach rest

theorem renderEach_uncoloured (terminal : Terminal) {snapshots : List Snapshot}
    (unescaped : ∀ snapshot ∈ snapshots, ∀ message ∈ snapshot.messages, message.Unescaped) :
    { terminal with palette := .plain }.renderEach snapshots =
      ({ terminal with palette := .coloured }.renderEach snapshots).map Rendering.uncoloured := by
  induction snapshots generalizing terminal with
  | nil => rfl
  | cons snapshot rest ih =>
      rcases List.forall_mem_cons.mp unescaped with ⟨first, others⟩
      rcases exists_render terminal first with ⟨result, next, strokes, rendered⟩
      simp [renderEach, Output.unlimited, rendered.step_eq, ih next others, Rendering.uncoloured,
        Stroke.erase_bytes rendered.unescaped]

/-- Plain and coloured output agree. Where no text of the messages has an escape character,
rendering any snapshots one after the other ends in the same way on both terminals each time,
deleting the colour codes from what the coloured one writes gives what the plain one writes, and
both terminals remember the same. -/
theorem colours_erased {snapshots : List Snapshot}
    (unescaped : ∀ snapshot ∈ snapshots, ∀ message ∈ snapshot.messages, message.Unescaped) :
    (start .plain).renderEach snapshots =
      ((start .coloured).renderEach snapshots).map Rendering.uncoloured :=
  renderEach_uncoloured (start .plain) unescaped

/-- An answer with a log entry that looks like the rest of a code and with the note of a failure,
and a last state in which what has been shown of its content ends inside a character. -/
theorem colours_erased_failed_answer :
    let prompt := Message.fresh ⟨1⟩ .user "Na?" [⟨"image/png", ""⟩] default
    let answer (content : String) (logs : List String) (error : Bool) : Message :=
      ⟨⟨2⟩, .assistant, content, logs, [], error, default⟩
    let snapshots : List Snapshot :=
      [⟨[prompt, answer "" [] false], true⟩, ⟨[prompt, answer "Jé" ["[0m"] false], true⟩,
        ⟨[prompt, answer "Jé" ["[0m", "off"] true], false⟩,
        ⟨[prompt, answer "abäc" ["[0m", "off"] true], false⟩]
    let coloured := (start .coloured).renderEach snapshots
    (∀ snapshot ∈ snapshots, ∀ message ∈ snapshot.messages, message.Unescaped) ∧
      (start .plain).renderEach snapshots = coloured.map Rendering.uncoloured ∧
      coloured.map Rendering.result = [.ok (), .ok (), .ok (), .error .insideCharacter] ∧
      coloured.map Rendering.written =
        ["\x1b[32m\x1b[1mYou:\x1b[0m \x1b[2m[1 image(s)]\x1b[0m Na?\n" ++
            "\x1b[36m\x1b[1mOswald:\x1b[0m ",
          "\n  \x1b[2m\x1b[3m· [0m\x1b[0m\nJé", "\n  \x1b[31m✗ off\x1b[0m\n", ""].map
            (·.toUTF8.toList) ∧
      (coloured.map Rendering.uncoloured).map Rendering.written =
        ["You: [1 image(s)] Na?\nOswald: ", "\n  · [0m\nJé", "\n  ✗ off\n", ""].map
          (·.toUTF8.toList) := by
  intro prompt answer snapshots coloured
  have unescaped : ∀ snapshot ∈ snapshots, ∀ message ∈ snapshot.messages, message.Unescaped := by
    decide +kernel
  exact ⟨unescaped, colours_erased unescaped, by decide +kernel, by decide +kernel,
    by decide +kernel⟩

end Terminal

end StreamingChat
