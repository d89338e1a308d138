import StreamingChat.Proofs.Text.Lines

/-!
# Framing

A framer may be called in any order: to take in a piece of text, of which it hands out the lines
that the piece completes, and to give away what is pending. Nothing is lost in this and nothing is
added: what has been handed out, written down again, and what is pending make up the pieces. Between
two calls the pending text has no newline; this is what every call keeps.
-/

namespace StreamingChat.Text

/-! ## Lines written down again -/

theorem intercalate_concat {α : Type} (separator last : List α) (parts : List (List α)) :
    separator.intercalate (parts ++ [last]) = parts.flatMap (· ++ separator) ++ last := by
  induction parts with
  | nil => simp
  | cons part rest ih =>
      cases rest with
      | nil => simp
      | cons second others =>
          rw [List.cons_append, List.cons_append, List.intercalate_cons_cons, ← List.cons_append, ih]
          simp

/-- The lines of a text with their newlines, and what follows the last newline, are the text. -/
theorem join_completeLines (text : List Char) :
    String.join ((completeLines text).map (· ++ "\n")) ++ String.ofList (unterminated text) =
      String.ofList text := by
  have cut : (text.splitOn '\n').dropLast ++ [unterminated text] = text.splitOn '\n' :=
    List.dropLast_concat_getLast _
  have whole : ['\n'].intercalate (text.splitOn '\n') = text := List.intercalate_splitOn '\n'
  rw [← cut, intercalate_concat] at whole
  rw [← String.toList_inj, String.toList_append, String.toList_ofList, String.toList_ofList]
  rw [String.toList_join, completeLines, List.map_map, List.flatMap_map]
  simpa using whole

theorem newline_not_mem_completeLines {text : List Char} {line : String}
    (member : line ∈ completeLines text) : '\n' ∉ line.toList := by
  rcases List.mem_map.mp member with ⟨part, inside, rfl⟩
  rw [String.toList_ofList]
  exact not_mem_of_mem_splitOn (List.dropLast_subset _ inside)

theorem newline_not_mem_unterminated (text : List Char) : '\n' ∉ unterminated text :=
  not_mem_of_mem_splitOn (List.getLast_mem _)

/-! ## Calls -/

/-- What is asked of a framer. -/
inductive FramerCall where
  | push (piece : String)
  | take
  deriving DecidableEq, Repr

/-- The text that a call brings. -/
def FramerCall.piece : FramerCall → String
  | .push piece => piece
  | .take => ""

/-- What a framer hands out at a call. -/
inductive FramerAnswer where
  /-- The lines that a piece has completed. -/
  | completed (lines : List String)
  /-- The text that was pending, if any was. -/
  | taken (rest : Option String)
  deriving DecidableEq, Repr

namespace FramerAnswer

/-- The texts that are handed out. -/
def texts : FramerAnswer → List String
  | .completed lines => lines
  | .taken rest => rest.toList

/-- What is handed out, written down again: a line with its newline, and a rest as it is. -/
def written : FramerAnswer → String
  | .completed lines => String.join (lines.map (· ++ "\n"))
  | .taken rest => rest.getD ""

end FramerAnswer

namespace Framer

/-- Answers a call. -/
def answer (framer : Framer) : FramerCall → Framer × List FramerAnswer
  | .push piece =>
      let (framer, lines) := framer.push piece
      (framer, [.completed lines])
  | .take =>
      let (framer, rest) := framer.take
      (framer, [.taken rest])

/-- Framers as machines. -/
def machine : Transducer Framer FramerCall FramerAnswer := ⟨answer⟩

variable {framer : Framer}

theorem pending_after (text : List Char) :
    (after text).pending = String.ofList (unterminated text) :=
  congrArg String.ofList (congrArg Prod.snd (splitLines_eq text))

/-- Without a newline in it, the pending text is all that a framer has to know of its past. -/
theorem after_pending (whole : '\n' ∉ framer.pending.toList) :
    after framer.pending.toList = framer := by
  rw [after, run_lineReader_of_notMem whole]
  simp [pending]

theorem push_eq (whole : '\n' ∉ framer.pending.toList) (piece : String) :
    framer.push piece =
      (after (framer.pending.toList ++ piece.toList),
        completeLines (framer.pending.toList ++ piece.toList)) := by
  rcases push_after framer.pending.toList piece.toList with ⟨lines, pushed, completed⟩
  rw [after_pending whole, String.ofList_toList] at pushed
  have none : completeLines framer.pending.toList = [] := by
    rw [completeLines, List.splitOn_eq_singleton whole]
    rfl
  rw [pushed, completed, none, List.nil_append]

theorem take_eq (framer : Framer) :
    framer.take = (start, if framer.pending = "" then none else some framer.pending) := by
  rcases framer with ⟨_ | ⟨last, line⟩⟩
  · rfl
  · have given : (⟨last :: line⟩ : Framer).pending ≠ "" := by
      simp [pending, ← String.toList_inj]
    rw [if_neg given]
    rfl

theorem take_eq_none_iff (framer : Framer) : framer.take.2 = none ↔ framer.pending = "" := by
  rw [take_eq]
  by_cases nothing : framer.pending = "" <;> simp [nothing]

/-- A call loses nothing and adds nothing, and it leaves no newline in what is pending. -/
theorem step_of_whole (whole : '\n' ∉ framer.pending.toList) (call : FramerCall) :
    let step := machine.step framer call
    String.join (step.2.map FramerAnswer.written) ++ step.1.pending =
        framer.pending ++ call.piece ∧
      (∀ answer ∈ step.2, ∀ text ∈ answer.texts, '\n' ∉ text.toList) ∧
      '\n' ∉ step.1.pending.toList := by
  cases call with
  | push piece =>
      have stepped : machine.step framer (.push piece) =
          ((framer.push piece).1, [.completed (framer.push piece).2]) := rfl
      rw [stepped, push_eq whole]
      dsimp only
      rw [pending_after]
      refine ⟨?_, ?_, ?_⟩
      · have joined := join_completeLines (framer.pending.toList ++ piece.toList)
        rw [String.ofList_append, String.ofList_toList, String.ofList_toList] at joined
        simpa [FramerAnswer.written, FramerCall.piece] using joined
      · intro answer member text inside
        rw [List.mem_singleton.mp member] at inside
        exact newline_not_mem_completeLines inside
      · rw [String.toList_ofList]
        exact newline_not_mem_unterminated _
  | take =>
      have stepped : machine.step framer .take = (framer.take.1, [.taken framer.take.2]) := rfl
      rw [stepped, take_eq]
      refine ⟨?_, ?_, (by decide : '\n' ∉ start.pending.toList)⟩
      · have nothingLeft : start.pending = "" := rfl
        by_cases nothing : framer.pending = "" <;>
          simp [FramerAnswer.written, FramerCall.piece, nothing, nothingLeft]
      · intro answer member text inside
        rw [List.mem_singleton.mp member] at inside
        have taken : text = framer.pending := by
          by_cases nothing : framer.pending = ""
          · simp [FramerAnswer.texts, nothing] at inside
          · simpa [FramerAnswer.texts, nothing] using inside
        rwa [taken]

theorem run_of_whole (whole : '\n' ∉ framer.pending.toList) (calls : List FramerCall) :
    let run := machine.run framer calls
    String.join (run.2.map FramerAnswer.written) ++ run.1.pending =
        framer.pending ++ String.join (calls.map FramerCall.piece) ∧
      (∀ answer ∈ run.2, ∀ text ∈ answer.texts, '\n' ∉ text.toList) ∧
      '\n' ∉ run.1.pending.toList := by
  intro run
  induction calls generalizing framer with
  | nil => exact ⟨by simp [run], by simp [run], by simpa [run] using whole⟩
  | cons call rest ih =>
      rcases step_of_whole whole call with ⟨kept, texts, wholeNext⟩
      rcases ih wholeNext with ⟨keptRest, textsRest, wholeLast⟩
      have steps : run = _ := Transducer.run_cons machine framer call rest
      rw [steps]
      refine ⟨?_, ?_, wholeLast⟩
      · rw [List.map_append, String.join_append, String.append_assoc, keptRest,
          ← String.append_assoc, kept, List.map_cons, String.join_cons, String.append_assoc]
      · intro answer member
        rcases List.mem_append.mp member with first | later
        · exact texts answer first
        · exact textsRest answer later

/-- As long as nothing is taken, the framer is a reader of lines of all pieces together. -/
theorem run_of_pushes (framer : Framer) {calls : List FramerCall} (untaken : .take ∉ calls) :
    let run := machine.run framer calls
    let read := lineReader.run framer.line (String.join (calls.map FramerCall.piece)).toList
    run.1.line = read.1 ∧ run.2.flatMap FramerAnswer.texts = read.2 := by
  intro run read
  induction calls generalizing framer with
  | nil => simp [run, read]
  | cons call rest ih =>
      rw [List.mem_cons, not_or] at untaken
      cases call with
      | take => exact absurd rfl untaken.1
      | push piece =>
          rcases ih (framer.push piece).1 untaken.2 with ⟨line, texts⟩
          have stepped : machine.step framer (.push piece) =
              ((framer.push piece).1, [.completed (framer.push piece).2]) := rfl
          have steps : run = _ := Transducer.run_cons machine framer (.push piece) rest
          rw [stepped] at steps
          have pieces : (String.join ((FramerCall.push piece :: rest).map FramerCall.piece)).toList =
              piece.toList ++ (String.join (rest.map FramerCall.piece)).toList := by
            rw [List.map_cons, String.join_cons, String.toList_append, FramerCall.piece]
          have reads : read = _ :=
            (congrArg (lineReader.run framer.line) pieces).trans (Transducer.run_append _ _ _ _)
          rw [steps, reads]
          refine ⟨line, ?_⟩
          dsimp only
          rw [List.flatMap_append, texts, List.flatMap_singleton]
          rfl

/-- Whatever is asked of a framer, it loses nothing and adds nothing: what it has handed out, written
down again, and what is pending are the pieces together. No text that it hands out has a newline,
and it has nothing to give away exactly when nothing is pending. If nothing is ever taken, it hands
out what stands before the newlines of the text, whatever the pieces. -/
theorem framed_whole (calls : List FramerCall) :
    let run := machine.run start calls
    let text := String.join (calls.map FramerCall.piece)
    String.join (run.2.map FramerAnswer.written) ++ run.1.pending = text ∧
      (∀ answer ∈ run.2, ∀ line ∈ answer.texts, '\n' ∉ line.toList) ∧
      '\n' ∉ run.1.pending.toList ∧
      (run.1.take.2 = none ↔ run.1.pending = "") ∧
      (.take ∉ calls →
        run.2.flatMap FramerAnswer.texts ++ [run.1.pending] =
          (text.toList.splitOn '\n').map String.ofList) := by
  intro run text
  have nothing : start.pending = "" := rfl
  have whole : '\n' ∉ start.pending.toList := by decide
  rcases run_of_whole whole calls with ⟨kept, texts, wholeLast⟩
  rw [nothing, String.empty_append] at kept
  refine ⟨kept, texts, wholeLast, take_eq_none_iff _, fun untaken => ?_⟩
  rcases run_of_pushes start untaken with ⟨line, lines⟩
  have read : splitLines text.toList = (completeLines text.toList, unterminated text.toList) :=
    splitLines_eq _
  have pending : run.1.pending = String.ofList (unterminated text.toList) := by
    rw [Framer.pending, line]
    exact congrArg String.ofList (congrArg Prod.snd read)
  have cut : (text.toList.splitOn '\n').dropLast ++ [unterminated text.toList] =
      text.toList.splitOn '\n' := List.dropLast_concat_getLast _
  rw [lines, pending, ← cut, List.map_append, List.map_singleton]
  exact congrArg (· ++ _) (congrArg Prod.fst read)

/-- Three pieces, none of which ends where a line does. -/
theorem framed_whole_cut_anywhere :
    let calls : List FramerCall := [.push "on", .push "e\n\ntw", .push "o"]
    let run := machine.run start calls
    .take ∉ calls ∧
      run.2.flatMap FramerAnswer.texts ++ [run.1.pending] = ["one", "", "two"] := by
  intro calls run
  have untaken : .take ∉ calls := by decide
  rcases framed_whole calls with ⟨-, -, -, -, lines⟩
  exact ⟨untaken, (lines untaken).trans (by decide +kernel)⟩

end Framer

end StreamingChat.Text
