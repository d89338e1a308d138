import StreamingChat.Text.Lines

/-!
# Lines of a whole text

The lines of a whole text are what stands between its newlines. This file shows that the reader of
lines finds them, however the text is cut into pieces, and that a character which is no newline
completes no line. What is read at a place depends on the number of the lines and on the one at that
place alone (`getElem?_linesOf`).
-/

namespace StreamingChat.Text

theorem length_splitOn {α : Type} [DecidableEq α] (separator : α) (items : List α) :
    (items.splitOn separator).length = items.count separator + 1 := by
  induction items with
  | nil => simp
  | cons item rest ih =>
      rw [List.splitOn_cons_eq_if_modifyHead, List.count_cons]
      split
      · rw [List.length_cons, ih]
      · rw [List.length_modifyHead, ih, Nat.add_zero]

/-- No part that a list is cut into contains what it is cut at. -/
theorem not_mem_of_mem_splitOn {α : Type} [DecidableEq α] {separator : α} {items part : List α}
    (member : part ∈ items.splitOn separator) : separator ∉ part := by
  induction items generalizing part with
  | nil =>
      rw [List.splitOn_nil, List.mem_singleton] at member
      simp [member]
  | cons item rest ih =>
      rcases List.exists_cons_of_ne_nil (List.splitOn_ne_nil separator rest) with
        ⟨first, others, cut⟩
      rw [List.splitOn_cons_eq_if_modifyHead] at member
      rw [cut] at ih member
      split at member
      · rcases List.mem_cons.mp member with rfl | later
        · simp
        · exact ih later
      · rename_i other
        rcases List.mem_cons.mp member with rfl | later
        · intro inside
          rcases List.mem_cons.mp inside with rfl | inFirst
          · exact other BEq.rfl
          · exact ih List.mem_cons_self inFirst
        · exact ih (List.mem_cons_of_mem _ later)

/-- What stands before each newline of a text. -/
def completeLines (text : List Char) : List String :=
  (text.splitOn '\n').dropLast.map String.ofList

/-- What follows the last newline of a text. -/
def unterminated (text : List Char) : List Char :=
  (text.splitOn '\n').getLast (List.splitOn_ne_nil _ _)

/-- The lines that are read of a whole text: the complete ones, and the unterminated rest if it is
to be flushed and there is any. -/
def linesOf (flushes : Bool) (text : List Char) : List String :=
  completeLines text ++
    if flushes = true ∧ unterminated text ≠ [] then [String.ofList (unterminated text)] else []

theorem length_completeLines (text : List Char) :
    (completeLines text).length = text.count '\n' := by
  simp [completeLines, length_splitOn]

theorem linesOf_false (text : List Char) : linesOf false text = completeLines text := by
  simp [linesOf]

/-- Whether there is a line at a place depends on how many there are in all, and what it is on the
text between two newlines alone. -/
theorem getElem?_linesOf (flushes : Bool) (text : List Char) (place : Nat) :
    (linesOf flushes text)[place]? =
      ((text.splitOn '\n')[place]?.filter fun line =>
        place + 1 < (text.splitOn '\n').length ∨ flushes = true ∧ line ≠ []).map String.ofList := by
  have cut : (text.splitOn '\n').dropLast ++ [unterminated text] = text.splitOn '\n' :=
    List.dropLast_concat_getLast _
  rw [linesOf, completeLines]
  generalize (text.splitOn '\n').dropLast = lines at *
  rw [← cut]
  rcases Nat.lt_trichotomy place lines.length with before | rfl | beyond
  · simp [List.getElem?_append_left, before, Option.filter_some]
  · by_cases flushed : flushes = true ∧ unterminated text ≠ []
    · simp [flushed, Option.filter_some]
    · rw [if_neg flushed]
      simp [Option.filter_some, flushed]
  · rw [List.getElem?_eq_none, List.getElem?_eq_none]
    · rfl
    · rw [List.length_append]
      exact beyond
    · split <;> simp <;> omega

@[simp]
theorem lineReader_step (line : List Char) (character : Char) :
    lineReader.step line character = lineStep line character :=
  rfl

/-- The reader of lines has the beginning of the first line in its state, the last character
first. -/
theorem run_lineReader (line text : List Char) :
    lineReader.run line text =
      (((text.splitOnPPrepend (· == '\n') line).getLast
          (List.splitOnPPrepend_ne_nil _ _ _)).reverse,
        (text.splitOnPPrepend (· == '\n') line).dropLast.map String.ofList) := by
  induction text generalizing line with
  | nil => simp
  | cons character rest ih =>
      rw [Transducer.run_cons, ih]
      by_cases newline : character = '\n'
      · have nonempty := List.splitOnP_ne_nil (· == '\n') rest
        simp [lineStep, newline, List.splitOnPPrepend_cons_eq_if,
          List.dropLast_cons_of_ne_nil nonempty, List.getLast_cons nonempty]
      · simp [lineStep, newline, List.splitOnPPrepend_cons_eq_if]

theorem splitLines_eq (text : List Char) :
    splitLines text = (completeLines text, unterminated text) := by
  simp [splitLines, run_lineReader, completeLines, unterminated, List.splitOn_eq_splitOnP]

theorem splitLines_append (first second : List Char) :
    splitLines (first ++ second) =
      ((splitLines first).1 ++ (lineReader.run (lineReader.run [] first).1 second).2,
        (lineReader.run (lineReader.run [] first).1 second).1.reverse) := by
  simp only [splitLines, Transducer.run_append]

theorem completeLines_append_singleton {character : Char} (other : character ≠ '\n')
    (text : List Char) : completeLines (text ++ [character]) = completeLines text := by
  have appended := congrArg Prod.fst (splitLines_append text [character])
  simpa [splitLines_eq, Transducer.run_cons, lineStep, other] using appended

theorem unterminated_append_singleton {character : Char} (other : character ≠ '\n')
    (text : List Char) : unterminated (text ++ [character]) = unterminated text ++ [character] := by
  have appended := congrArg Prod.snd (splitLines_append text [character])
  have rest := congrArg Prod.snd (splitLines_eq text)
  simp only [splitLines] at rest
  simpa [splitLines_eq, Transducer.run_cons, lineStep, other, rest] using appended

/-- A newline completes the unterminated line, and what follows it is cut on its own. -/
theorem splitLines_append_newline (text later : List Char) :
    splitLines (text ++ '\n' :: later) =
      (completeLines text ++ String.ofList (unterminated text) :: completeLines later,
        unterminated later) := by
  have rest := congrArg Prod.snd (splitLines_eq text)
  have afterwards := splitLines_eq later
  simp only [splitLines] at rest afterwards
  rw [splitLines_append, splitLines_eq, Transducer.run_cons]
  simp only [lineReader_step, lineStep, if_true, rest, List.singleton_append]
  rw [(Prod.mk.inj afterwards).1, (Prod.mk.inj afterwards).2]

theorem unterminated_append_newline (text later : List Char) :
    unterminated (text ++ '\n' :: later) = unterminated later := by
  have cut := splitLines_append_newline text later
  rw [splitLines_eq] at cut
  exact congrArg Prod.snd cut

theorem linesOf_append_newline (flushes : Bool) (text later : List Char) :
    linesOf flushes (text ++ '\n' :: later) =
      completeLines text ++ String.ofList (unterminated text) :: linesOf flushes later := by
  have cut := splitLines_append_newline text later
  rw [splitLines_eq] at cut
  rw [linesOf, linesOf, (Prod.mk.inj cut).1, (Prod.mk.inj cut).2, List.append_assoc,
    List.cons_append]

theorem run_lineReader_of_notMem {text : List Char} (whole : '\n' ∉ text) (line : List Char) :
    lineReader.run line text = (text.reverse ++ line, []) := by
  induction text generalizing line with
  | nil => simp
  | cons character rest ih =>
      rw [List.mem_cons, not_or] at whole
      have kept : lineStep line character = (character :: line, []) := if_neg (Ne.symm whole.1)
      simp [Transducer.run_cons, kept, ih whole.2]

theorem unterminated_of_notMem {text : List Char} (whole : '\n' ∉ text) :
    unterminated text = text := by
  have read := congrArg Prod.snd (splitLines_eq text)
  rw [splitLines, run_lineReader_of_notMem whole] at read
  simpa using read.symm

/-- What follows a complete line is the unterminated line, as long as it has no newline. -/
theorem linesOf_append_of_unterminated {text last : List Char} (ends : unterminated text = [])
    (whole : '\n' ∉ last) :
    linesOf true (text ++ last) =
      linesOf true text ++ if last = [] then [] else [String.ofList last] := by
  have pending : (lineReader.run [] text).1 = [] := by
    have read := congrArg Prod.snd (splitLines_eq text)
    simpa [splitLines, ends] using read
  have appended := splitLines_append text last
  rw [pending, run_lineReader_of_notMem whole, splitLines_eq, splitLines_eq] at appended
  simp only [List.append_nil, List.reverse_reverse, Prod.mk.injEq] at appended
  rw [linesOf, linesOf, appended.1, appended.2, ends]
  by_cases empty : last = [] <;> simp [empty]

namespace Framer

/-- The framer that has read a text. -/
def after (text : List Char) : Framer :=
  ⟨(lineReader.run [] text).1⟩

/-- A framer hands out a line when the text so far has completed it, and never again. -/
theorem push_after (text piece : List Char) :
    ∃ lines, (after text).push (String.ofList piece) = (after (text ++ piece), lines) ∧
      completeLines (text ++ piece) = completeLines text ++ lines := by
  refine ⟨(lineReader.run (lineReader.run [] text).1 piece).2, ?_, ?_⟩
  · simp [push, after, Transducer.run_append]
  · have appended := congrArg Prod.fst (splitLines_append text piece)
    simpa only [splitLines_eq] using appended

theorem take_after (text : List Char) :
    (after text).take =
      (start,
        if unterminated text = [] then none else some (String.ofList (unterminated text))) := by
  have rest : (after text).line.reverse = unterminated text :=
    congrArg Prod.snd (splitLines_eq text)
  cases pending : (after text).line with
  | nil =>
      have empty : unterminated text = [] := by rw [← rest, pending, List.reverse_nil]
      have restarted : after text = start := by rw [start, ← pending]
      rw [take, if_pos (by rw [pending]; rfl), if_pos empty, restarted]
  | cons last line =>
      have nonempty : unterminated text ≠ [] := by
        rw [← rest, pending]
        simp
      rw [take, if_neg (by simp [pending]), if_neg nonempty, Framer.pending, rest]

end Framer

end StreamingChat.Text
