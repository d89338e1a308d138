import StreamingChat.Proofs.Event.Stream
import StreamingChat.Proofs.Text.Utf8.Lines

/-!
# Damage stays inside its line

Whatever the bytes of a line are, valid or not, they decide on the reading of that line alone. Each
newline of a body gives one reading as soon as it arrives, and the readings of the other lines and
their places do not depend on the damaged one, nor on the cuts between the chunks.
-/

namespace StreamingChat

open Text

/-- A body with other bytes in place of one of its lines. -/
def replaceLine (body : List UInt8) (place : Nat) (line : List UInt8) : List UInt8 :=
  [Utf8.newline].intercalate ((body.splitOn Utf8.newline).set place line)

variable {body line : List UInt8}

theorem splitOn_replaceLine (whole : Utf8.newline ∉ line) (place : Nat) :
    (replaceLine body place line).splitOn Utf8.newline =
      (body.splitOn Utf8.newline).set place line := by
  apply List.splitOn_intercalate
  · intro part member
    rcases List.mem_or_eq_of_mem_set member with old | rfl
    · exact not_mem_of_mem_splitOn old
    · exact whole
  · simp

theorem count_replaceLine (whole : Utf8.newline ∉ line) (place : Nat) :
    (replaceLine body place line).count Utf8.newline = body.count Utf8.newline := by
  have lines : ((replaceLine body place line).splitOn Utf8.newline).length = _ :=
    congrArg List.length (splitOn_replaceLine whole place)
  simpa [length_splitOn] using lines

/-- The other lines of the text stay what they are. -/
theorem linesOf_replaceLine (flushes : Bool) (whole : Utf8.newline ∉ line) {place other : Nat}
    (elsewhere : other ≠ place) :
    (linesOf flushes (Utf8.dropMark (Utf8.characters (replaceLine body place line))))[other]? =
      (linesOf flushes (Utf8.dropMark (Utf8.characters body)))[other]? := by
  simp [getElem?_linesOf, Utf8.splitOn_text, splitOn_replaceLine whole, List.getElem?_modifyHead,
    List.getElem?_set_ne elsewhere.symm]

namespace EventStream

theorem length_run_chunks (flushes : Bool) (chunks : List (List UInt8)) :
    (machine.run (start flushes) (chunks.map .chunk)).2.length =
      chunks.flatten.count Utf8.newline := by
  rw [run_machine_start_chunks, List.length_map, length_completeLines, Utf8.count_text]

/-- The end of a body that is not flushed completes no line. -/
theorem finish_run_chunks (chunks : List (List UInt8)) :
    (machine.run (start false) (chunks.map .chunk)).1.finish.2 = [] := by
  rcases finish_after false chunks.flatten with ⟨ended, lines, finished, -, split⟩
  rw [linesOf_false, completeLines_delivered] at split
  have nothing : lines = [] := by simpa using split
  rw [run_machine_start_chunks, finished, nothing]
  rfl

/-- Each newline of a body gives one reading as soon as it is fed, and without flushing the end gives
none. Other bytes in place of a line, in chunks that are cut elsewhere, leave the number of the
readings of complete lines and every other reading as they are. -/
theorem damage_contained (flushes : Bool) (chunks : List (List UInt8)) :
    (∀ count, (machine.run (start flushes) ((chunks.take count).map .chunk)).2.length =
      (chunks.take count).flatten.count Utf8.newline) ∧
    (flushes = false → (machine.run (start flushes) (chunks.map .chunk)).1.finish.2 = []) ∧
    ∀ (place : Nat) (line : List UInt8), Utf8.newline ∉ line → ∀ damaged : List (List UInt8),
      damaged.flatten = replaceLine chunks.flatten place line →
        (machine.run (start flushes) (damaged.map .chunk)).2.length =
            (machine.run (start flushes) (chunks.map .chunk)).2.length ∧
          ∀ other, other ≠ place →
            (machine.run (start flushes) (damaged.map .chunk ++ [.ended])).2[other]? =
              (machine.run (start flushes) (chunks.map .chunk ++ [.ended])).2[other]? := by
  refine ⟨fun count => length_run_chunks flushes _, ?_, ?_⟩
  · rintro rfl
    exact finish_run_chunks chunks
  · intro place line whole damaged replaced
    constructor
    · rw [length_run_chunks, length_run_chunks, replaced, count_replaceLine whole]
    · intro other elsewhere
      rcases run_machine_start_ended flushes chunks with ⟨_, run, -⟩
      rcases run_machine_start_ended flushes damaged with ⟨_, runDamaged, -⟩
      rw [run, runDamaged, replaced, List.getElem?_map, List.getElem?_map,
        linesOf_replaceLine flushes whole elsewhere]

/-- A byte order mark that breaks off at the end of the first line, and within it a chunk. -/
theorem damage_contained_broken_mark :
    let chunks := ["Hi\ndata: [DONE]\n".toUTF8.toList]
    let damaged := [[0xEF], 0xBB :: "\ndata: [DONE]".toUTF8.toList, [0x0A]]
    Utf8.newline ∉ [0xEF, 0xBB] ∧ damaged.flatten = replaceLine chunks.flatten 0 [0xEF, 0xBB] ∧
      (machine.run (start false) (damaged.map .chunk)).2.length = 2 ∧
      (machine.run (start false) (damaged.map .chunk ++ [.ended])).2[1]? = some .terminator := by
  intro chunks damaged
  have whole : Utf8.newline ∉ [0xEF, 0xBB] := by decide
  have replaced : damaged.flatten = replaceLine chunks.flatten 0 [0xEF, 0xBB] := by decide +kernel
  rcases damage_contained false chunks with ⟨-, -, contained⟩
  rcases contained 0 [0xEF, 0xBB] whole damaged replaced with ⟨count, others⟩
  refine ⟨whole, replaced, ?_, ?_⟩
  · rw [count]
    decide +kernel
  · rw [others 1 (by decide)]
    decide +kernel

end EventStream

end StreamingChat
