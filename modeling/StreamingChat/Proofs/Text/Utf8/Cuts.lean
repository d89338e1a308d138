import StreamingChat.Proofs.Text.Utf8.Chunks
import StreamingChat.Proofs.Text.Utf8.Lines

/-!
# Texts that are cut off

The bytes of a text may be cut off anywhere. What has arrived of them decodes to a front part of the
text, and to a U+FFFD behind it if the cut is inside a character.
-/

namespace StreamingChat.Text.Utf8

/-- The beginning of a character that is cut off: it has some of its bytes, and not all of them. -/
structure IsUnfinished (piece : List UInt8) : Prop where
  nonempty : piece ≠ []
  completable : ∃ character tail, tail ≠ [] ∧ String.utf8EncodeChar character = piece ++ tail

/-- A character that is cut off is one ill-formed piece. -/
theorem IsUnfinished.characters_eq {piece : List UInt8} (unfinished : IsUnfinished piece) :
    characters piece = [replacement] := by
  rcases unfinished.completable with ⟨character, tail, missing, encoded⟩
  rcases exists_holds encoded unfinished.nonempty missing with ⟨sequence, -, held⟩
  rw [characters_eq_readFrom, readFrom, held]
  rfl

theorem characters_utf8EncodeChar_append (character : Char) (rest : List UInt8) :
    characters (String.utf8EncodeChar character ++ rest) = character :: characters rest :=
  readFrom_utf8EncodeChar character rest

theorem characters_nil : characters [] = [] := by
  simp [characters, flush]

theorem characters_eq_nil_iff {bytes : List UInt8} : characters bytes = [] ↔ bytes = [] := by
  constructor
  · intro nothing
    have decodes := decodes_iff.mpr nothing.symm
    cases decodes
    rfl
  · rintro rfl
    exact characters_nil

theorem run_encoded (text : List Char) :
    reader.run none (text.flatMap String.utf8EncodeChar) = (none, text) := by
  induction text with
  | nil => exact Transducer.run_nil _ _
  | cons character text ih =>
      rw [List.flatMap_cons, Transducer.run_append, run_utf8EncodeChar, ih, List.singleton_append]

theorem characters_encoded_append (text : List Char) (rest : List UInt8) :
    characters (text.flatMap String.utf8EncodeChar ++ rest) = text ++ characters rest := by
  rw [characters_eq_readFrom, readFrom_append, run_encoded, characters_eq_readFrom]

theorem characters_encoded (text : List Char) :
    characters (text.flatMap String.utf8EncodeChar) = text := by
  have whole := characters_encoded_append text []
  rwa [List.append_nil, characters_nil, List.append_nil] at whole

/-- A cut leaves some whole characters, and maybe the beginning of the next one. -/
theorem exists_take_of_prefix {text : List Char} {cut : List UInt8}
    (part : cut <+: text.flatMap String.utf8EncodeChar) :
    ∃ count rest, cut = (text.take count).flatMap String.utf8EncodeChar ++ rest ∧
      (rest = [] ∨ IsUnfinished rest) := by
  induction text generalizing cut with
  | nil =>
      rw [List.flatMap_nil, List.prefix_nil] at part
      exact ⟨0, [], by simpa using part, .inl rfl⟩
  | cons character text ih =>
      rcases part with ⟨more, split⟩
      rw [List.flatMap_cons] at split
      rcases List.append_eq_append_iff.mp split with
        ⟨tail, encoded, -⟩ | ⟨later, rfl, remains⟩
      · -- The cut is in the first character.
        by_cases missing : tail = []
        · exact ⟨1, [], by simp [encoded, missing], .inl rfl⟩
        · refine ⟨0, cut, by simp, ?_⟩
          by_cases nonempty : cut = []
          · exact .inl nonempty
          · exact .inr ⟨nonempty, character, tail, missing, encoded⟩
      · rcases ih ⟨more, remains.symm⟩ with ⟨count, rest, rfl, ends⟩
        exact ⟨count + 1, rest, by simp, ends⟩

theorem characters_of_prefix {text : List Char} {cut : List UInt8}
    (part : cut <+: text.flatMap String.utf8EncodeChar) :
    ∃ front, front <+: text ∧
      (characters cut = front ∨ characters cut = front ++ [replacement]) := by
  rcases exists_take_of_prefix part with ⟨count, rest, rfl, ends⟩
  refine ⟨text.take count, List.take_prefix _ _, ?_⟩
  rw [characters_encoded_append]
  rcases ends with rfl | unfinished
  · exact .inl (by rw [characters_nil, List.append_nil])
  · exact .inr (by rw [unfinished.characters_eq])

theorem newline_not_mem_encoded {text : List Char} (whole : '\n' ∉ text) :
    newline ∉ text.flatMap String.utf8EncodeChar := by
  intro member
  rcases List.mem_flatMap.mp member with ⟨character, among, inside⟩
  rw [eq_newline_of_mem_utf8EncodeChar inside] at among
  exact whole among

/-- A character that is whole, if it is no byte order mark, parts the text of a body. -/
theorem text_append_character {character : Char} (other : character ≠ byteOrderMark)
    (bytes later : List UInt8) :
    dropMark (characters (bytes ++ (String.utf8EncodeChar character ++ later))) =
      dropMark (characters bytes) ++ character :: characters later := by
  rw [characters_append_character, dropMark_append]
  split
  · rename_i nothing
    rw [nothing]
    exact if_neg other
  · rfl

theorem text_append_newline (bytes later : List UInt8) :
    dropMark (characters (bytes ++ newline :: later)) =
      dropMark (characters bytes) ++ '\n' :: characters later := by
  have cut := text_append_character (by decide : '\n' ≠ byteOrderMark) bytes later
  rwa [utf8EncodeChar_newline, List.singleton_append] at cut

/-! ## The last line of a body -/

/-- Bytes behind which a line begins: none, a byte order mark, or what ends with a newline. -/
inductive EndsLine : List UInt8 → Prop where
  | nothing : EndsLine []
  | mark : EndsLine (String.utf8EncodeChar byteOrderMark)
  | newline (earlier : List UInt8) : EndsLine (earlier ++ [newline])

theorem EndsLine.unterminated_text {before : List UInt8} (ends : EndsLine before) :
    unterminated (dropMark (characters before)) = [] := by
  cases ends with
  | nothing => decide
  | mark => decide
  | newline earlier =>
      rw [text_append_newline, unterminated_append_newline, characters_nil]
      rfl

theorem EndsLine.text_append {before later : List UInt8} (ends : EndsLine before)
    (noMark : dropMark (characters later) = characters later) :
    dropMark (characters (before ++ later)) =
      dropMark (characters before) ++ characters later := by
  cases ends with
  | nothing => rw [List.nil_append, noMark, characters_nil, dropMark, List.nil_append]
  | mark =>
      have own := characters_utf8EncodeChar_append byteOrderMark []
      rw [List.append_nil, characters_nil] at own
      rw [characters_utf8EncodeChar_append, own]
      simp [dropMark]
  | newline earlier =>
      rw [List.append_assoc, List.singleton_append, text_append_newline, text_append_newline,
        characters_nil, List.append_assoc, List.singleton_append]

/-- No other bytes are read as a character that does not stand for an ill-formed piece. -/
theorem eq_utf8EncodeChar_of_characters {bytes : List UInt8} {character : Char}
    (other : character ≠ replacement) (read : characters bytes = [character]) :
    bytes = String.utf8EncodeChar character := by
  have decodes := decodes_iff.mpr read.symm
  cases decodes with
  | character character rest =>
      cases rest
      exact List.append_nil _
  | stray strayed rest => exact absurd rfl other
  | cutOff nonempty begins incomplete maximal rest => exact absurd rfl other

/-- Exactly behind such bytes nothing of a line has been read. -/
theorem endsLine_iff {before : List UInt8} :
    EndsLine before ↔ unterminated (dropMark (characters before)) = [] := by
  refine ⟨EndsLine.unterminated_text, fun nothing => ?_⟩
  by_cases ended : Utf8.newline ∈ before
  · -- The bytes behind the last newline are none.
    rcases List.eq_append_cons_of_mem (List.mem_reverse.mpr ended) with ⟨after, earlier, split, last⟩
    have parted : before = earlier.reverse ++ Utf8.newline :: after.reverse := by
      simpa using congrArg List.reverse split
    have whole : '\n' ∉ characters after.reverse :=
      newline_not_mem_characters (by simpa using last)
    rw [parted, text_append_newline, unterminated_append_newline, unterminated_of_notMem whole,
      characters_eq_nil_iff] at nothing
    rw [parted, nothing]
    exact .newline _
  · have whole : '\n' ∉ dropMark (characters before) := by
      rw [← List.count_eq_zero, count_text, List.count_eq_zero]
      exact ended
    rw [unterminated_of_notMem whole] at nothing
    cases read : characters before with
    | nil =>
        rw [characters_eq_nil_iff.mp read]
        exact .nothing
    | cons first rest =>
        rw [read, dropMark] at nothing
        split at nothing
        · rename_i mark
          rw [mark, nothing] at read
          rw [eq_utf8EncodeChar_of_characters (by decide) read]
          exact .mark
        · cases nothing

end StreamingChat.Text.Utf8
