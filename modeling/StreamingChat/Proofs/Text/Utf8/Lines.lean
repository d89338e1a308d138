import StreamingChat.Proofs.Text.Lines
import StreamingChat.Proofs.Text.Utf8.Decoding

/-!
# Decoding and newlines

A byte that begins a character never goes on with another one, so that an ill-formed piece ends
before it at the latest and nothing of what stands before the byte is held back across it. Decoding
therefore commutes with cutting at any character that is whole. No encoding but that of a newline has
the byte 0x0A in it: the bytes between two newlines are decoded on their own, whatever they are. Only
the byte order mark is dropped at the front of the whole text.
-/

namespace StreamingChat.Text.Utf8

/-- The byte that encodes a newline. -/
def newline : UInt8 := 0x0A

theorem utf8EncodeChar_newline : String.utf8EncodeChar '\n' = [newline] := by
  decide

theorem eq_newline_of_mem_utf8EncodeChar {character : Char}
    (member : newline ∈ String.utf8EncodeChar character) : character = '\n' :=
  eq_of_mem_utf8EncodeChar (by decide) member

/-- A byte that begins a character does not go on with another one. -/
theorem not_beginsCharacter_append {piece : List UInt8} (nonempty : piece ≠ []) {character : Char}
    {byte : UInt8} {rest : List UInt8}
    (encoded : String.utf8EncodeChar character = byte :: rest) :
    ¬BeginsCharacter (piece ++ [byte]) := by
  rintro ⟨other, more, split⟩
  have isFirst : byte.IsUTF8FirstByte := by
    have first := @UInt8.isUTF8FirstByte_getElem_zero_utf8EncodeChar character
    simpa [encoded] using first
  rw [List.append_assoc, List.singleton_append] at split
  have inside : piece.length < (String.utf8EncodeChar other).length := by
    simp [← split]
  have there : (String.utf8EncodeChar other)[piece.length] = byte := by
    simp [← split]
  rw [← there, UInt8.isUTF8FirstByte_getElem_utf8EncodeChar, List.length_eq_zero_iff] at isFirst
  exact nonempty isFirst

variable {bytes later : List UInt8} {text more : List Char}

/-- What stands before a character is read as if it ended there. -/
theorem Decodes.append_character (before : Decodes bytes text) (character : Char)
    (after : Decodes later more) :
    Decodes (bytes ++ (String.utf8EncodeChar character ++ later))
      (text ++ character :: more) := by
  induction before with
  | nil => exact .character character after
  | character earlier rest ih =>
      rw [List.append_assoc]
      exact .character earlier ih
  | stray strayed rest ih => exact .stray strayed ih
  | @cutOff piece rest text nonempty begins incomplete maximal _ ih =>
      rw [List.append_assoc]
      refine .cutOff nonempty begins incomplete ?_ ih
      intro next isHead
      cases rest with
      | nil =>
          rcases List.exists_cons_of_ne_nil (String.utf8EncodeChar_ne_nil (c := character)) with
            ⟨first, others, encoded⟩
          rw [encoded] at isHead
          cases isHead
          exact not_beginsCharacter_append nonempty encoded
      | cons byte rest => exact maximal next isHead

theorem Decodes.newline_mem (decodes : Decodes bytes text) (member : '\n' ∈ text) :
    newline ∈ bytes := by
  have other : '\n' ≠ replacement := by decide
  induction decodes with
  | nil => cases member
  | character character rest ih =>
      rcases List.mem_cons.mp member with rfl | inLater
      · simp [utf8EncodeChar_newline]
      · exact List.mem_append_right _ (ih inLater)
  | stray strayed rest ih =>
      rcases List.mem_cons.mp member with same | inLater
      · exact absurd same other
      · exact List.mem_cons_of_mem _ (ih inLater)
  | cutOff nonempty begins incomplete maximal rest ih =>
      rcases List.mem_cons.mp member with same | inLater
      · exact absurd same other
      · exact List.mem_append_right _ (ih inLater)

theorem characters_append_character (bytes : List UInt8) (character : Char)
    (later : List UInt8) :
    characters (bytes ++ (String.utf8EncodeChar character ++ later)) =
      characters bytes ++ character :: characters later := by
  have before := decodes_iff.mpr (rfl : characters bytes = _)
  have after := decodes_iff.mpr (rfl : characters later = _)
  exact (decodes_iff.mp (before.append_character character after)).symm

theorem characters_append_newline (bytes later : List UInt8) :
    characters (bytes ++ newline :: later) = characters bytes ++ '\n' :: characters later := by
  have cut := characters_append_character bytes '\n' later
  rwa [utf8EncodeChar_newline, List.singleton_append] at cut

theorem newline_not_mem_characters (spared : newline ∉ bytes) : '\n' ∉ characters bytes := by
  intro member
  exact spared ((decodes_iff.mpr rfl).newline_mem member)

theorem characters_intercalate {lines : List (List UInt8)} (nonempty : lines ≠ []) :
    characters ([newline].intercalate lines) = ['\n'].intercalate (lines.map characters) := by
  induction lines with
  | nil => exact absurd rfl nonempty
  | cons line rest ih =>
      cases rest with
      | nil => simp
      | cons next rest =>
          rw [List.intercalate_cons_cons, List.append_assoc, List.singleton_append,
            characters_append_newline, ih (by simp)]
          simp

/-- The lines of a decoded text are the lines of bytes, each decoded on its own. -/
theorem splitOn_characters (bytes : List UInt8) :
    (characters bytes).splitOn '\n' = (bytes.splitOn newline).map characters := by
  have cut : [newline].intercalate (bytes.splitOn newline) = bytes := List.intercalate_splitOn _
  have nonempty := List.splitOn_ne_nil newline bytes
  conv_lhs => rw [← cut, characters_intercalate nonempty]
  apply List.splitOn_intercalate
  · intro line member
    rcases List.mem_map.mp member with ⟨bytesOfLine, among, rfl⟩
    exact newline_not_mem_characters (not_mem_of_mem_splitOn among)
  · simp

/-- A byte order mark is dropped from the first line. -/
theorem splitOn_dropMark (text : List Char) :
    (dropMark text).splitOn '\n' = (text.splitOn '\n').modifyHead dropMark := by
  cases text with
  | nil => rfl
  | cons first rest =>
      have other : byteOrderMark ≠ '\n' := by decide
      rcases List.exists_cons_of_ne_nil (List.splitOn_ne_nil '\n' rest) with ⟨line, lines, cut⟩
      by_cases mark : first = byteOrderMark
      · simp [dropMark, mark, List.splitOn_cons_eq_if_modifyHead, other, cut]
      · rw [dropMark, if_neg mark, List.splitOn_cons_eq_if_modifyHead, cut]
        split
        · rfl
        · simp [dropMark, mark]

/-- The lines of the text of a body, each of them from its own bytes. -/
theorem splitOn_text (bytes : List UInt8) :
    (dropMark (characters bytes)).splitOn '\n' =
      ((bytes.splitOn newline).map characters).modifyHead dropMark := by
  rw [splitOn_dropMark, splitOn_characters]

theorem count_text (bytes : List UInt8) :
    (dropMark (characters bytes)).count '\n' = bytes.count newline := by
  have lines := congrArg List.length (splitOn_text bytes)
  simpa [length_splitOn] using lines

end StreamingChat.Text.Utf8
