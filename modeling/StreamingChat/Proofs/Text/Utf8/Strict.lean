import StreamingChat.Proofs.Sequence
import StreamingChat.Proofs.Text.Utf8.Decoding
import StreamingChat.Text.Utf8.Strict

/-!
# Strict reading of written text

The bytes of a text are the encodings of its characters one after the other, and each encoding is a
lead byte with the bytes that complete its sequence. Reading them strictly meets no flaw and gives
the text back. Only the index, which tells where a flaw would be, depends on the lengths of the
encodings. Conversely, bytes that are read strictly are those of the text that is read: at every
byte the reading stands for the encodings of its characters and the piece that it holds back.
-/

namespace StreamingChat.Text.Utf8

theorem toList_loop (bytes : ByteArray) (index : Nat) (done : List UInt8) :
    ByteArray.toList.loop bytes index done = done.reverse ++ bytes.data.toList.drop index := by
  induction index, done using ByteArray.toList.loop.induct bytes with
  | case1 index done inside ih =>
      have next : bytes.data.toList.drop index =
          bytes.data[index] :: bytes.data.toList.drop (index + 1) :=
        List.drop_eq_getElem_cons (by simpa using inside)
      rw [ByteArray.toList.loop, if_pos inside, ih, next]
      simp [ByteArray.get!, inside]
  | case2 index done outside =>
      have nothing : bytes.data.toList.drop index = [] :=
        List.drop_of_length_le (by simpa using outside)
      rw [ByteArray.toList.loop, if_neg outside, nothing, List.append_nil]

theorem toList_toUTF8 (text : String) :
    text.toUTF8.toList = text.toList.flatMap String.utf8EncodeChar := by
  have written : text.toUTF8 = (text.toList.flatMap String.utf8EncodeChar).toByteArray := by
    rw [String.toUTF8_eq_toByteArray, ← String.utf8Encode_toList]
    rfl
  rw [ByteArray.toList, toList_loop, written, List.toList_data_toByteArray]
  rfl

/-- Bytes that complete a sequence are read as its character. -/
theorem foldlM_step_of_complete? {sequence : Unfinished} {rest : List UInt8} {character : Char}
    (completed : sequence.complete? rest = some character) (index taken : Nat)
    (characters : List Char) :
    ∃ next, rest.foldlM Reading.step ⟨some sequence, index, taken, characters⟩ =
      .ok ⟨none, next, 0, character :: characters⟩ := by
  induction rest generalizing sequence taken with
  | nil => cases completed
  | cons byte later ih =>
      rcases complete?_eq_some_iff.mp completed with ⟨_, _, split, accepted, ends⟩
      cases split
      -- Either the byte is the last one, or the others complete what it extends.
      rcases ends with ⟨last, rfl, rfl⟩ | ⟨more, notLast, completedLater⟩
      · refine ⟨index + taken + 1, ?_⟩
        simp [Reading.step, accepted, last, bind, Except.bind, pure, Except.pure]
      · have read : Reading.step ⟨some sequence, index, taken, characters⟩ byte =
            .ok ⟨some ⟨sequence.extend byte, 0x80, 0xBF, more⟩, index, taken + 1, characters⟩ := by
          simp [Reading.step, accepted, notLast]
        rcases ih completedLater (taken + 1) with ⟨next, later⟩
        refine ⟨next, ?_⟩
        rw [List.foldlM_cons, read]
        exact later

/-- The encoding of a character is read as that character. -/
theorem foldlM_step_utf8EncodeChar (character : Char) (index : Nat) (characters : List Char) :
    ∃ next, (String.utf8EncodeChar character).foldlM Reading.step ⟨none, index, 0, characters⟩ =
      .ok ⟨none, next, 0, character :: characters⟩ := by
  cases encoded : String.utf8EncodeChar character with
  | nil => exact absurd encoded String.utf8EncodeChar_ne_nil
  | cons byte rest =>
      rcases lead_of_utf8EncodeChar encoded with ⟨whole, rfl⟩ | ⟨sequence, begins, completed⟩
      · refine ⟨index + 1, ?_⟩
        simp [Reading.step, whole, bind, Except.bind, pure, Except.pure]
      · have read : Reading.step ⟨none, index, 0, characters⟩ byte =
            .ok ⟨some sequence, index, 1, characters⟩ := by
          simp [Reading.step, begins]
        rcases foldlM_step_of_complete? completed index 1 characters with ⟨next, later⟩
        refine ⟨next, ?_⟩
        rw [List.foldlM_cons, read]
        exact later

theorem foldlM_step_encoded (text : List Char) (index : Nat) (characters : List Char) :
    ∃ next, (text.flatMap String.utf8EncodeChar).foldlM Reading.step
        ⟨none, index, 0, characters⟩ =
      .ok ⟨none, next, 0, text.reverse ++ characters⟩ := by
  induction text generalizing index characters with
  | nil => exact ⟨index, rfl⟩
  | cons character rest ih =>
      rcases foldlM_step_utf8EncodeChar character index characters with ⟨middle, first⟩
      rcases ih middle (character :: characters) with ⟨next, later⟩
      refine ⟨next, ?_⟩
      rw [List.flatMap_cons, List.foldlM_append, first]
      simpa [bind, Except.bind] using later

/-- A text is read back from its bytes. -/
theorem decodeStrict_toUTF8 (text : String) : decodeStrict text.toUTF8.toList = .ok text := by
  rcases foldlM_step_encoded text.toList 0 [] with ⟨next, read⟩
  rw [List.append_nil] at read
  rw [decodeStrict, toList_toUTF8, read]
  simp [bind, Except.bind]

/-! ## Strictly read bytes are written text -/

/-- The bytes that a strict reading has read. -/
inductive Reading.HasRead : Reading → List UInt8 → Prop where
  | boundary (index taken : Nat) (characters : List Char) :
      HasRead ⟨none, index, taken, characters⟩
        (characters.reverse.flatMap String.utf8EncodeChar)
  | inside {piece : List UInt8} {sequence : Unfinished} (holds : Holds piece sequence)
      (index taken : Nat) (characters : List Char) :
      HasRead ⟨some sequence, index, taken, characters⟩
        (characters.reverse.flatMap String.utf8EncodeChar ++ piece)

namespace Reading

variable {reading next : Reading} {bytes : List UInt8} {byte : UInt8}

theorem HasRead.step (hasRead : reading.HasRead bytes) (read : reading.step byte = .ok next) :
    next.HasRead (bytes ++ [byte]) := by
  cases hasRead with
  | boundary index taken characters =>
      rw [Reading.step] at read
      dsimp only at read
      split at read
      · rename_i character whole
        cases read
        rw [← utf8EncodeChar_of_whole whole]
        simpa using HasRead.boundary (index + 1) 0 (character :: characters)
      · rename_i sequence begins
        cases read
        exact .inside (.ofLead begins) index 1 characters
      · cases read
  | @inside piece sequence holds index taken characters =>
      rw [Reading.step] at read
      dsimp only at read
      split at read
      · rename_i accepted
        rw [List.append_assoc]
        rcases sequence with ⟨bits, low, high, _ | more⟩
        · cases read
          rw [← holds.utf8EncodeChar_extend rfl accepted]
          simpa using HasRead.boundary (index + taken + 1) 0 (_ :: characters)
        · cases read
          exact .inside (holds.next accepted) index (taken + 1) characters
      · cases read

theorem HasRead.foldlM {before : List UInt8} (hasRead : reading.HasRead before)
    (read : bytes.foldlM Reading.step reading = .ok next) : next.HasRead (before ++ bytes) := by
  induction bytes generalizing reading before with
  | nil =>
      cases read
      rwa [List.append_nil]
  | cons byte bytes ih =>
      rw [List.foldlM_cons] at read
      rcases exists_of_bind read with ⟨middle, first, later⟩
      simpa using ih (hasRead.step first) later

end Reading

/-- Bytes are read as a text only when they are those of the text. -/
theorem toUTF8_of_decodeStrict {bytes : List UInt8} {text : String}
    (read : decodeStrict bytes = .ok text) : text.toUTF8.toList = bytes := by
  rcases exists_of_bind read with ⟨final, readAll, ended⟩
  have hasRead := (Reading.HasRead.boundary 0 0 []).foldlM readAll
  rw [List.reverse_nil, List.flatMap_nil, List.nil_append] at hasRead
  cases hasRead with
  | boundary index taken characters =>
      cases ended
      rw [toList_toUTF8, String.toList_ofList]
  | inside => cases ended

theorem decodeStrict_eq_ok_iff {bytes : List UInt8} {text : String} :
    decodeStrict bytes = .ok text ↔ text.toUTF8.toList = bytes := by
  constructor
  · exact toUTF8_of_decodeStrict
  · rintro rfl
    exact decodeStrict_toUTF8 text

theorem toList_toUTF8_inj {first second : String} :
    first.toUTF8.toList = second.toUTF8.toList ↔ first = second := by
  rw [← decodeStrict_eq_ok_iff, decodeStrict_toUTF8, Except.ok.injEq, eq_comm]

theorem mem_of_decodeStrict {bytes : List UInt8} {text : String} {byte : UInt8}
    (read : decodeStrict bytes = .ok text) (ascii : byte < 0x80) (member : byte ∈ bytes) :
    Char.ofNat byte.toNat ∈ text.toList := by
  rw [← toUTF8_of_decodeStrict read, toList_toUTF8] at member
  rcases List.mem_flatMap.mp member with ⟨character, inside, encodes⟩
  rwa [← eq_of_mem_utf8EncodeChar ascii encodes]

end StreamingChat.Text.Utf8
