import Mathlib.Data.List.Infix
import StreamingChat.Proofs.Text.Utf8.Cuts
import StreamingChat.Proofs.Text.Utf8.Incremental
import StreamingChat.Proofs.Text.Utf8.Strict

/-!
# What a decoder holds back

A decoder hands out a character as soon as its last byte has come, and U+FFFD as soon as a byte has
come that cannot go on with what is held back. So what it holds back is the beginning of a character
at the end of the bytes, and there is at most one: a byte that begins a character is never accepted
within another one, so that the reader is at a boundary before it, whatever came earlier.

The invariant is `Keeps`, which says which bytes a state stands for. A state determines them, since
it accepts exactly what completes them (`Holds.eq`).
-/

namespace StreamingChat.Text.Utf8

namespace Holds

variable {piece other : List UInt8} {sequence : Unfinished}

theorem isUnfinished (holds : Holds piece sequence) : IsUnfinished piece where
  nonempty := holds.nonempty
  completable := by
    rcases holds.begins with ⟨character, tail, encoded⟩
    refine ⟨character, tail, ?_, encoded.symm⟩
    rintro rfl
    exact holds.incomplete character (by rw [← encoded, List.append_nil])

/-- A state holds back one piece only. -/
theorem eq (holds : Holds piece sequence) (otherHolds : Holds other sequence) : piece = other := by
  rcases holds.begins with ⟨character, rest, encoded⟩
  have completed := (holds.completes rest character).mp encoded.symm
  have otherEncoded := (otherHolds.completes rest character).mpr completed
  exact List.append_cancel_right (encoded.trans otherEncoded)

end Holds

namespace IsUnfinished

variable {piece : List UInt8}

theorem exists_holds (unfinished : IsUnfinished piece) :
    ∃ sequence, Holds piece sequence ∧ reader.run none piece = (some sequence, []) := by
  rcases unfinished.completable with ⟨character, tail, missing, encoded⟩
  exact Utf8.exists_holds encoded unfinished.nonempty missing

/-- The longest encoding has four bytes. -/
theorem length_le (unfinished : IsUnfinished piece) : piece.length ≤ 3 := by
  rcases unfinished.completable with ⟨character, tail, missing, encoded⟩
  have lengths := congrArg List.length encoded
  have atMost := character.utf8Size_le_four
  have some := List.length_pos_iff.mpr missing
  rw [String.length_utf8EncodeChar, List.length_append] at lengths
  omega

theorem not_prefix (unfinished : IsUnfinished piece) (character : Char) :
    ¬String.utf8EncodeChar character <+: piece := by
  rintro ⟨more, rfl⟩
  rcases unfinished.exists_holds with ⟨sequence, holds, -⟩
  have read := unfinished.characters_eq
  rw [characters_utf8EncodeChar_append, List.cons.injEq, characters_eq_nil_iff] at read
  rw [read.2, List.append_nil] at holds
  exact holds.incomplete character rfl

end IsUnfinished

/-! ## The invariant -/

/-- A state stands for some bytes that it holds back. -/
inductive Keeps : Option Unfinished → List UInt8 → Prop where
  | nothing : Keeps none []
  | piece {piece : List UInt8} {sequence : Unfinished} (holds : Holds piece sequence) :
      Keeps (some sequence) piece

variable {state : Option Unfinished} {held : List UInt8}

theorem Keeps.eq_nil_or_isUnfinished (keeps : Keeps state held) :
    held = [] ∨ IsUnfinished held := by
  cases keeps with
  | nothing => exact .inl rfl
  | piece holds => exact .inr holds.isUnfinished

/-- A byte that is held back goes on with what is held back already, or ends it. -/
theorem Keeps.step_eq_some (keeps : Keeps state held) {byte : UInt8} {sequence : Unfinished}
    (next : (step state byte).1 = some sequence) :
    (Holds (held ++ [byte]) sequence ∧ (step state byte).2 = []) ∨
      (Holds [byte] sequence ∧ (step state byte).2 = flush state) := by
  have begun {sequence : Unfinished} (next : (begin byte).1 = some sequence) :
      Holds [byte] sequence ∧ (begin byte).2 = [] := by
    cases said : lead byte with
    | whole character => simp [begin, said] at next
    | begins first =>
        simp only [begin, said, Option.some.injEq] at next ⊢
        exact ⟨next ▸ Holds.ofLead said, trivial⟩
    | wrong => simp [begin, said] at next
  cases keeps with
  | nothing => exact .inl (begun next)
  | @piece _ first holds =>
      by_cases accepted : first.accepts byte = true
      · rcases first with ⟨bits, low, high, _ | more⟩
        · simp [step, accepted] at next
        · simp only [step, accepted, if_true, Option.some.injEq] at next ⊢
          exact .inl ⟨next ▸ holds.next accepted, trivial⟩
      · simp only [step, if_neg accepted] at next ⊢
        rcases begun next with ⟨holdsByte, nothing⟩
        exact .inr ⟨holdsByte, by rw [nothing]; rfl⟩

/-- A byte that begins a character is read as at a boundary, except that it ends what is held
back. -/
theorem Keeps.step_of_first (keeps : Keeps state held) {character : Char} {byte : UInt8}
    {rest : List UInt8} (encoded : String.utf8EncodeChar character = byte :: rest) :
    (step state byte).1 = (step none byte).1 := by
  cases keeps with
  | nothing => rfl
  | @piece _ first holds =>
      have refused := not_beginsCharacter_append holds.nonempty encoded
      rw [holds.begins_append_iff] at refused
      simp only [step, if_neg refused]

/-- What has come out is the reading of all bytes but those that are held back. -/
theorem exists_keeps (bytes : List UInt8) :
    ∃ front held, bytes = front ++ held ∧ Keeps (reader.run none bytes).1 held ∧
      (reader.run none bytes).2 = characters front := by
  induction bytes using List.reverseRecOn with
  | nil => exact ⟨[], [], rfl, .nothing, by rw [characters_nil, Transducer.run_nil]⟩
  | append_singleton bytes byte ih =>
      rcases ih with ⟨front, held, split, keeps, given⟩
      have ran : reader.run none (bytes ++ [byte]) =
          ((step (reader.run none bytes).1 byte).1,
            (reader.run none bytes).2 ++ (step (reader.run none bytes).1 byte).2) := by
        simp [Transducer.run_append, Transducer.run_cons, reader]
      cases next : (step (reader.run none bytes).1 byte).1 with
      | none =>
          refine ⟨bytes ++ [byte], [], by simp, ?_, ?_⟩
          · rw [ran, next]
            exact .nothing
          · rw [characters_eq_readFrom, readFrom, ran, next]
            simp [flush]
      | some sequence =>
          rcases keeps.step_eq_some next with ⟨holds, nothing⟩ | ⟨holds, flushed⟩
          · refine ⟨front, held ++ [byte], by rw [split, List.append_assoc], ?_, ?_⟩
            · rw [ran, next]
              exact .piece holds
            · rw [ran, nothing, given, List.append_nil]
          · refine ⟨bytes, [byte], rfl, ?_, ?_⟩
            · rw [ran, next]
              exact .piece holds
            · rw [ran, flushed, characters_eq_readFrom, readFrom]

/-- The beginning of a character at the end of the bytes is held back. -/
theorem exists_holds_of_suffix (front : List UInt8) {tail : List UInt8}
    (unfinished : IsUnfinished tail) :
    ∃ sequence, Holds tail sequence ∧ (reader.run none (front ++ tail)).1 = some sequence := by
  rcases exists_keeps front with ⟨-, held, -, keeps, -⟩
  rcases unfinished.exists_holds with ⟨sequence, holds, ran⟩
  rcases unfinished.completable with ⟨character, missing, -, encoded⟩
  refine ⟨sequence, holds, ?_⟩
  cases tail with
  | nil => exact absurd rfl unfinished.nonempty
  | cons byte rest =>
      have boundary : (reader.step (reader.run none front).1 byte).1 = (reader.step none byte).1 :=
        keeps.step_of_first encoded
      rw [Transducer.run_cons] at ran
      rw [Transducer.run_append, Transducer.run_cons, boundary]
      exact congrArg Prod.fst ran

theorem Keeps.suffix_iff {bytes : List UInt8} (keeps : Keeps (reader.run none bytes).1 held)
    (behind : held <:+ bytes) (tail : List UInt8) :
    tail <:+ bytes ∧ IsUnfinished tail ↔ tail ≠ [] ∧ tail = held := by
  constructor
  · rintro ⟨⟨front, rfl⟩, unfinished⟩
    rcases exists_holds_of_suffix front unfinished with ⟨sequence, holds, reached⟩
    rw [reached] at keeps
    cases keeps with
    | piece heldHolds => exact ⟨unfinished.nonempty, holds.eq heldHolds⟩
  · rintro ⟨nonempty, rfl⟩
    exact ⟨behind, keeps.eq_nil_or_isUnfinished.resolve_left nonempty⟩

/-! ## Texts that are cut off -/

/-- A character has come as a whole when its last byte is among those that have come. -/
theorem lt_count_iff {text : List Char} {count : Nat} {rest : List UInt8}
    (part : (text.take count).flatMap String.utf8EncodeChar ++ rest <+:
      text.flatMap String.utf8EncodeChar)
    (ends : rest = [] ∨ IsUnfinished rest) {place : Nat} (inside : place < text.length) :
    place < count ↔ ((text.take (place + 1)).flatMap String.utf8EncodeChar).length ≤
      ((text.take count).flatMap String.utf8EncodeChar ++ rest).length := by
  constructor
  · intro before
    have earlier : text.take (place + 1) <+: text.take count :=
      List.take_prefix_take_left before
    have shorter := (earlier.flatMap String.utf8EncodeChar).length_le
    rw [List.length_append]
    omega
  · intro fits
    by_contra beyond
    have whole := List.prefix_of_prefix_length_le
      ((List.take_prefix (place + 1) text).flatMap String.utf8EncodeChar) part fits
    have first : text.take (count + 1) <+: text.take (place + 1) :=
      List.take_prefix_take_left (by omega)
    -- The next character is whole in the rest, which holds the beginning of one at most.
    have next := (first.flatMap String.utf8EncodeChar).trans whole
    rw [List.take_succ_eq_append_getElem (by omega), List.flatMap_append,
      List.prefix_append_right_inj, List.flatMap_singleton] at next
    rcases ends with rfl | unfinished
    · exact String.utf8EncodeChar_ne_nil (List.prefix_nil.mp next)
    · exact unfinished.not_prefix _ next

/-- The characters that have come out are those that have come as a whole. -/
theorem run_of_prefix {text : List Char} {cut : List UInt8}
    (part : cut <+: text.flatMap String.utf8EncodeChar) :
    ∃ count, (reader.run none cut).2 = text.take count ∧
      ∀ place < text.length, place < count ↔
        ((text.take (place + 1)).flatMap String.utf8EncodeChar).length ≤ cut.length := by
  rcases exists_take_of_prefix part with ⟨count, rest, rfl, ends⟩
  refine ⟨count, ?_, fun place inside => lt_count_iff part ends inside⟩
  have nothing : (reader.run none rest).2 = [] := by
    rcases ends with rfl | unfinished
    · rw [Transducer.run_nil]
    · rcases unfinished.exists_holds with ⟨sequence, -, ran⟩
      rw [ran]
  rw [Transducer.run_append, run_encoded, nothing, List.append_nil]

namespace Decoder

/-- The strings for the chunks so far are together what the bytes of the chunks determine. -/
theorem join_run_machine (chunks : List (List UInt8)) :
    String.join (machine.run start (chunks.map .chunk)).2 =
      String.ofList (delivered chunks.flatten) := by
  rcases run_machine_chunks [] chunks with ⟨pieces, run, handedOut⟩
  have nothing : delivered [] = [] := by simp [delivered, dropMark]
  rw [nothing, List.nil_append, List.nil_append] at handedOut
  rw [← after_nil, run, handedOut, String.ofList_toList]

/-- However the bytes are cut into chunks, what has been handed out of them is the text of all but
those at their end, three at most, that are the beginning of a character. Of a text whose bytes have
come in part, these are the characters that have come as a whole, without a byte order mark at their
front. -/
theorem delivers_all_but_unfinished (chunks : List (List UInt8)) :
    let bytes := chunks.flatten
    let given := String.join (machine.run start (chunks.map .chunk)).2
    (∀ others : List (List UInt8), others.flatten = bytes →
      String.join (machine.run start (others.map .chunk)).2 = given) ∧
    (∃ front held text, bytes = front ++ held ∧ held.length ≤ 3 ∧
      (∀ tail, tail <:+ bytes ∧ IsUnfinished tail ↔ tail ≠ [] ∧ tail = held) ∧
      Decodes front text ∧ given = String.ofList (dropMark text)) ∧
    ∀ whole : String, bytes <+: whole.toUTF8.toList →
      ∃ count, given = String.ofList (dropMark (whole.toList.take count)) ∧
        ∀ place < whole.toList.length, place < count ↔
          ((whole.toList.take (place + 1)).flatMap String.utf8EncodeChar).length ≤
            bytes.length := by
  intro bytes given
  have handedOut : given = String.ofList (delivered bytes) := join_run_machine chunks
  refine ⟨?_, ?_, ?_⟩
  · intro others same
    rw [handedOut, join_run_machine, same]
  · rcases exists_keeps bytes with ⟨front, held, split, keeps, read⟩
    refine ⟨front, held, characters front, split, ?_, keeps.suffix_iff ⟨front, split.symm⟩,
      decodes_iff.mpr rfl, ?_⟩
    · rcases keeps.eq_nil_or_isUnfinished with rfl | unfinished
      · exact Nat.zero_le 3
      · exact unfinished.length_le
    · rw [handedOut, delivered, read]
  · intro whole part
    rw [toList_toUTF8] at part
    rcases run_of_prefix part with ⟨count, read, arrived⟩
    exact ⟨count, by rw [handedOut, delivered, read], arrived⟩

/-- A byte order mark in two chunks, and a character that is cut off. -/
theorem delivers_all_but_unfinished_mark :
    let whole := "\uFEFFcaf\u00E9"
    let chunks : List (List UInt8) := [[0xEF, 0xBB], [0xBF, 0x63, 0x61], [], [0x66, 0xC3]]
    let others : List (List UInt8) := [[0xEF, 0xBB, 0xBF, 0x63, 0x61, 0x66, 0xC3]]
    let given := String.join (machine.run start (chunks.map .chunk)).2
    others.flatten = chunks.flatten ∧ chunks.flatten <+: whole.toUTF8.toList ∧
      IsUnfinished [0xC3] ∧ String.join (machine.run start (others.map .chunk)).2 = given ∧
      (∃ text, Decodes [0xEF, 0xBB, 0xBF, 0x63, 0x61, 0x66] text ∧
        given = String.ofList (dropMark text)) ∧
      given = "caf" := by
  intro whole chunks others given
  have same : others.flatten = chunks.flatten := rfl
  have part : chunks.flatten <+: whole.toUTF8.toList := by decide +kernel
  have unfinished : IsUnfinished [0xC3] := ⟨by simp, '\u00E9', [0xA9], by simp, by decide⟩
  rcases delivers_all_but_unfinished chunks with
    ⟨alike, ⟨front, held, text, split, -, behind, decodes, read⟩, arrives⟩
  refine ⟨same, part, unfinished, alike others same, ⟨text, ?_, read⟩, ?_⟩
  · have cutOff := (behind [0xC3]).mp ⟨⟨[0xEF, 0xBB, 0xBF, 0x63, 0x61, 0x66], rfl⟩, unfinished⟩
    rw [← cutOff.2] at split
    have first : [0xEF, 0xBB, 0xBF, 0x63, 0x61, 0x66] = front := List.append_cancel_right split
    rwa [first]
  · rcases arrives whole part with ⟨count, read, arrived⟩
    have four : count = 4 := by
      have third := (arrived 3 (by decide +kernel)).mpr (by decide +kernel)
      have fourth := mt (arrived 4 (by decide +kernel)).mp (by decide +kernel)
      omega
    rw [four] at read
    exact read.trans (by decide +kernel)

end Decoder

end StreamingChat.Text.Utf8
