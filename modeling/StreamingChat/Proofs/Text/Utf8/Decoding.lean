import Mathlib.Data.List.Induction
import StreamingChat.Proofs.Text.Utf8.Sequence

/-!
# Decoding by maximal subparts

`Decodes` says what a whole byte sequence means without a decoder: it is cut into encodings of
characters and into ill-formed pieces, each of which is as long as it can be and stands for one
U+FFFD. By `decodes_iff` every byte sequence has exactly one such reading, and it is the one that
the decoder of bytes gives.

The invariant of the proof is `Holds`: a state that holds back some bytes accepts the bytes that
complete the encoding of a character which begins with them, and no others. The piece that is held
back when a byte does not fit is therefore a maximal one.
-/

namespace StreamingChat.Text.Utf8

/-- Whether the encoding of some character begins with these bytes. -/
def BeginsCharacter (piece : List UInt8) : Prop :=
  ∃ character : Char, piece <+: String.utf8EncodeChar character

/-- What a whole byte sequence means, with any byte order mark. -/
inductive Decodes : List UInt8 → List Char → Prop where
  | nil : Decodes [] []
  | character (character : Char) {rest : List UInt8} {text : List Char}
      (later : Decodes rest text) :
      Decodes (String.utf8EncodeChar character ++ rest) (character :: text)
  /-- A byte that begins no character is an ill-formed piece of its own. -/
  | stray {byte : UInt8} {rest : List UInt8} {text : List Char}
      (strayed : ¬BeginsCharacter [byte]) (later : Decodes rest text) :
      Decodes (byte :: rest) (replacement :: text)
  /-- The beginning of a character that is not completed is one ill-formed piece, as long as the
  next byte does not go on with it. -/
  | cutOff {piece rest : List UInt8} {text : List Char} (nonempty : piece ≠ [])
      (begins : BeginsCharacter piece)
      (incomplete : ∀ character, String.utf8EncodeChar character ≠ piece)
      (maximal : ∀ next ∈ rest.head?, ¬BeginsCharacter (piece ++ [next]))
      (later : Decodes rest text) :
      Decodes (piece ++ rest) (replacement :: text)

/-- All characters that a state gives for the rest of an input, and for its end. -/
def readFrom (state : Option Unfinished) (bytes : List UInt8) : List Char :=
  (reader.run state bytes).2 ++ flush (reader.run state bytes).1

@[simp]
theorem readFrom_nil (state : Option Unfinished) : readFrom state [] = flush state := by
  simp [readFrom]

theorem readFrom_cons (state : Option Unfinished) (byte : UInt8) (rest : List UInt8) :
    readFrom state (byte :: rest) =
      (step state byte).2 ++ readFrom (step state byte).1 rest := by
  simp [readFrom, Transducer.run_cons, reader]

theorem readFrom_append (state : Option Unfinished) (first second : List UInt8) :
    readFrom state (first ++ second) =
      (reader.run state first).2 ++ readFrom (reader.run state first).1 second := by
  simp [readFrom, Transducer.run_append]

theorem characters_eq_readFrom (bytes : List UInt8) : characters bytes = readFrom none bytes :=
  rfl

/-! ## What a state holds back -/

theorem exists_complete? (bits more : Nat) {low high : UInt8}
    (possible : low.toNat ≤ high.toNat) :
    ∃ rest character,
      (⟨bits, low, high, more⟩ : Unfinished).complete? rest = some character := by
  induction more generalizing bits low high with
  | zero =>
      exact ⟨[low], _, complete?_last_iff.mpr ⟨low, rfl, ⟨Nat.le_refl _, possible⟩, _, rfl, rfl⟩⟩
  | succ more ih =>
      have between : (0x80 : UInt8).toNat ≤ (0xBF : UInt8).toNat := by decide
      rcases ih (bits * 64 + (low.toNat - 0x80)) between with ⟨rest, character, completed⟩
      exact ⟨low :: rest, character,
        complete?_next_iff.mpr ⟨low, rest, rfl, ⟨Nat.le_refl _, possible⟩, completed⟩⟩

theorem low_le_high_of_lead {byte : UInt8} {sequence : Unfinished}
    (begins : lead byte = .begins sequence) : sequence.low.toNat ≤ sequence.high.toNat := by
  rw [lead_eq] at begins
  split at begins
  · cases begins
  split at begins
  · cases begins
  split at begins
  · simp only [Lead.begins.injEq] at begins
    subst begins
    exact show (0x80 : UInt8).toNat ≤ (0xBF : UInt8).toNat by decide
  split at begins
  · simp only [Lead.begins.injEq] at begins
    subst begins
    simp only [apply_ite UInt8.toNat, UInt8.reduceToNat]
    grind
  split at begins
  · simp only [Lead.begins.injEq] at begins
    subst begins
    simp only [apply_ite UInt8.toNat, UInt8.reduceToNat]
    grind
  · cases begins

/-- A state holds back a piece: what completes the one completes the other. -/
structure Holds (piece : List UInt8) (sequence : Unfinished) : Prop where
  nonempty : piece ≠ []
  possible : sequence.low.toNat ≤ sequence.high.toNat
  completes : ∀ rest character, String.utf8EncodeChar character = piece ++ rest ↔
    sequence.complete? rest = some character

namespace Holds

variable {piece : List UInt8} {sequence : Unfinished} {byte : UInt8}

theorem ofLead (begins : lead byte = .begins sequence) : Holds [byte] sequence where
  nonempty := by simp
  possible := low_le_high_of_lead begins
  completes := by
    intro rest character
    rw [List.singleton_append, utf8EncodeChar_eq_cons_iff, begins]
    simp

theorem next {bits more : Nat} {low high : UInt8}
    (holds : Holds piece ⟨bits, low, high, more + 1⟩)
    (accepted : (⟨bits, low, high, more + 1⟩ : Unfinished).accepts byte = true) :
    Holds (piece ++ [byte])
      ⟨(⟨bits, low, high, more + 1⟩ : Unfinished).extend byte, 0x80, 0xBF, more⟩ where
  nonempty := by simp
  possible := show (0x80 : UInt8).toNat ≤ (0xBF : UInt8).toNat by decide
  completes := by
    intro rest character
    rw [List.append_assoc, List.singleton_append, holds.completes, Unfinished.complete?,
      if_pos accepted]

theorem incomplete (holds : Holds piece sequence) (character : Char) :
    String.utf8EncodeChar character ≠ piece := by
  intro same
  have completed := (holds.completes [] character).mp (by simpa using same)
  simp [Unfinished.complete?] at completed

theorem begins (holds : Holds piece sequence) : BeginsCharacter piece := by
  rcases sequence with ⟨bits, low, high, more⟩
  rcases exists_complete? bits more holds.possible with
    ⟨rest, character, completed⟩
  exact ⟨character, rest, ((holds.completes rest character).mpr completed).symm⟩

theorem utf8EncodeChar_extend (holds : Holds piece sequence) (last : sequence.more = 0)
    (accepted : sequence.accepts byte = true) :
    String.utf8EncodeChar (Char.ofNat (sequence.extend byte)) = piece ++ [byte] :=
  (holds.completes [byte] _).mpr
    (complete?_eq_some_iff.mpr ⟨byte, [], rfl, accepted, Or.inl ⟨last, rfl, rfl⟩⟩)

/-- The bytes that a state accepts are those which go on with the piece that it holds back. -/
theorem begins_append_iff (holds : Holds piece sequence) :
    BeginsCharacter (piece ++ [byte]) ↔ sequence.accepts byte = true := by
  constructor
  · rintro ⟨character, rest, encoded⟩
    rw [List.append_assoc, List.singleton_append] at encoded
    have completed := (holds.completes _ character).mp encoded.symm
    rcases complete?_eq_some_iff.mp completed with ⟨first, later, split, accepted, -⟩
    cases split
    exact accepted
  · intro accepted
    rcases sequence with ⟨bits, low, high, more⟩
    cases more with
    | zero =>
        have encoded := holds.utf8EncodeChar_extend rfl accepted
        exact ⟨_, [], by rw [List.append_nil, encoded]⟩
    | succ more => exact (holds.next accepted).begins

end Holds

/-! ## What the decoder gives is a reading -/

theorem not_beginsCharacter_of_wrong {byte : UInt8} (wrong : lead byte = .wrong) :
    ¬BeginsCharacter [byte] := by
  rintro ⟨character, rest, encoded⟩
  have cases := utf8EncodeChar_eq_cons_iff.mp encoded.symm
  simp [wrong] at cases

theorem readFrom_none_cons (byte : UInt8) (rest : List UInt8) :
    readFrom none (byte :: rest) = (begin byte).2 ++ readFrom (begin byte).1 rest := by
  rw [readFrom_cons, step]

/-- Both parts are proved at once, since a byte that does not go on with a piece is read again at
the boundary. -/
theorem decodes_readFrom (bytes : List UInt8) :
    Decodes bytes (readFrom none bytes) ∧
      ∀ piece sequence, Holds piece sequence →
        Decodes (piece ++ bytes) (readFrom (some sequence) bytes) := by
  induction bytes with
  | nil =>
      refine ⟨by simpa [flush] using Decodes.nil, ?_⟩
      intro piece sequence holds
      simpa [flush] using
        Decodes.cutOff holds.nonempty holds.begins holds.incomplete (by simp) Decodes.nil
  | cons byte rest ih =>
      rcases ih with ⟨atBoundary, within⟩
      have whole : Decodes (byte :: rest) (readFrom none (byte :: rest)) := by
        rw [readFrom_none_cons, begin]
        cases said : lead byte with
        | whole character =>
            have encoded := utf8EncodeChar_of_whole said
            simpa [encoded] using Decodes.character character atBoundary
        | begins sequence => simpa using within [byte] sequence (Holds.ofLead said)
        | wrong => simpa using Decodes.stray (not_beginsCharacter_of_wrong said) atBoundary
      refine ⟨whole, ?_⟩
      intro piece sequence holds
      rw [readFrom_cons, step]
      by_cases accepted : sequence.accepts byte = true
      · rw [if_pos accepted]
        rcases sequence with ⟨bits, low, high, more⟩
        cases more with
        | zero =>
            have encoded := holds.utf8EncodeChar_extend rfl accepted
            have decodes := Decodes.character
              (Char.ofNat ((⟨bits, low, high, 0⟩ : Unfinished).extend byte)) atBoundary
            rw [encoded, List.append_assoc] at decodes
            exact decodes
        | succ more =>
            have decodes := within _ _ (holds.next accepted)
            rw [List.append_assoc] at decodes
            exact decodes
      · rw [if_neg accepted]
        have maximal : ∀ next ∈ (byte :: rest).head?, ¬BeginsCharacter (piece ++ [next]) := by
          intro next isHead
          simp only [List.head?_cons, Option.mem_def, Option.some.injEq] at isHead
          subst isHead
          rwa [holds.begins_append_iff]
        have decodes :=
          Decodes.cutOff holds.nonempty holds.begins holds.incomplete maximal whole
        rwa [readFrom_none_cons] at decodes

/-! ## Every reading is what the decoder gives -/

theorem run_of_complete? {sequence : Unfinished} {bytes : List UInt8} {character : Char}
    (completed : sequence.complete? bytes = some character) :
    reader.run (some sequence) bytes = (none, [character]) := by
  induction bytes generalizing sequence with
  | nil => simp [Unfinished.complete?] at completed
  | cons byte later ih =>
      rcases complete?_eq_some_iff.mp completed with ⟨first, _, split, accepted, ending⟩
      cases split
      rw [Transducer.run_cons]
      rcases ending with ⟨last, rfl, ofNat⟩ | ⟨more, notLast, completed⟩
      · simp [reader, step, accepted, last, ofNat]
      · have next : reader.step (some sequence) byte =
            (some ⟨sequence.extend byte, 0x80, 0xBF, more⟩, []) := by
          simp [reader, step, accepted, notLast]
        rw [next, ih completed]
        rfl

theorem run_utf8EncodeChar (character : Char) :
    reader.run none (String.utf8EncodeChar character) = (none, [character]) := by
  cases encoded : String.utf8EncodeChar character with
  | nil => exact absurd encoded String.utf8EncodeChar_ne_nil
  | cons byte later =>
      rw [Transducer.run_cons]
      rcases utf8EncodeChar_eq_cons_iff.mp encoded with ⟨whole, rfl⟩ | ⟨sequence, begins, completed⟩
      · simp [reader, step, begin, whole]
      · have next : reader.step none byte = (some sequence, []) := by
          simp [reader, step, begin, begins]
        rw [next, run_of_complete? completed]
        rfl

theorem readFrom_utf8EncodeChar (character : Char) (rest : List UInt8) :
    readFrom none (String.utf8EncodeChar character ++ rest) =
      character :: readFrom none rest := by
  rw [readFrom_append, run_utf8EncodeChar, List.singleton_append]

/-- The proper beginning of a character is held back. -/
theorem exists_holds {character : Char} {piece tail : List UInt8}
    (encoded : String.utf8EncodeChar character = piece ++ tail) (nonempty : piece ≠ [])
    (missing : tail ≠ []) :
    ∃ sequence, Holds piece sequence ∧ reader.run none piece = (some sequence, []) := by
  induction piece using List.reverseRecOn generalizing tail with
  | nil => exact absurd rfl nonempty
  | append_singleton init byte ih =>
      rw [List.append_assoc, List.singleton_append] at encoded
      cases init with
      | nil =>
          rcases utf8EncodeChar_eq_cons_iff.mp encoded with ⟨-, none⟩ | ⟨sequence, begins, -⟩
          · exact absurd none missing
          · refine ⟨sequence, Holds.ofLead begins, ?_⟩
            simp [Transducer.run_cons, reader, step, begin, begins]
      | cons first init =>
          rcases ih encoded (by simp) (by simp) with ⟨sequence, holds, held⟩
          have completed := (holds.completes _ character).mp encoded
          rcases complete?_eq_some_iff.mp completed with ⟨_, _, split, accepted, ending⟩
          cases split
          rcases sequence with ⟨bits, low, high, more⟩
          rcases ending with ⟨-, none, -⟩ | ⟨fewer, succ, -⟩
          · exact absurd none missing
          · dsimp only at succ
            subst succ
            refine ⟨_, holds.next accepted, ?_⟩
            rw [Transducer.run_append, held]
            simp [Transducer.run_cons, reader, step, accepted]

theorem Decodes.eq_readFrom {bytes : List UInt8} {text : List Char}
    (decodes : Decodes bytes text) : text = readFrom none bytes := by
  induction decodes with
  | nil => simp [flush]
  | character character later ih => rw [readFrom_utf8EncodeChar, ih]
  | @stray byte rest text strayed later ih =>
      rw [readFrom_none_cons, begin]
      cases said : lead byte with
      | whole character =>
          exact absurd ⟨character, [], by simpa using (utf8EncodeChar_of_whole said).symm⟩ strayed
      | begins sequence => exact absurd (Holds.ofLead said).begins strayed
      | wrong => simp [ih]
  | @cutOff piece rest text nonempty begins incomplete maximal later ih =>
      rcases begins with ⟨character, tail, encoded⟩
      have missing : tail ≠ [] := by
        rintro rfl
        exact incomplete character (by simpa using encoded.symm)
      rcases exists_holds encoded.symm nonempty missing with ⟨sequence, holds, held⟩
      rw [readFrom_append, held, List.nil_append, ih]
      cases rest with
      | nil => simp [flush]
      | cons next rest =>
          have refused := maximal next (by simp)
          rw [holds.begins_append_iff] at refused
          rw [readFrom_cons (some sequence), step, if_neg refused, readFrom_none_cons]
          rfl

/-- Every byte sequence has exactly one reading, and the decoder gives it. -/
theorem decodes_iff {bytes : List UInt8} {text : List Char} :
    Decodes bytes text ↔ text = characters bytes := by
  constructor
  · exact Decodes.eq_readFrom
  · rintro rfl
    exact (decodes_readFrom bytes).1

end StreamingChat.Text.Utf8
