import StreamingChat.Text.Utf8

/-!
# Well-formed sequences

This file compares what the decoder accepts after a lead byte with the encoding of single characters
in the standard library. `Unfinished.complete?` reads the bytes that are still missing from a
sequence; by `utf8EncodeChar_eq_cons_iff` it succeeds exactly on the rest of the encoding of the
character that it gives.

The arithmetic is done once for each length of a sequence, with the code point as a variable of its
own. The ranges of the second byte are where overlong forms, surrogates and code points past
U+10FFFF are excluded.
-/

namespace StreamingChat.Text.Utf8

/-- The character that some bytes make of an unfinished sequence, if they complete it. -/
def Unfinished.complete? (sequence : Unfinished) : List UInt8 → Option Char
  | [] => none
  | byte :: rest =>
      if sequence.accepts byte then
        match sequence.more with
        | 0 => if rest = [] then some (Char.ofNat (sequence.extend byte)) else none
        | more + 1 => Unfinished.complete? ⟨sequence.extend byte, 0x80, 0xBF, more⟩ rest
      else none

theorem complete?_eq_some_iff {sequence : Unfinished} {rest : List UInt8} {character : Char} :
    sequence.complete? rest = some character ↔
      ∃ byte later, rest = byte :: later ∧ sequence.accepts byte = true ∧
        ((sequence.more = 0 ∧ later = [] ∧ Char.ofNat (sequence.extend byte) = character) ∨
          ∃ more, sequence.more = more + 1 ∧
            (⟨sequence.extend byte, 0x80, 0xBF, more⟩ : Unfinished).complete? later =
              some character) := by
  rcases sequence with ⟨bits, low, high, more⟩
  cases rest with
  | nil => simp [Unfinished.complete?]
  | cons byte later =>
      rw [Unfinished.complete?]
      cases more with
      | zero => grind
      | succ more => grind

theorem accepts_mk_iff {bits more : Nat} {low high byte : UInt8} :
    (⟨bits, low, high, more⟩ : Unfinished).accepts byte = true ↔
      low.toNat ≤ byte.toNat ∧ byte.toNat ≤ high.toNat := by
  simp only [Unfinished.accepts, Bool.and_eq_true, decide_eq_true_eq, UInt8.le_iff_toNat_le]

theorem complete?_last_iff {bits : Nat} {low high : UInt8} {rest : List UInt8}
    {character : Char} :
    (⟨bits, low, high, 0⟩ : Unfinished).complete? rest = some character ↔
      ∃ byte, rest = [byte] ∧ (low.toNat ≤ byte.toNat ∧ byte.toNat ≤ high.toNat) ∧
        ∃ code, bits * 64 + (byte.toNat - 0x80) = code ∧ Char.ofNat code = character := by
  rw [complete?_eq_some_iff]
  constructor
  · rintro ⟨byte, later, rfl, accepted, ⟨-, rfl, ofNat⟩ | ⟨_, more, -⟩⟩
    · exact ⟨byte, rfl, accepts_mk_iff.mp accepted, _, rfl, ofNat⟩
    · cases more
  · rintro ⟨byte, rfl, accepted, code, total, ofNat⟩
    have extended : (⟨bits, low, high, 0⟩ : Unfinished).extend byte = code := total
    refine ⟨byte, [], rfl, accepts_mk_iff.mpr accepted, Or.inl ⟨rfl, rfl, ?_⟩⟩
    rw [extended, ofNat]

theorem complete?_next_iff {bits more : Nat} {low high : UInt8} {rest : List UInt8}
    {character : Char} :
    (⟨bits, low, high, more + 1⟩ : Unfinished).complete? rest = some character ↔
      ∃ byte later, rest = byte :: later ∧ (low.toNat ≤ byte.toNat ∧ byte.toNat ≤ high.toNat) ∧
        (⟨bits * 64 + (byte.toNat - 0x80), 0x80, 0xBF, more⟩ : Unfinished).complete? later =
          some character := by
  rw [complete?_eq_some_iff]
  constructor
  · rintro ⟨byte, later, rfl, accepted, ⟨more, -⟩ | ⟨_, more, completed⟩⟩
    · cases more
    · cases more
      exact ⟨byte, later, rfl, accepts_mk_iff.mp accepted, completed⟩
  · rintro ⟨byte, later, rfl, accepted, completed⟩
    exact ⟨byte, later, rfl, accepts_mk_iff.mpr accepted, Or.inr ⟨more, rfl, completed⟩⟩

/-- What a lead byte says, in numbers: one case for each length of a sequence. -/
theorem lead_eq (byte : UInt8) :
    lead byte =
      if byte.toNat < 0x80 then .whole (Char.ofNat byte.toNat)
      else if byte.toNat < 0xC2 then .wrong
      else if byte.toNat < 0xE0 then .begins ⟨byte.toNat - 0xC0, 0x80, 0xBF, 0⟩
      else if byte.toNat < 0xF0 then
        .begins ⟨byte.toNat - 0xE0, if byte.toNat = 0xE0 then 0xA0 else 0x80,
          if byte.toNat = 0xED then 0x9F else 0xBF, 1⟩
      else if byte.toNat < 0xF5 then
        .begins ⟨byte.toNat - 0xF0, if byte.toNat = 0xF0 then 0x90 else 0x80,
          if byte.toNat = 0xF4 then 0x8F else 0xBF, 2⟩
      else .wrong := by
  simp only [lead, UInt8.lt_iff_toNat_lt, beq_iff_eq, ← UInt8.toNat_inj, UInt8.reduceToNat]
  grind

/-! ## From characters to sequences -/

theorem toNat_ofNat_of_lt {value : Nat} (small : value < 256) :
    (UInt8.ofNat value).toNat = value := by
  simp only [UInt8.toNat_ofNat']
  omega

/-- The encoding of a character is a lead byte and bytes that complete its sequence. -/
theorem lead_of_utf8EncodeChar {character : Char} {byte : UInt8} {rest : List UInt8}
    (encoded : String.utf8EncodeChar character = byte :: rest) :
    (lead byte = .whole character ∧ rest = []) ∨
      ∃ sequence, lead byte = .begins sequence ∧ sequence.complete? rest = some character := by
  have valid : character.toNat < 0xD800 ∨
      0xDFFF < character.toNat ∧ character.toNat < 0x110000 := character.valid
  have same : Char.ofNat character.toNat = character := Char.ofNat_toNat character
  have value : character.val.toNat = character.toNat := rfl
  simp only [String.utf8EncodeChar, value] at encoded
  generalize character.toNat = code at *
  subst same
  have last : (UInt8.ofNat (code % 0x40 + 0x80)).toNat = code % 0x40 + 0x80 :=
    toNat_ofNat_of_lt (by omega)
  have third : (UInt8.ofNat (code / 64 % 0x40 + 0x80)).toNat = code / 64 % 0x40 + 0x80 :=
    toNat_ofNat_of_lt (by omega)
  have second : (UInt8.ofNat (code / 4096 % 0x40 + 0x80)).toNat = code / 4096 % 0x40 + 0x80 :=
    toNat_ofNat_of_lt (by omega)
  split at encoded
  · left
    simp only [List.cons.injEq] at encoded
    rcases encoded with ⟨rfl, rfl⟩
    rw [lead_eq, toNat_ofNat_of_lt (by omega), if_pos (by omega)]
    exact ⟨rfl, rfl⟩
  right
  split at encoded
  · simp only [List.cons.injEq] at encoded
    rcases encoded with ⟨rfl, rfl⟩
    rw [lead_eq, toNat_ofNat_of_lt (by omega), if_neg (by omega), if_neg (by omega),
      if_pos (by omega)]
    refine ⟨_, rfl, complete?_last_iff.mpr ⟨_, rfl, ?_, code, ?_, rfl⟩⟩
    all_goals simp only [last, UInt8.reduceToNat]
    all_goals omega
  split at encoded
  · simp only [List.cons.injEq] at encoded
    rcases encoded with ⟨rfl, rfl⟩
    rw [lead_eq, toNat_ofNat_of_lt (by omega), if_neg (by omega), if_neg (by omega),
      if_neg (by omega), if_pos (by omega)]
    refine ⟨_, rfl, complete?_next_iff.mpr ⟨_, _, rfl, ?_,
      complete?_last_iff.mpr ⟨_, rfl, ?_, code, ?_, rfl⟩⟩⟩
    all_goals simp only [last, third, apply_ite UInt8.toNat, UInt8.reduceToNat]
    all_goals grind
  · simp only [List.cons.injEq] at encoded
    rcases encoded with ⟨rfl, rfl⟩
    rw [lead_eq, toNat_ofNat_of_lt (by omega), if_neg (by omega), if_neg (by omega),
      if_neg (by omega), if_neg (by omega), if_pos (by omega)]
    refine ⟨_, rfl, complete?_next_iff.mpr ⟨_, _, rfl, ?_,
      complete?_next_iff.mpr ⟨_, _, rfl, ?_,
        complete?_last_iff.mpr ⟨_, rfl, ?_, code, ?_, rfl⟩⟩⟩⟩
    all_goals simp only [last, third, second, apply_ite UInt8.toNat, UInt8.reduceToNat]
    all_goals grind

/-! ## From sequences to characters -/

theorem ofNat_eq_of_eq_toNat {value : Nat} (byte : UInt8) (same : value = byte.toNat) :
    UInt8.ofNat value = byte := by
  rw [same, UInt8.ofNat_toNat]

theorem val_ofNat {code : Nat} (valid : code < 0xD800 ∨ 0xDFFF < code ∧ code < 0x110000) :
    (Char.ofNat code).val.toNat = code := by
  have isValid : code.isValidChar := valid
  rw [Char.ofNat, dif_pos isValid]
  rfl

theorem utf8EncodeChar_two {first second : UInt8} {code : Nat}
    (total : (first.toNat - 0xC0) * 64 + (second.toNat - 0x80) = code)
    (firstRange : 0xC2 ≤ first.toNat ∧ first.toNat < 0xE0)
    (secondRange : 0x80 ≤ second.toNat ∧ second.toNat ≤ 0xBF) :
    String.utf8EncodeChar (Char.ofNat code) = [first, second] := by
  unfold String.utf8EncodeChar
  rw [val_ofNat (by omega)]
  dsimp only
  rw [if_neg (by omega), if_pos (by omega),
    ofNat_eq_of_eq_toNat first (by omega),
    ofNat_eq_of_eq_toNat second (by omega)]

theorem utf8EncodeChar_three {first second third : UInt8} {code : Nat}
    (total : ((first.toNat - 0xE0) * 64 + (second.toNat - 0x80)) * 64 + (third.toNat - 0x80) = code)
    (firstRange : 0xE0 ≤ first.toNat ∧ first.toNat < 0xF0)
    (secondRange : (if first.toNat = 0xE0 then 0xA0 else 0x80) ≤ second.toNat ∧
      second.toNat ≤ if first.toNat = 0xED then 0x9F else 0xBF)
    (thirdRange : 0x80 ≤ third.toNat ∧ third.toNat ≤ 0xBF) :
    String.utf8EncodeChar (Char.ofNat code) = [first, second, third] := by
  have notOverlong : first.toNat = 0xE0 → 0xA0 ≤ second.toNat := by grind
  have noSurrogate : first.toNat = 0xED → second.toNat ≤ 0x9F := by grind
  have second_ge : 0x80 ≤ second.toNat := by grind
  have second_le : second.toNat ≤ 0xBF := by grind
  unfold String.utf8EncodeChar
  rw [val_ofNat (by omega)]
  dsimp only
  rw [if_neg (by omega), if_neg (by omega), if_pos (by omega),
    ofNat_eq_of_eq_toNat first (by omega),
    ofNat_eq_of_eq_toNat second (by omega),
    ofNat_eq_of_eq_toNat third (by omega)]

theorem utf8EncodeChar_four {first second third fourth : UInt8} {code : Nat}
    (total : (((first.toNat - 0xF0) * 64 + (second.toNat - 0x80)) * 64 +
      (third.toNat - 0x80)) * 64 + (fourth.toNat - 0x80) = code)
    (firstRange : 0xF0 ≤ first.toNat ∧ first.toNat < 0xF5)
    (secondRange : (if first.toNat = 0xF0 then 0x90 else 0x80) ≤ second.toNat ∧
      second.toNat ≤ if first.toNat = 0xF4 then 0x8F else 0xBF)
    (thirdRange : 0x80 ≤ third.toNat ∧ third.toNat ≤ 0xBF)
    (fourthRange : 0x80 ≤ fourth.toNat ∧ fourth.toNat ≤ 0xBF) :
    String.utf8EncodeChar (Char.ofNat code) = [first, second, third, fourth] := by
  have notOverlong : first.toNat = 0xF0 → 0x90 ≤ second.toNat := by grind
  have notBeyond : first.toNat = 0xF4 → second.toNat ≤ 0x8F := by grind
  have second_ge : 0x80 ≤ second.toNat := by grind
  have second_le : second.toNat ≤ 0xBF := by grind
  unfold String.utf8EncodeChar
  rw [val_ofNat (by omega)]
  dsimp only
  rw [if_neg (by omega), if_neg (by omega), if_neg (by omega),
    ofNat_eq_of_eq_toNat first (by omega),
    ofNat_eq_of_eq_toNat second (by omega),
    ofNat_eq_of_eq_toNat third (by omega),
    ofNat_eq_of_eq_toNat fourth (by omega)]

/-- Bytes that complete the sequence of a lead byte encode the character that they complete. -/
theorem utf8EncodeChar_of_complete? {byte : UInt8} {sequence : Unfinished} {rest : List UInt8}
    {character : Char} (begins : lead byte = .begins sequence)
    (completed : sequence.complete? rest = some character) :
    String.utf8EncodeChar character = byte :: rest := by
  rw [lead_eq] at begins
  split at begins
  · cases begins
  split at begins
  · cases begins
  split at begins
  · simp only [Lead.begins.injEq] at begins
    subst begins
    rcases complete?_last_iff.mp completed with ⟨second, rfl, secondRange, code, total, rfl⟩
    exact utf8EncodeChar_two total (by omega) secondRange
  split at begins
  · simp only [Lead.begins.injEq] at begins
    subst begins
    rcases complete?_next_iff.mp completed with ⟨second, later, rfl, secondRange, completed⟩
    rcases complete?_last_iff.mp completed with ⟨third, rfl, thirdRange, code, total, rfl⟩
    simp only [apply_ite UInt8.toNat, UInt8.reduceToNat] at secondRange
    exact utf8EncodeChar_three total (by omega) secondRange thirdRange
  split at begins
  · simp only [Lead.begins.injEq] at begins
    subst begins
    rcases complete?_next_iff.mp completed with ⟨second, later, rfl, secondRange, completed⟩
    rcases complete?_next_iff.mp completed with ⟨third, later, rfl, thirdRange, completed⟩
    rcases complete?_last_iff.mp completed with ⟨fourth, rfl, fourthRange, code, total, rfl⟩
    simp only [apply_ite UInt8.toNat, UInt8.reduceToNat] at secondRange
    exact utf8EncodeChar_four total (by omega) secondRange thirdRange fourthRange
  · cases begins

theorem utf8EncodeChar_of_whole {byte : UInt8} {character : Char}
    (whole : lead byte = .whole character) : String.utf8EncodeChar character = [byte] := by
  rw [lead_eq] at whole
  split at whole
  · rename_i ascii
    simp only [Lead.whole.injEq] at whole
    subst whole
    unfold String.utf8EncodeChar
    rw [val_ofNat (by omega)]
    dsimp only
    rw [if_pos (by omega), ofNat_eq_of_eq_toNat _ rfl]
  · grind

/-- The encoding of a character is what the decoder reads as that character. -/
theorem utf8EncodeChar_eq_cons_iff {character : Char} {byte : UInt8} {rest : List UInt8} :
    String.utf8EncodeChar character = byte :: rest ↔
      (lead byte = .whole character ∧ rest = []) ∨
        ∃ sequence, lead byte = .begins sequence ∧
          sequence.complete? rest = some character := by
  constructor
  · exact lead_of_utf8EncodeChar
  · rintro (⟨whole, rfl⟩ | ⟨sequence, begins, completed⟩)
    · exact utf8EncodeChar_of_whole whole
    · exact utf8EncodeChar_of_complete? begins completed

/-! ## Bytes of ASCII -/

theorem lead_of_ascii {byte : UInt8} (ascii : byte < 0x80) :
    lead byte = .whole (Char.ofNat byte.toNat) := by
  simp [lead, ascii]

/-- A byte of ASCII stands in the encoding of one character only, which is its own. -/
theorem eq_of_mem_utf8EncodeChar {character : Char} {byte : UInt8} (ascii : byte < 0x80)
    (member : byte ∈ String.utf8EncodeChar character) : character = Char.ofNat byte.toNat := by
  have encoded := utf8EncodeChar_of_whole (lead_of_ascii ascii)
  have isFirst : byte.IsUTF8FirstByte := by
    have first := @UInt8.isUTF8FirstByte_getElem_zero_utf8EncodeChar (Char.ofNat byte.toNat)
    simpa [encoded] using first
  rcases List.getElem_of_mem member with ⟨place, inside, there⟩
  -- The byte begins a character, so that it stands at the front.
  rw [← there, UInt8.isUTF8FirstByte_getElem_utf8EncodeChar] at isFirst
  subst isFirst
  cases split : String.utf8EncodeChar character with
  | nil => exact absurd split String.utf8EncodeChar_ne_nil
  | cons first rest =>
      have same : first = byte := by simpa [split] using there
      rcases utf8EncodeChar_eq_cons_iff.mp split with ⟨read, -⟩ | ⟨sequence, begins, -⟩
      · rw [same, lead_of_ascii ascii] at read
        cases read
        rfl
      · rw [same, lead_of_ascii ascii] at begins
        cases begins

end StreamingChat.Text.Utf8
