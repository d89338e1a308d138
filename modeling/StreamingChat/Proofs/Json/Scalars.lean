import StreamingChat.Proofs.Json.Spelling
import StreamingChat.Proofs.Text.Utf8.Sequence

/-!
# Reading spelled scalars

A string is read exactly where it is spelled, and every natural number below `2 ^ 64` is read as that
number. The significand of a number in the making is at each digit the number of the digits so far,
so that it stays within sixty-four bits when the whole number does.
-/

namespace StreamingChat.Json

/-! ## Strings -/

theorem scanHexUnit_of_hexUnit {digits : List Char} {unit : Nat} (means : HexUnit digits unit)
    (rest : List Char) : scanHexUnit (digits ++ rest) = .ok (unit, rest) := by
  cases means with
  | digits first_eq second_eq third_eq fourth_eq =>
      simp only [List.cons_append, List.nil_append, scanHexUnit, first_eq, second_eq, third_eq,
        fourth_eq]

/-- No character is a surrogate, so that its number needs no partner. -/
theorem scanEscape_of_hexUnit {digits : List Char} {character : Char}
    (means : HexUnit digits character.toNat) (rest : List Char) :
    scanEscape ('u' :: (digits ++ rest)) = .ok (character, rest) := by
  have valid : character.toNat.isValidChar := character.valid
  have trailing : isTrailingSurrogate character.toNat = false := by
    grind [isTrailingSurrogate]
  have leading : isLeadingSurrogate character.toNat = false := by
    grind [isLeadingSurrogate]
  simp [scanEscape, scanHexUnit_of_hexUnit means, trailing, leading]

/-- The second surrogate is looked for right after the first one. -/
theorem scanEscape_of_surrogates {character : Char} {leading trailing : Nat}
    {first second : List Char} (leads : HexUnit first leading) (trails : HexUnit second trailing)
    (isLeading : 0xD800 ≤ leading ∧ leading < 0xDC00)
    (isTrailing : 0xDC00 ≤ trailing ∧ trailing < 0xE000)
    (number : character.toNat = 0x10000 + (leading - 0xD800) * 0x400 + (trailing - 0xDC00))
    (rest : List Char) :
    scanEscape ('u' :: (first ++ '\\' :: 'u' :: (second ++ rest))) = .ok (character, rest) := by
  have firstLeads : isLeadingSurrogate leading = true := by simpa [isLeadingSurrogate]
  have notTrailing : isTrailingSurrogate leading = false := by
    simp [isTrailingSurrogate]
    omega
  have secondTrails : isTrailingSurrogate trailing = true := by simpa [isTrailingSurrogate]
  have same : ofSurrogates leading trailing = character := by
    rw [ofSurrogates, ← number, Char.ofNat_toNat]
  simp [scanEscape, scanHexUnit_of_hexUnit leads, notTrailing, firstLeads, scanTrailing,
    scanHexUnit_of_hexUnit trails, secondTrails, same]

theorem scanEscape_of_short {letter character : Char} (means : shortEscape letter = some character)
    (rest : List Char) : scanEscape (letter :: rest) = .ok (character, rest) := by
  have notUnit : letter ≠ 'u' := by
    rintro rfl
    cases means
  unfold scanEscape
  split
  · simp_all
  · simp_all
  · simp_all

theorem scanStringOnto_of_scanEscape {text rest : List Char} {character : Char}
    (escaped : scanEscape text = .ok (character, rest)) (done : List Char) :
    scanStringOnto done ('\\' :: text) = scanStringOnto (character :: done) rest := by
  rw [scanStringOnto]
  split
  · simp_all
  · simp_all

theorem scanStringOnto_of_spells {characters text rest : List Char}
    (spelled : SpellsChars characters text rest) (done : List Char) :
    scanStringOnto done text = .ok (done.reverse ++ characters, rest) := by
  induction spelled generalizing done with
  | quote rest => rw [scanStringOnto, List.append_nil]
  | plain visible unquoted unescaped spelled ih =>
      rw [scanStringOnto, if_neg visible, ih, List.reverse_cons, List.append_assoc]
      · rfl
      · exact unquoted
      · exact unescaped
  | short means spelled ih =>
      rw [scanStringOnto_of_scanEscape (scanEscape_of_short means _), ih, List.reverse_cons,
        List.append_assoc]
      rfl
  | unit means spelled ih =>
      rw [scanStringOnto_of_scanEscape (scanEscape_of_hexUnit means _), ih, List.reverse_cons,
        List.append_assoc]
      rfl
  | surrogates leads trails isLeading isTrailing number spelled ih =>
      rw [scanStringOnto_of_scanEscape
        (scanEscape_of_surrogates leads trails isLeading isTrailing number _), ih,
        List.reverse_cons, List.append_assoc]
      rfl

theorem scanString_of_spells {characters text rest : List Char}
    (spelled : SpellsChars characters text rest) : scanString text = .ok (characters, rest) :=
  scanStringOnto_of_spells spelled []

theorem hexValue_lt {digit : Char} {value : Nat} (means : Text.hexValue digit = some value) :
    value < 16 := by
  have codes : '0'.toNat = 48 ∧ '9'.toNat = 57 ∧ 'a'.toNat = 97 ∧ 'f'.toNat = 102 ∧
      'A'.toNat = 65 ∧ 'F'.toNat = 70 := ⟨rfl, rfl, rfl, rfl, rfl, rfl⟩
  unfold Text.hexValue at means
  split at means
  · rename_i isDigit
    cases means
    have upper : digit.toNat ≤ '9'.toNat := by
      simp only [Char.isDigit, Bool.and_eq_true, decide_eq_true_eq] at isDigit
      exact isDigit.2
    omega
  split at means
  · rename_i lower
    cases means
    have upper : digit.toNat ≤ 'f'.toNat := lower.2
    omega
  split at means
  · rename_i capital
    cases means
    have upper : digit.toNat ≤ 'F'.toNat := capital.2
    omega
  · cases means

theorem HexUnit.lt {digits : List Char} {unit : Nat} (means : HexUnit digits unit) :
    unit < 0x10000 := by
  cases means with
  | digits first_eq second_eq third_eq fourth_eq =>
      have first := hexValue_lt first_eq
      have second := hexValue_lt second_eq
      have third := hexValue_lt third_eq
      have fourth := hexValue_lt fourth_eq
      omega

theorem exists_of_scanHexUnit {text rest : List Char} {unit : Nat}
    (read : scanHexUnit text = .ok (unit, rest)) :
    ∃ digits, HexUnit digits unit ∧ text = digits ++ rest := by
  unfold scanHexUnit at read
  split at read
  · split at read
    · rename_i first_eq second_eq third_eq fourth_eq
      cases read
      exact ⟨_, .digits first_eq second_eq third_eq fourth_eq, rfl⟩
    · cases read
  · cases read

theorem exists_of_scanTrailing {leading : Nat} {text rest : List Char} {character : Char}
    (read : scanTrailing leading text = .ok (character, rest)) :
    ∃ digits trailing, HexUnit digits trailing ∧ isTrailingSurrogate trailing = true ∧
      ofSurrogates leading trailing = character ∧ text = '\\' :: 'u' :: (digits ++ rest) := by
  unfold scanTrailing at read
  split at read
  · cases read
  · cases read
  · split at read
    · cases read
    · rename_i scanned
      rcases exists_of_scanHexUnit scanned with ⟨digits, means, rfl⟩
      split at read
      · rename_i isTrailing
        simp only [Except.ok.injEq, Prod.mk.injEq] at read
        rcases read with ⟨same, rfl⟩
        exact ⟨digits, _, means, isTrailing, same, rfl⟩
      · cases read
  · cases read
  · cases read

theorem SpellsChars.of_scanEscape {text after rest characters : List Char} {character : Char}
    (read : scanEscape text = .ok (character, after)) (later : SpellsChars characters after rest) :
    SpellsChars (character :: characters) ('\\' :: text) rest := by
  unfold scanEscape at read
  split at read
  · cases read
  · split at read
    · cases read
    · rename_i unit afterUnit scanned
      rcases exists_of_scanHexUnit scanned with ⟨digits, means, rfl⟩
      split at read
      · cases read
      · rename_i notTrailing
        split at read
        · rename_i isLeading
          rcases exists_of_scanTrailing read with ⟨second, trailing, trails, isTrailing, rfl, rfl⟩
          simp only [isLeadingSurrogate, isTrailingSurrogate, Bool.and_eq_true,
            decide_eq_true_eq] at isLeading isTrailing
          exact .surrogates means trails isLeading isTrailing
            (Text.Utf8.val_ofNat (by omega)) later
        · rename_i notLeading
          cases read
          have small := means.lt
          have number : (Char.ofNat unit).toNat = unit := by
            simp only [isLeadingSurrogate, isTrailingSurrogate, Bool.and_eq_true,
              decide_eq_true_eq] at notLeading notTrailing
            exact Text.Utf8.val_ofNat (by omega)
          rw [← number] at means
          exact .unit means later
  · split at read
    · rename_i means
      cases read
      exact .short means later
    · cases read

theorem spells_of_scanStringOnto {done text characters rest : List Char}
    (read : scanStringOnto done text = .ok (characters, rest)) :
    ∃ later, characters = done.reverse ++ later ∧ SpellsChars later text rest := by
  fun_induction scanStringOnto done text with
  | case1 done => cases read
  | case2 done text =>
      cases read
      exact ⟨[], (List.append_nil _).symm, .quote _⟩
  | case3 done text fault refused => cases read
  | case4 done text character after scanned shorter ih =>
      rcases ih read with ⟨later, split, spelled⟩
      refine ⟨character :: later, ?_, .of_scanEscape scanned spelled⟩
      simpa using split
  | case5 done character text unquoted unescaped control => cases read
  | case6 done character text unquoted unescaped visible ih =>
      rcases ih read with ⟨later, split, spelled⟩
      refine ⟨character :: later, ?_, .plain visible unquoted unescaped spelled⟩
      simpa using split

theorem scanString_eq_ok_iff {text characters rest : List Char} :
    scanString text = .ok (characters, rest) ↔ SpellsChars characters text rest := by
  constructor
  · intro read
    rcases spells_of_scanStringOnto read with ⟨later, rfl, spelled⟩
    exact spelled
  · exact scanString_of_spells

/-! ## Numbers -/

theorem le_ofDigitChars (digits : List Char) (value : Nat) :
    value ≤ Nat.ofDigitChars 10 digits value := by
  induction digits generalizing value with
  | nil => exact Nat.le_refl _
  | cons digit rest ih =>
      rw [Nat.ofDigitChars_cons]
      have further := ih (10 * value + (digit.toNat - '0'.toNat))
      omega

theorem foldl_wholeDigit {digits : List Char} {value : Nat}
    (fits : Nat.ofDigitChars 10 digits value ≤ maxSignificand) :
    digits.foldl Magnitude.wholeDigit ⟨value, 0, false⟩ =
      ⟨Nat.ofDigitChars 10 digits value, 0, false⟩ := by
  induction digits generalizing value with
  | nil => rfl
  | cons digit rest ih =>
      rw [Nat.ofDigitChars_cons] at fits ⊢
      -- The digits so far make no greater number than all digits, which fits.
      have room := Nat.le_trans (le_ofDigitChars rest _) fits
      have taken : Magnitude.wholeDigit ⟨value, 0, false⟩ digit =
          ⟨10 * value + (digit.toNat - '0'.toNat), 0, false⟩ := by
        simp only [Magnitude.wholeDigit, digitValue, Nat.mul_comm value 10, Bool.false_or]
        rw [if_neg]
        simpa using room
      rw [List.foldl_cons, taken, ih fits]

/-- Only zero is written with a zero in front. -/
theorem eq_zero_of_toDigits {value : Nat} {others : List Char}
    (digits : Nat.toDigits 10 value = '0' :: others) : value = 0 := by
  induction value using Nat.strongRecOn generalizing others with
  | ind value ih =>
      by_cases small : value < 10
      · rw [Nat.toDigits_of_lt_base small, List.cons.injEq] at digits
        have code := Nat.toNat_digitChar_of_lt_ten small
        rw [digits.1] at code
        have zero : '0'.toNat = 48 := rfl
        omega
      · rw [Nat.toDigits_of_base_le (by decide) (by omega)] at digits
        cases front : Nat.toDigits 10 (value / 10) with
        | nil => exact absurd front Nat.toDigits_ne_nil
        | cons first more =>
            rw [front, List.cons_append, List.cons.injEq] at digits
            rw [digits.1] at front
            have none := ih (value / 10) (by omega) front
            omega

theorem EndsNumber.noDigit {rest : List Char} (ends : EndsNumber rest) :
    rest.head?.any Char.isDigit = false := by
  cases rest with
  | nil => rfl
  | cons character rest => exact ends.1

theorem spanDigits_append {digits rest : List Char}
    (allDigits : ∀ digit ∈ digits, digit.isDigit = true)
    (noDigit : rest.head?.any Char.isDigit = false) :
    spanDigits (digits ++ rest) = (digits, rest) := by
  have none : rest.takeWhile Char.isDigit = [] ∧ rest.dropWhile Char.isDigit = rest := by
    cases rest with
    | nil => exact ⟨rfl, rfl⟩
    | cons character rest =>
        have other : character.isDigit = false := noDigit
        simp [other]
  rw [spanDigits, List.takeWhile_append_of_pos allDigits, List.dropWhile_append_of_pos allDigits,
    none.1, none.2, List.append_nil]

theorem complete_of_endsNumber {value : Nat} {rest : List Char} (ends : EndsNumber rest) :
    scanNumber.complete false ⟨value, 0, false⟩ rest = .ok (.natural value, rest) := by
  unfold scanNumber.complete
  split
  · exact absurd rfl ends.2.1
  · exact absurd rfl ends.2.2.1
  · exact absurd rfl ends.2.2.2
  · rfl

theorem scanNumber_toDigits {value : Nat} (fits : value ≤ maxSignificand) {rest : List Char}
    (ends : EndsNumber rest) :
    scanNumber false (Nat.toDigits 10 value ++ rest) = .ok (.natural value, rest) := by
  have taken : (Nat.toDigits 10 value).foldl Magnitude.wholeDigit ⟨0, 0, false⟩ =
      ⟨value, 0, false⟩ := by
    rw [foldl_wholeDigit (by rwa [Nat.ofDigitChars_ten_toDigits]), Nat.ofDigitChars_ten_toDigits]
  rcases exists_toDigits value with ⟨first, others, digits, firstDigit, otherDigits⟩
  rw [digits] at taken ⊢
  by_cases zero : first = '0'
  · subst zero
    have none : value = 0 := eq_zero_of_toDigits digits
    subst none
    cases digits
    simpa [scanNumber, ends.noDigit, taken] using complete_of_endsNumber ends
  · simpa [scanNumber, firstDigit, zero, spanDigits_append otherDigits ends.noDigit, taken] using
      complete_of_endsNumber ends

end StreamingChat.Json
