import Mathlib.Data.List.TakeWhile
import StreamingChat.Proofs.Json.Scalars
import StreamingChat.Proofs.Sequence

/-!
# The grammar of values

This file defines which texts are values, without regard to what a value means: `WellFormed`
relates a text that begins with a phrase of the grammar to the text that follows it. Numbers may be
of any magnitude, and a surrogate may stand alone. Constants, numbers and strings are skipped exactly
when they are well-formed; the next file shows it of values, which may be nested.
-/

namespace StreamingChat.Json

/-! ## Constants and numbers -/

inductive IsConstant : List Char → Prop where
  | null : IsConstant ['n', 'u', 'l', 'l']
  | true : IsConstant ['t', 'r', 'u', 'e']
  | false : IsConstant ['f', 'a', 'l', 's', 'e']

/-- At least one decimal digit. -/
def IsDigits (text : List Char) : Prop :=
  text ≠ [] ∧ ∀ digit ∈ text, digit.isDigit = true

/-- The digits before the point, where a zero stands alone. -/
inductive IsWhole : List Char → Prop where
  | zero : IsWhole ['0']
  | digits {digits : List Char} (isDigits : IsDigits digits) (nonzero : digits.head? ≠ some '0') :
      IsWhole digits

inductive IsFraction : List Char → Prop where
  | none : IsFraction []
  | digits {digits : List Char} (isDigits : IsDigits digits) : IsFraction ('.' :: digits)

inductive IsExponent : List Char → Prop where
  | none : IsExponent []
  | digits {letter : Char} {sign digits : List Char} (isLetter : letter = 'e' ∨ letter = 'E')
      (isSign : sign = [] ∨ sign = ['+'] ∨ sign = ['-']) (isDigits : IsDigits digits) :
      IsExponent (letter :: (sign ++ digits))

/-- A number without its minus sign. -/
inductive IsNumber : List Char → Prop where
  | parts {whole fraction exponent : List Char} (isWhole : IsWhole whole)
      (isFraction : IsFraction fraction) (isExponent : IsExponent exponent) :
      IsNumber (whole ++ (fraction ++ exponent))

/-! ## Strings -/

/-- The characters between two quotes. -/
inductive IsQuoted : List Char → Prop where
  | nil : IsQuoted []
  | plain {character : Char} {text : List Char} (visible : ¬character < ' ')
      (unquoted : character ≠ '"') (unescaped : character ≠ '\\') (later : IsQuoted text) :
      IsQuoted (character :: text)
  | short {letter character : Char} {text : List Char}
      (means : shortEscape letter = some character) (later : IsQuoted text) :
      IsQuoted ('\\' :: letter :: text)
  | unit {unit : Nat} {digits text : List Char} (means : HexUnit digits unit)
      (later : IsQuoted text) : IsQuoted ('\\' :: 'u' :: (digits ++ text))

/-! ## Values -/

/-- What the grammar tells apart: values, members of objects, and the further items inside a
bracket together with its end. -/
inductive Phrase where
  | value
  | member
  | further (bracket : Bracket)

def Bracket.opening : Bracket → Char
  | .list => '['
  | .object => '\x7b'

def Bracket.item : Bracket → Phrase
  | .list => .value
  | .object => .member

/-- A text that begins with a phrase. -/
inductive WellFormed : Phrase → List Char → List Char → Prop where
  | constant {letters : List Char} (isConstant : IsConstant letters) (rest : List Char) :
      WellFormed .value (letters ++ rest) rest
  | number {digits : List Char} (isNumber : IsNumber digits) (rest : List Char) :
      WellFormed .value (digits ++ rest) rest
  | negative {digits : List Char} (isNumber : IsNumber digits) (rest : List Char) :
      WellFormed .value ('-' :: (digits ++ rest)) rest
  | string {characters : List Char} (isQuoted : IsQuoted characters) (rest : List Char) :
      WellFormed .value ('"' :: (characters ++ '"' :: rest)) rest
  | empty (bracket : Bracket) {text rest : List Char}
      (gap : Gap text (bracket.closing :: rest)) :
      WellFormed .value (bracket.opening :: text) rest
  | filled (bracket : Bracket) {text item after rest : List Char} (gap : Gap text item)
      (first : WellFormed bracket.item item after)
      (later : WellFormed (.further bracket) after rest) :
      WellFormed .value (bracket.opening :: text) rest
  | member {name after further value rest : List Char} (isQuoted : IsQuoted name)
      (colon : Gap after (':' :: further)) (gap : Gap further value)
      (held : WellFormed .value value rest) :
      WellFormed .member ('"' :: (name ++ '"' :: after)) rest
  | close (bracket : Bracket) {text rest : List Char}
      (gap : Gap text (bracket.closing :: rest)) : WellFormed (.further bracket) text rest
  | next (bracket : Bracket) {text further item after rest : List Char}
      (comma : Gap text (',' :: further)) (gap : Gap further item)
      (first : WellFormed bracket.item item after)
      (later : WellFormed (.further bracket) after rest) :
      WellFormed (.further bracket) text rest

/-- A whole text that is one value, with nothing but space around it. -/
def IsText (text : List Char) : Prop :=
  ∃ value rest, Gap text value ∧ WellFormed .value value rest ∧ Gap rest []

/-! ## Skipping constants and numbers -/

theorem scanWord_append (letters rest : List Char) : scanWord letters (letters ++ rest) = .ok rest := by
  induction letters with
  | nil => rw [scanWord, List.nil_append]
  | cons letter letters ih => rw [List.cons_append, scanWord, if_pos rfl, ih]

theorem eq_append_of_scanWord {letters text rest : List Char}
    (read : scanWord letters text = .ok rest) : text = letters ++ rest := by
  induction letters generalizing text with
  | nil => simpa [scanWord] using read
  | cons letter letters ih =>
      cases text with
      | nil => simp [scanWord] at read
      | cons character text =>
          simp only [scanWord] at read
          split at read
          · rename_i same
            rw [same, ih read]
            rfl
          · cases read

theorem skipDigits_append {digits rest : List Char} (isDigits : IsDigits digits)
    (noDigit : rest.head?.any Char.isDigit = false) : skipDigits (digits ++ rest) = .ok rest := by
  cases digits with
  | nil => exact absurd rfl isDigits.1
  | cons digit digits =>
      rcases List.forall_mem_cons.mp isDigits.2 with ⟨first, others⟩
      simp [skipDigits, first, spanDigits_append others noDigit]

theorem exists_of_skipDigits {text rest : List Char} (read : skipDigits text = .ok rest) :
    ∃ digits, IsDigits digits ∧ text = digits ++ rest := by
  cases text with
  | nil => simp [skipDigits] at read
  | cons digit text =>
      simp only [skipDigits, spanDigits] at read
      split at read
      · rename_i isDigit
        cases read
        refine ⟨digit :: text.takeWhile Char.isDigit, ⟨by simp, ?_⟩, ?_⟩
        · intro other member
          rcases List.mem_cons.mp member with rfl | later
          · exact isDigit
          · exact List.mem_takeWhile_imp later
        · rw [List.cons_append, List.takeWhile_append_dropWhile]
      · cases read

theorem skipWhole_append {whole rest : List Char} (isWhole : IsWhole whole)
    (noDigit : rest.head?.any Char.isDigit = false) : skipWhole (whole ++ rest) = .ok rest := by
  cases isWhole with
  | zero => simp [skipWhole, noDigit]
  | digits isDigits nonzero =>
      have skipped := skipDigits_append isDigits noDigit
      cases whole with
      | nil => exact absurd rfl isDigits.1
      | cons digit digits =>
          have other : digit ≠ '0' := by simpa using nonzero
          simpa [skipWhole, other] using skipped

theorem exists_of_skipWhole {text rest : List Char} (read : skipWhole text = .ok rest) :
    ∃ whole, IsWhole whole ∧ text = whole ++ rest := by
  unfold skipWhole at read
  split at read
  · split at read
    · cases read
    · cases read
      exact ⟨['0'], .zero, rfl⟩
  · rename_i nonzero
    rcases exists_of_skipDigits read with ⟨digits, isDigits, rfl⟩
    refine ⟨digits, .digits isDigits ?_, rfl⟩
    cases digits with
    | nil => exact absurd rfl isDigits.1
    | cons digit digits =>
        rintro zero
        simp only [List.head?_cons, Option.some.injEq] at zero
        exact nonzero _ (by rw [zero]; rfl)

theorem skipFraction_append {fraction rest : List Char} (isFraction : IsFraction fraction)
    (noDigit : rest.head?.any Char.isDigit = false) (noPoint : rest.head? ≠ some '.') :
    skipFraction (fraction ++ rest) = .ok rest := by
  cases isFraction with
  | none =>
      rw [List.nil_append]
      unfold skipFraction
      split
      · exact absurd rfl noPoint
      · rfl
  | digits isDigits => exact skipDigits_append isDigits noDigit

theorem exists_of_skipFraction {text rest : List Char} (read : skipFraction text = .ok rest) :
    ∃ fraction, IsFraction fraction ∧ text = fraction ++ rest := by
  unfold skipFraction at read
  split at read
  · rcases exists_of_skipDigits read with ⟨digits, isDigits, rfl⟩
    exact ⟨'.' :: digits, .digits isDigits, rfl⟩
  · cases read
    exact ⟨[], .none, rfl⟩

theorem skipExponent_append {exponent rest : List Char} (isExponent : IsExponent exponent)
    (ends : EndsNumber rest) : skipExponent (exponent ++ rest) = .ok rest := by
  cases isExponent with
  | none =>
      cases rest with
      | nil => rfl
      | cons letter rest => simp [skipExponent, ends.2.2.1, ends.2.2.2]
  | digits isLetter isSign isDigits =>
      have skipped := skipDigits_append isDigits ends.noDigit
      rcases isSign with rfl | rfl | rfl
      · rename_i digits
        cases digits with
        | nil => exact absurd rfl isDigits.1
        | cons digit digits =>
            have isDigit := isDigits.2 digit List.mem_cons_self
            have unsigned : ¬(digit = '+' ∨ digit = '-') := by
              rintro (rfl | rfl) <;> cases isDigit
            simpa [skipExponent, isLetter, unsigned] using skipped
      · simpa [skipExponent, isLetter] using skipped
      · simpa [skipExponent, isLetter] using skipped

theorem exists_of_skipExponent {text rest : List Char} (read : skipExponent text = .ok rest) :
    ∃ exponent, IsExponent exponent ∧ text = exponent ++ rest := by
  unfold skipExponent at read
  split at read
  · rename_i letter text
    split at read
    · rename_i isLetter
      have letters : letter = 'e' ∨ letter = 'E' := by simpa using isLetter
      split at read
      · rename_i sign digits
        split at read
        · rename_i isSign
          rcases exists_of_skipDigits read with ⟨found, isDigits, rfl⟩
          refine ⟨letter :: ([sign] ++ found), .digits letters ?_ isDigits, by simp⟩
          right
          simpa using isSign
        · rcases exists_of_skipDigits read with ⟨found, isDigits, split⟩
          exact ⟨letter :: ([] ++ found), .digits letters (.inl rfl) isDigits, by simp [split]⟩
      · simp [skipDigits] at read
    · cases read
      exact ⟨[], .none, rfl⟩
  · cases read
    exact ⟨[], .none, rfl⟩

/-- After the digits of a number comes its point, its exponent or what ends it. -/
theorem IsExponent.noDigit_append {exponent rest : List Char} (isExponent : IsExponent exponent)
    (ends : EndsNumber rest) :
    (exponent ++ rest).head?.any Char.isDigit = false ∧ (exponent ++ rest).head? ≠ some '.' := by
  cases isExponent with
  | none =>
      refine ⟨ends.noDigit, ?_⟩
      cases rest with
      | nil => simp
      | cons character rest => simpa using ends.2.1
  | digits isLetter isSign isDigits => rcases isLetter with rfl | rfl <;> exact ⟨rfl, by simp⟩

theorem skipNumber_append {digits rest : List Char} (isNumber : IsNumber digits)
    (ends : EndsNumber rest) : skipNumber (digits ++ rest) = .ok rest := by
  cases isNumber with
  | @parts whole fraction exponent isWhole isFraction isExponent =>
      rcases isExponent.noDigit_append ends with ⟨noDigit, noPoint⟩
      have afterWhole : (fraction ++ (exponent ++ rest)).head?.any Char.isDigit = false := by
        cases isFraction with
        | none => exact noDigit
        | digits isDigits => rfl
      simp [skipNumber, skipWhole_append isWhole afterWhole,
        skipFraction_append isFraction noDigit noPoint, skipExponent_append isExponent ends, bind,
        Except.bind]

theorem exists_of_skipNumber {text rest : List Char} (read : skipNumber text = .ok rest) :
    ∃ digits, IsNumber digits ∧ text = digits ++ rest := by
  rw [skipNumber] at read
  rcases exists_of_bind read with ⟨afterWhole, wholeRead, read⟩
  rcases exists_of_bind read with ⟨afterFraction, fractionRead, exponentRead⟩
  rcases exists_of_skipWhole wholeRead with ⟨whole, isWhole, rfl⟩
  rcases exists_of_skipFraction fractionRead with ⟨fraction, isFraction, rfl⟩
  rcases exists_of_skipExponent exponentRead with ⟨exponent, isExponent, rfl⟩
  exact ⟨_, .parts isWhole isFraction isExponent, by simp⟩

/-! ## Skipping strings -/

theorem skipString_of_skipEscape {text rest : List Char} (escaped : skipEscape text = .ok rest) :
    skipString ('\\' :: text) = skipString rest := by
  rw [skipString]
  split
  · simp_all
  · simp_all

theorem skipString_append {characters : List Char} (isQuoted : IsQuoted characters)
    (rest : List Char) : skipString (characters ++ '"' :: rest) = .ok rest := by
  induction isQuoted with
  | nil => rw [List.nil_append, skipString]
  | plain visible unquoted unescaped later ih =>
      rw [List.cons_append, skipString, if_neg visible, ih]
      · exact unquoted
      · exact unescaped
  | @short letter character text means later ih =>
      have escaped : skipEscape (letter :: (text ++ '"' :: rest)) = .ok (text ++ '"' :: rest) := by
        unfold skipEscape
        split
        · simp_all
        · simp_all [shortEscape]
        · simp_all
      rw [List.cons_append, List.cons_append, skipString_of_skipEscape escaped, ih]
  | @unit unit digits text means later ih =>
      have escaped : skipEscape ('u' :: (digits ++ (text ++ '"' :: rest))) =
          .ok (text ++ '"' :: rest) := by
        simp [skipEscape, scanHexUnit_of_hexUnit means, Except.map]
      rw [List.cons_append, List.cons_append, List.append_assoc,
        skipString_of_skipEscape escaped, ih]

theorem IsQuoted.of_skipEscape {text after rest characters : List Char}
    (read : skipEscape text = .ok after) (later : IsQuoted characters)
    (split : after = characters ++ rest) :
    ∃ escaped, IsQuoted ('\\' :: escaped) ∧ text = escaped ++ rest := by
  unfold skipEscape at read
  split at read
  · cases read
  · rcases exists_of_map read with ⟨⟨unit, remains⟩, scanned, same⟩
    rcases exists_of_scanHexUnit scanned with ⟨digits, means, rfl⟩
    have remains_eq : remains = after := same
    exact ⟨'u' :: (digits ++ characters), .unit means later, by simp [remains_eq, split]⟩
  · rename_i letter tail _
    split at read
    · rename_i known
      rcases Option.isSome_iff_exists.mp known with ⟨character, means⟩
      cases read
      exact ⟨letter :: characters, .short means later, by simp [split]⟩
    · cases read

theorem exists_of_skipString {text rest : List Char} (read : skipString text = .ok rest) :
    ∃ characters, IsQuoted characters ∧ text = characters ++ '"' :: rest := by
  fun_induction skipString text with
  | case1 => cases read
  | case2 text =>
      cases read
      exact ⟨[], .nil, rfl⟩
  | case3 text fault refused => cases read
  | case4 text after skipped shorter ih =>
      rcases ih read with ⟨characters, isQuoted, split⟩
      rcases IsQuoted.of_skipEscape skipped isQuoted split with ⟨escaped, isEscaped, rfl⟩
      exact ⟨'\\' :: escaped, isEscaped, rfl⟩
  | case5 character text unquoted unescaped control => cases read
  | case6 character text unquoted unescaped visible ih =>
      rcases ih read with ⟨characters, isQuoted, rfl⟩
      exact ⟨character :: characters, .plain visible unquoted unescaped isQuoted, rfl⟩

end StreamingChat.Json
