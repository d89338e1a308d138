import StreamingChat.Json.Reader
import StreamingChat.Json.Value

/-!
# Spellings of values

A text that begins with a value may spell it in several ways: there may be space between any two
tokens, and a character of a string may stand for itself or be escaped. Here a spelling relates a
value to the text that begins with it and to the text that follows, so that nothing has to be said
about how texts are put together. Both layouts are spellings, which this file shows, and readers
accept every spelling, which the next ones do.
-/

namespace StreamingChat.Json

/-- A text with space in front of the rest. -/
inductive Gap : List Char → List Char → Prop where
  | none (rest : List Char) : Gap rest rest
  | space {character : Char} {text rest : List Char} (isSpace : isSpace character = true)
      (gap : Gap text rest) : Gap (character :: text) rest

/-- Four hexadecimal digits and the number that they stand for. -/
inductive HexUnit : List Char → Nat → Prop where
  | digits {first second third fourth : Char} {a b c d : Nat}
      (first_eq : Text.hexValue first = some a) (second_eq : Text.hexValue second = some b)
      (third_eq : Text.hexValue third = some c) (fourth_eq : Text.hexValue fourth = some d) :
      HexUnit [first, second, third, fourth] (((a * 16 + b) * 16 + c) * 16 + d)

/-- A text that begins with the characters of a string and its closing quote. -/
inductive SpellsChars : List Char → List Char → List Char → Prop where
  | quote (rest : List Char) : SpellsChars [] ('"' :: rest) rest
  | plain {character : Char} {characters text rest : List Char} (visible : ¬character < ' ')
      (unquoted : character ≠ '"') (unescaped : character ≠ '\\')
      (spelled : SpellsChars characters text rest) :
      SpellsChars (character :: characters) (character :: text) rest
  | short {letter character : Char} {characters text rest : List Char}
      (means : shortEscape letter = some character)
      (spelled : SpellsChars characters text rest) :
      SpellsChars (character :: characters) ('\\' :: letter :: text) rest
  | unit {character : Char} {digits characters text rest : List Char}
      (means : HexUnit digits character.toNat)
      (spelled : SpellsChars characters text rest) :
      SpellsChars (character :: characters) ('\\' :: 'u' :: (digits ++ text)) rest
  /-- A character past U+FFFF is escaped by a pair of surrogates. -/
  | surrogates {character : Char} {leading trailing : Nat}
      {first second characters text rest : List Char} (leads : HexUnit first leading)
      (trails : HexUnit second trailing) (isLeading : 0xD800 ≤ leading ∧ leading < 0xDC00)
      (isTrailing : 0xDC00 ≤ trailing ∧ trailing < 0xE000)
      (number : character.toNat = 0x10000 + (leading - 0xD800) * 0x400 + (trailing - 0xDC00))
      (spelled : SpellsChars characters text rest) :
      SpellsChars (character :: characters)
        ('\\' :: 'u' :: (first ++ '\\' :: 'u' :: (second ++ text))) rest

/-- A text that does not go on with a number. -/
def EndsNumber : List Char → Prop
  | [] => True
  | character :: _ =>
      character.isDigit = false ∧ character ≠ '.' ∧ character ≠ 'e' ∧ character ≠ 'E'

mutual

/-- A text that begins with a value. -/
inductive Spells : Value → List Char → List Char → Prop where
  | boolean (value : Bool) (rest : List Char) :
      Spells (.boolean value) (Value.writeBoolean value ++ rest) rest
  | natural (value : Nat) {rest : List Char} (ends : EndsNumber rest) :
      Spells (.natural value) (Nat.toDigits 10 value ++ rest) rest
  | string {value : String} {text rest : List Char}
      (spelled : SpellsChars value.toList text rest) : Spells (.string value) ('"' :: text) rest
  | emptyList {text rest : List Char} (gap : Gap text (']' :: rest)) :
      Spells (.list []) ('[' :: text) rest
  | list {first : Value} {others : List Value} {text element after rest : List Char}
      (gap : Gap text element) (spelled : Spells first element after)
      (later : SpellsElements others after rest) :
      Spells (.list (first :: others)) ('[' :: text) rest
  | emptyObject {text rest : List Char} (gap : Gap text ('\x7d' :: rest)) :
      Spells (.object []) ('\x7b' :: text) rest
  | object {first : String × Value} {others : List (String × Value)}
      {text member after rest : List Char} (gap : Gap text member)
      (spelled : SpellsMember first member after) (later : SpellsMembers others after rest) :
      Spells (.object (first :: others)) ('\x7b' :: text) rest

/-- A text that begins with the further elements of a list and its end. -/
inductive SpellsElements : List Value → List Char → List Char → Prop where
  | close {text rest : List Char} (gap : Gap text (']' :: rest)) : SpellsElements [] text rest
  | next {first : Value} {others : List Value} {text further element after rest : List Char}
      (comma : Gap text (',' :: further)) (gap : Gap further element)
      (spelled : Spells first element after) (later : SpellsElements others after rest) :
      SpellsElements (first :: others) text rest

/-- A text that begins with a member of an object. -/
inductive SpellsMember : String × Value → List Char → List Char → Prop where
  | pair {name : String} {value : Value} {text after further valueText rest : List Char}
      (spelledName : SpellsChars name.toList text after) (colon : Gap after (':' :: further))
      (gap : Gap further valueText) (spelled : Spells value valueText rest) :
      SpellsMember (name, value) ('"' :: text) rest

/-- A text that begins with the further members of an object and its end. -/
inductive SpellsMembers : List (String × Value) → List Char → List Char → Prop where
  | close {text rest : List Char} (gap : Gap text ('\x7d' :: rest)) : SpellsMembers [] text rest
  | next {first : String × Value} {others : List (String × Value)}
      {text further member after rest : List Char} (comma : Gap text (',' :: further))
      (gap : Gap further member) (spelled : SpellsMember first member after)
      (later : SpellsMembers others after rest) : SpellsMembers (first :: others) text rest

end

/-! ## What spellings begin with -/

theorem Gap.skipSpace_eq {text rest : List Char} (gap : Gap text rest) :
    skipSpace text = skipSpace rest := by
  induction gap with
  | none rest => rfl
  | space isSpace gap ih => rw [skipSpace, List.dropWhile_cons_of_pos isSpace, ← skipSpace, ih]

theorem Gap.length_le {text rest : List Char} (gap : Gap text rest) :
    rest.length ≤ text.length := by
  induction gap with
  | none rest => exact Nat.le_refl _
  | space isSpace gap ih => exact Nat.le_succ_of_le ih

theorem Gap.trans {text middle rest : List Char} (first : Gap text middle)
    (second : Gap middle rest) : Gap text rest := by
  induction first with
  | none => exact second
  | space isSpace gap ih => exact .space isSpace (ih second)

theorem gap_nil_iff {text : List Char} :
    Gap text [] ↔ ∀ character ∈ text, isSpace character = true := by
  constructor
  · intro gap
    generalize ended : ([] : List Char) = rest at gap
    induction gap with
    | none => simp [← ended]
    | space isSpace gap ih => exact List.forall_mem_cons.mpr ⟨isSpace, ih ended⟩
  · intro spaces
    induction text with
    | nil => exact .none []
    | cons character text ih =>
        rcases List.forall_mem_cons.mp spaces with ⟨first, others⟩
        exact .space first (ih others)

/-- Readers find a token after the space in front of it. -/
theorem Gap.skipSpace_token {text : List Char} {token : Char} {rest : List Char}
    (gap : Gap text (token :: rest)) (visible : isSpace token = false) :
    skipSpace text = token :: rest := by
  rw [gap.skipSpace_eq, skipSpace, List.dropWhile_cons_of_neg (by simp [visible])]

theorem exists_toDigits (value : Nat) :
    ∃ digit others, Nat.toDigits 10 value = digit :: others ∧ digit.isDigit = true ∧
      ∀ other ∈ others, other.isDigit = true := by
  have allDigits (digit : Char) (member : digit ∈ Nat.toDigits 10 value) : digit.isDigit = true :=
    Nat.isDigit_of_mem_toDigits (by decide) (by decide) member
  cases digits : Nat.toDigits 10 value with
  | nil => exact absurd digits Nat.toDigits_ne_nil
  | cons digit others =>
      rw [digits] at allDigits
      exact ⟨digit, others, rfl, List.forall_mem_cons.mp allDigits⟩

theorem isSpace_of_isDigit {digit : Char} (isDigit : digit.isDigit = true) :
    isSpace digit = false := by
  cases spaced : isSpace digit with
  | false => rfl
  | true =>
      simp only [isSpace, Bool.or_eq_true, decide_eq_true_eq] at spaced
      rcases spaced with ((rfl | rfl) | rfl) | rfl <;> cases isDigit

/-! ## Written strings -/

theorem hexValue_digitChar {digit : Nat} (small : digit < 16) :
    Text.hexValue (Nat.digitChar digit) = some digit := by
  revert digit
  decide

/-- A control character is escaped by its number, of which only the last two digits are not zero. -/
theorem hexUnit_of_control {character : Char} (control : character < ' ') :
    HexUnit ['0', '0', Nat.digitChar (character.toNat / 16), Nat.digitChar (character.toNat % 16)]
      character.toNat := by
  have below : character.toNat < 32 := control
  have unit := HexUnit.digits (by rfl : Text.hexValue '0' = some 0)
    (by rfl : Text.hexValue '0' = some 0)
    (hexValue_digitChar (by omega : character.toNat / 16 < 16))
    (hexValue_digitChar (by omega : character.toNat % 16 < 16))
  have whole : ((0 * 16 + 0) * 16 + character.toNat / 16) * 16 + character.toNat % 16 =
      character.toNat := by omega
  rwa [whole] at unit

theorem spellsChars_writeChar {character : Char} {characters text rest : List Char}
    (spelled : SpellsChars characters text rest) :
    SpellsChars (character :: characters) (writeChar character ++ text) rest := by
  unfold writeChar
  split
  · exact .short rfl spelled
  · exact .short rfl spelled
  · exact .short rfl spelled
  · exact .short rfl spelled
  · exact .short rfl spelled
  · exact .short rfl spelled
  · exact .short rfl spelled
  · rename_i unquoted unescaped _ _ _ _ _
    split
    · rename_i control
      exact .unit (hexUnit_of_control control) spelled
    · rename_i visible
      exact .plain visible unquoted unescaped spelled

theorem spellsChars_write (characters rest : List Char) :
    SpellsChars characters (characters.flatMap writeChar ++ '"' :: rest) rest := by
  induction characters with
  | nil => exact .quote rest
  | cons character characters ih =>
      rw [List.flatMap_cons, List.append_assoc]
      exact spellsChars_writeChar ih

/-! ## Values over several lines -/

namespace Value

theorem gap_newLine (level : Nat) (rest : List Char) : Gap (newLine level ++ rest) rest := by
  have spaces (count : Nat) : Gap (List.replicate count ' ' ++ rest) rest := by
    induction count with
    | zero => exact .none rest
    | succ count ih => exact .space rfl ih
  exact .space rfl (spaces (2 * level))

theorem endsNumber_elements (level : Nat) (elements : List Value) (rest : List Char) :
    EndsNumber (prettyElements level elements ++ rest) := by
  cases elements <;> exact ⟨rfl, by decide, by decide, by decide⟩

theorem endsNumber_members (level : Nat) (members : List (String × Value)) (rest : List Char) :
    EndsNumber (prettyMembers level members ++ rest) := by
  cases members <;> exact ⟨rfl, by decide, by decide, by decide⟩

theorem spells_writeString (value : String) (rest : List Char) :
    Spells (.string value) (writeString value ++ rest) rest := by
  rw [writeString, List.cons_append, List.append_assoc]
  exact .string (spellsChars_write value.toList rest)

theorem spellsMember_pretty {value : Value} {text rest : List Char} (name : String)
    (spelled : Spells value text rest) :
    SpellsMember (name, value) (writeString name ++ ([':', ' '] ++ text)) rest := by
  rw [writeString, List.cons_append, List.append_assoc]
  exact .pair (spellsChars_write name.toList _) (.none _) (.space rfl (.none _)) spelled

mutual

/-- Values over several lines are spelled out. -/
theorem spells_prettyChars (level : Nat) (value : Value) {rest : List Char}
    (ends : EndsNumber rest) : Spells value (value.prettyChars level ++ rest) rest := by
  cases value with
  | boolean value => exact .boolean value rest
  | natural value => exact .natural value ends
  | string value => exact spells_writeString value rest
  | list elements =>
      cases elements with
      | nil => exact .emptyList (.none _)
      | cons first others =>
          -- If the first element is a number, what is written behind it ends it.
          have later := spellsElements_pretty level others rest
          have spelled := spells_prettyChars (level + 1) first
            (endsNumber_elements level others rest)
          simp only [prettyChars, List.cons_append, List.append_assoc]
          exact .list (gap_newLine (level + 1) _) spelled later
  | object members =>
      cases members with
      | nil => exact .emptyObject (.none _)
      | cons first others =>
          rcases first with ⟨name, value⟩
          have later := spellsMembers_pretty level others rest
          have spelled := spells_prettyChars (level + 1) value
            (endsNumber_members level others rest)
          simp only [prettyChars, List.cons_append, List.append_assoc]
          exact .object (gap_newLine (level + 1) _) (spellsMember_pretty name spelled) later

theorem spellsElements_pretty (level : Nat) (elements : List Value) (rest : List Char) :
    SpellsElements elements (prettyElements level elements ++ rest) rest := by
  cases elements with
  | nil =>
      rw [prettyElements, List.append_assoc]
      exact .close (gap_newLine level _)
  | cons first others =>
      have later := spellsElements_pretty level others rest
      have spelled := spells_prettyChars (level + 1) first (endsNumber_elements level others rest)
      simp only [prettyElements, List.cons_append, List.append_assoc]
      exact .next (.none _) (gap_newLine (level + 1) _) spelled later

theorem spellsMembers_pretty (level : Nat) (members : List (String × Value)) (rest : List Char) :
    SpellsMembers members (prettyMembers level members ++ rest) rest := by
  cases members with
  | nil =>
      rw [prettyMembers, List.append_assoc]
      exact .close (gap_newLine level _)
  | cons first others =>
      rcases first with ⟨name, value⟩
      have later := spellsMembers_pretty level others rest
      have spelled := spells_prettyChars (level + 1) value (endsNumber_members level others rest)
      simp only [prettyMembers, List.cons_append, List.append_assoc]
      exact .next (.none _) (gap_newLine (level + 1) _) (spellsMember_pretty name spelled) later

end

/-! ## Values on one line -/

theorem endsNumber_compactElements (elements : List Value) (rest : List Char) :
    EndsNumber (compactElements elements ++ rest) := by
  cases elements <;> exact ⟨rfl, by decide, by decide, by decide⟩

theorem endsNumber_compactMembers (members : List (String × Value)) (rest : List Char) :
    EndsNumber (compactMembers members ++ rest) := by
  cases members <;> exact ⟨rfl, by decide, by decide, by decide⟩

theorem spellsMember_compact {value : Value} {text rest : List Char} (name : String)
    (spelled : Spells value text rest) :
    SpellsMember (name, value) (writeString name ++ ':' :: text) rest := by
  rw [writeString, List.cons_append, List.append_assoc]
  exact .pair (spellsChars_write name.toList _) (.none _) (.none _) spelled

mutual

/-- Values on one line are spelled out. -/
theorem spells_compactChars (value : Value) {rest : List Char} (ends : EndsNumber rest) :
    Spells value (value.compactChars ++ rest) rest := by
  cases value with
  | boolean value => exact .boolean value rest
  | natural value => exact .natural value ends
  | string value => exact spells_writeString value rest
  | list elements =>
      cases elements with
      | nil => exact .emptyList (.none _)
      | cons first others =>
          have later := spellsElements_compact others rest
          have spelled := spells_compactChars first (endsNumber_compactElements others rest)
          simp only [compactChars, List.cons_append, List.append_assoc]
          exact .list (.none _) spelled later
  | object members =>
      cases members with
      | nil => exact .emptyObject (.none _)
      | cons first others =>
          rcases first with ⟨name, value⟩
          have later := spellsMembers_compact others rest
          have spelled := spells_compactChars value (endsNumber_compactMembers others rest)
          simp only [compactChars, List.cons_append, List.append_assoc]
          exact .object (.none _) (spellsMember_compact name spelled) later

theorem spellsElements_compact (elements : List Value) (rest : List Char) :
    SpellsElements elements (compactElements elements ++ rest) rest := by
  cases elements with
  | nil => exact .close (.none _)
  | cons first others =>
      have later := spellsElements_compact others rest
      have spelled := spells_compactChars first (endsNumber_compactElements others rest)
      simp only [compactElements, List.cons_append, List.append_assoc]
      exact .next (.none _) (.none _) spelled later

theorem spellsMembers_compact (members : List (String × Value)) (rest : List Char) :
    SpellsMembers members (compactMembers members ++ rest) rest := by
  cases members with
  | nil => exact .close (.none _)
  | cons first others =>
      rcases first with ⟨name, value⟩
      have later := spellsMembers_compact others rest
      have spelled := spells_compactChars value (endsNumber_compactMembers others rest)
      simp only [compactMembers, List.cons_append, List.append_assoc]
      exact .next (.none _) (.none _) (spellsMember_compact name spelled) later

end

end Value

end StreamingChat.Json
