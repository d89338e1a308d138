import StreamingChat.Proofs.Json.Records

/-!
# Readers accept spellings

A reader accepts a value when it reads every spelling of it, with any space in front, and stops
right behind it. Lists are accepted when their elements are. A record is accepted when its members
fill a draft, each of them a field that is still missing, whatever their order; it is read also when
other members stand among them.
-/

namespace StreamingChat.Json

variable {α β δ : Type}

/-- Whether a reader reads every spelling of a value, with the same result. -/
def Reader.Accepts (reader : Reader α) (value : Value) (result : α) : Prop :=
  ∀ ⦃gapped text rest : List Char⦄, Gap gapped text → Spells value text rest →
    reader gapped = .ok (result, rest)

/-! ## Spellings are well-formed -/

theorem isNumber_toDigits (value : Nat) : IsNumber (Nat.toDigits 10 value) := by
  have isWhole : IsWhole (Nat.toDigits 10 value) := by
    by_cases zero : value = 0
    · subst zero
      exact .zero
    · refine .digits ⟨Nat.toDigits_ne_nil, ?_⟩ ?_
      · intro digit member
        exact Nat.isDigit_of_mem_toDigits (by decide) (by decide) member
      · intro first
        rcases List.head?_eq_some_iff.mp first with ⟨others, digits⟩
        exact zero (eq_zero_of_toDigits digits)
  simpa using IsNumber.parts isWhole .none .none

mutual

theorem Spells.wellFormed {value : Value} {text rest : List Char}
    (spelled : Spells value text rest) : WellFormed .value text rest := by
  cases value with
  | boolean value =>
      cases spelled
      cases value
      · exact .constant .false rest
      · exact .constant .true rest
  | natural value =>
      cases spelled
      exact .number (isNumber_toDigits value) rest
  | string value =>
      rcases spelled with _ | _ | ⟨spelled⟩
      rcases spelled.exists_isQuoted with ⟨quoted, isQuoted, rfl⟩
      exact .string isQuoted rest
  | list elements =>
      cases elements with
      | nil =>
          cases spelled with
          | emptyList gap => exact .empty .list gap
      | cons first others =>
          cases spelled with
          | list gap spelled later => exact .filled .list gap spelled.wellFormed later.wellFormed
  | object members =>
      cases members with
      | nil =>
          cases spelled with
          | emptyObject gap => exact .empty .object gap
      | cons first others =>
          cases spelled with
          | object gap spelled later =>
              exact .filled .object gap spelled.wellFormed later.wellFormed

theorem SpellsElements.wellFormed {elements : List Value} {text rest : List Char}
    (spelled : SpellsElements elements text rest) : WellFormed (.further .list) text rest := by
  cases elements with
  | nil =>
      cases spelled with
      | close gap => exact .close .list gap
  | cons first others =>
      cases spelled with
      | next comma gap spelled later =>
          exact .next .list comma gap spelled.wellFormed later.wellFormed

theorem SpellsMember.wellFormed {member : String × Value} {text rest : List Char}
    (spelled : SpellsMember member text rest) : WellFormed .member text rest := by
  rcases member with ⟨name, value⟩
  cases spelled with
  | pair spelledName colon gap spelled =>
      rcases spelledName.exists_isQuoted with ⟨quoted, isQuoted, rfl⟩
      exact .member isQuoted colon gap spelled.wellFormed

theorem SpellsMembers.wellFormed {members : List (String × Value)} {text rest : List Char}
    (spelled : SpellsMembers members text rest) : WellFormed (.further .object) text rest := by
  cases members with
  | nil =>
      cases spelled with
      | close gap => exact .close .object gap
  | cons first others =>
      cases spelled with
      | next comma gap spelled later =>
          exact .next .object comma gap spelled.wellFormed later.wellFormed

end

/-! ## Items of spelled values -/

theorem SpellsElements.items {elements : List Value} {text rest : List Char}
    (spelled : SpellsElements elements text rest) :
    SpellsItems .list Spells false elements text rest := by
  induction elements generalizing text with
  | nil =>
      cases spelled with
      | close gap => exact .close false gap
  | cons first others ih =>
      cases spelled with
      | next comma gap spelled later => exact .item (.further comma gap) spelled (ih later)

theorem Spells.elements {elements : List Value} {text rest : List Char}
    (spelled : Spells (.list elements) text rest) :
    ∃ inside, text = '[' :: inside ∧ SpellsItems .list Spells true elements inside rest := by
  cases spelled with
  | emptyList gap => exact ⟨_, rfl, .close true gap⟩
  | list gap spelled later => exact ⟨_, rfl, .item (.first gap) spelled later.items⟩

theorem SpellsMember.pair_spells {member : String × Value} {text rest : List Char}
    (spelled : SpellsMember member text rest) : SpellsPair Spells member text rest := by
  cases spelled with
  | pair spelledName colon gap spelled => exact .pair spelledName colon gap spelled

theorem SpellsMembers.items {members : List (String × Value)} {text rest : List Char}
    (spelled : SpellsMembers members text rest) :
    SpellsItems .object (SpellsPair Spells) false members text rest := by
  induction members generalizing text with
  | nil =>
      cases spelled with
      | close gap => exact .close false gap
  | cons first others ih =>
      cases spelled with
      | next comma gap spelled later =>
          exact .item (.further comma gap) spelled.pair_spells (ih later)

theorem Spells.members {members : List (String × Value)} {text rest : List Char}
    (spelled : Spells (.object members) text rest) :
    ∃ inside, text = '\x7b' :: inside ∧
      SpellsItems .object (SpellsPair Spells) true members inside rest := by
  cases spelled with
  | emptyObject gap => exact ⟨_, rfl, .close true gap⟩
  | object gap spelled later => exact ⟨_, rfl, .item (.first gap) spelled.pair_spells later.items⟩

/-! ## Scalars -/

namespace Reader

theorem accepts_stringCalled (wanted value : String) :
    (stringCalled wanted).Accepts (.string value) value := by
  intro gapped text rest gap spelled
  cases spelled with
  | string spelled => exact stringCalled_eq_ok_iff.mpr ⟨_, gap, spelled⟩

theorem accepts_boolean (value : Bool) : boolean.Accepts (.boolean value) value := by
  intro gapped text rest gap spelled
  cases spelled with
  | boolean value rest =>
      cases value with
      | false =>
          have token : skipSpace gapped = 'f' :: ['a', 'l', 's', 'e'] ++ rest :=
            gap.skipSpace_token rfl
          simp [boolean, token, word, scanWord, Except.map]
      | true =>
          have token : skipSpace gapped = 't' :: ['r', 'u', 'e'] ++ rest :=
            gap.skipSpace_token rfl
          simp [boolean, token, word, scanWord, Except.map]

theorem accepts_natural (value : UInt64) : natural.Accepts (.natural value.toNat) value := by
  intro gapped text rest gap spelled
  cases spelled with
  | natural _ ends =>
      have fits : value.toNat ≤ maxSignificand := Nat.le_sub_one_of_lt value.toNat_lt
      have read := scanNumber_toDigits fits ends
      rcases exists_toDigits value.toNat with ⟨digit, others, digits, isDigit, -⟩
      rw [digits, List.cons_append] at gap read
      have token := gap.skipSpace_token (isSpace_of_isDigit isDigit)
      have notMinus : digit ≠ '-' := by
        rintro rfl
        cases isDigit
      -- The reader tells a sign from a digit before it reads the number.
      unfold natural
      rw [token]
      split
      · simp_all
      · rename_i first after split
        cases split
        simp [isDigit, read, bind, Except.bind, asNatural]
      · simp_all

theorem Accepts.decoded {wanted value : String} {decode : String → Except Cause α} {result : α}
    (decodes : decode value = .ok result) :
    (Reader.decoded wanted decode).Accepts (.string value) result := by
  intro gapped text rest gap spelled
  have read := accepts_stringCalled wanted value gap spelled
  simp [Reader.decoded, StateT.run, read, bind, Except.bind, decodes]

theorem Accepts.map {reader : Reader α} {value : Value} {result : α}
    (accepts : reader.Accepts value result) (change : α → β) :
    Accepts (do let found ← reader; pure (change found)) value (change result) := by
  intro gapped text rest gap spelled
  have step : (do let found ← reader; pure (change found) : Reader β) gapped =
      (reader gapped).bind fun found => .ok (change found.1, found.2) := rfl
  rw [step, accepts gap spelled]
  rfl

/-! ## Lists -/

variable {reader : Reader α} {toValue : α → Value}

/-- The elements are read one by one up to the end of the list. -/
theorem elements_of_spells (accepts : ∀ element, reader.Accepts (toValue element) element)
    {values : List α} {done : Array α} {text rest : List Char}
    (spelled : SpellsItems .list Spells done.isEmpty (values.map toValue) text rest) {fuel : Nat}
    (enough : values.length < fuel) :
    ∃ closing, elements reader fuel done text = .ok (done ++ values, closing) ∧
      Gap closing (']' :: rest) := by
  induction values generalizing text done fuel with
  | nil =>
      rcases fuel with _ | fuel
      · cases enough
      cases spelled with
      | close _ gap =>
          have ended : nextElement done.isEmpty text = .ok none := nextElement_of_closing gap
          exact ⟨text, by simp [elements, ended, bind, Except.bind], gap⟩
  | cons first others ih =>
      rcases fuel with _ | fuel
      · cases enough
      cases spelled with
      | item reached spelled later =>
          have further : (done.push first).isEmpty = false := by simp
          rw [← further] at later
          rcases ih later (Nat.lt_of_succ_lt_succ enough) with ⟨closing, readLater, ends⟩
          have element := nextElement_of_reaches reached spelled.wellFormed
          have read := accepts first (.none _) spelled
          refine ⟨closing, ?_, ends⟩
          simp [elements, element, StateT.run, read, readLater, bind, Except.bind]

theorem accepts_list (accepts : ∀ element, reader.Accepts (toValue element) element)
    (elements : List α) : (list reader).Accepts (.list (elements.map toValue)) elements := by
  intro gapped text rest gap spelled
  rcases spelled.elements with ⟨inside, rfl, items⟩
  -- The fuel is the length of the text, of which each element takes a character at least.
  have enough := items.length_lt fun spelled => spelled.wellFormed.length_lt
  rw [List.length_map] at enough
  have begun : SpellsItems .list Spells (#[] : Array α).isEmpty (elements.map toValue) inside rest :=
    items
  rcases elements_of_spells accepts begun (Nat.lt_succ_of_lt enough) with ⟨closing, read, ends⟩
  simp [list, gap.skipSpace_token rfl, read, closeList_eq_ok_iff.mpr ends, bind, Except.bind]

end Reader

/-! ## Records -/

namespace Shape

variable {shape : Shape δ α}

/-- Members that fill a draft: each of them is a field that the draft misses, and the reader of the
field accepts its value. -/
inductive Fills (shape : Shape δ α) : δ → List (String × Value) → δ → Prop where
  | full (draft : δ) : Fills shape draft [] draft
  | member {draft next final : δ} {name : String} {value : Value}
      {others : List (String × Value)} {field : Field δ}
      (found : shape.fields.find? (fun field => field.name == name) = some field)
      (missing : field.given draft = false) (accepts : (field.read draft).Accepts value next)
      (later : Fills shape next others final) : Fills shape draft ((name, value) :: others) final

/-- What a draft takes for a field is what the reader of the field accepts. -/
def AcceptsField (field : Field δ) (draft : δ) (value : Value) (next : δ) : Prop :=
  (field.read draft).Accepts value next

theorem complete_acceptsField : shape.Complete Spells AcceptsField where
  wellFormed := Spells.wellFormed
  read := by
    intro field _ draft next value gapped text rest accepts gap spelled _
    exact accepts gap spelled

theorem Fills.takesAll {draft final : δ} {members : List (String × Value)}
    (fills : Fills shape draft members final) :
    TakesAll (shape.TakesMember AcceptsField) draft members final := by
  induction fills with
  | full draft => exact .done draft
  | member found missing accepts later ih => exact .item (.field found missing accepts) ih

/-- A record is read from any object whose members fill its draft. -/
theorem accepts_reader {members : List (String × Value)} {final : δ} {record : α}
    (fills : Fills shape shape.blank members final) (finished : shape.finish final = .ok record) :
    shape.reader.Accepts (.object members) record := by
  intro gapped text rest gap spelled
  rcases spelled.members with ⟨inside, rfl, items⟩
  exact complete_acceptsField.reader_eq gap (.object items fills.takesAll finished)

end Shape

/-! ## Records among unknown members -/

/-- A text that begins with the value of a member, which may be any value at all where nobody asks
for it. -/
inductive Given : Option Value → List Char → List Char → Prop where
  | value {value : Value} {text rest : List Char} (spelled : Spells value text rest) :
      Given (some value) text rest
  | unasked {text rest : List Char} (wellFormed : WellFormed .value text rest) :
      Given none text rest

theorem Given.wellFormed {item : Option Value} {text rest : List Char}
    (given : Given item text rest) : WellFormed .value text rest := by
  cases given with
  | value spelled => exact spelled.wellFormed
  | unasked wellFormed => exact wellFormed

namespace Shape

/-- What a draft takes for a field among members that nobody asks for. -/
def AcceptsGiven (field : Field δ) (draft : δ) (item : Option Value) (next : δ) : Prop :=
  ∃ value ∈ item, AcceptsField field draft value next

theorem complete_acceptsGiven {shape : Shape δ α} : shape.Complete Given AcceptsGiven where
  wellFormed := Given.wellFormed
  read := by
    rintro field _ draft next _ gapped text rest ⟨value, rfl, accepts⟩ gap ⟨spelled⟩ _
    exact accepts gap spelled

end Shape

end StreamingChat.Json
