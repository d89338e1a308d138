import StreamingChat.Json.Record
import StreamingChat.Proofs.Json.Skipping

/-!
# Texts of records

A record is read from an object or from a list. Which ones it is read from follows from its fields:
`holds` relates an item to the texts that spell it, and `takes` says what reading a field does to a
draft. When the readers of the fields keep to these relations, a record is read exactly from the
texts of `SpellsRecord`: its members are taken one by one in any order and among unknown ones, the
elements of a list in the order of the fields.
-/

namespace StreamingChat.Json

variable {α δ ι : Type}

/-! ## Items of brackets -/

/-- Where an item of a bracket begins: behind a comma, unless it is the first one. -/
inductive Reaches : Bool → List Char → List Char → Prop where
  | first {text item : List Char} (gap : Gap text item) : Reaches true text item
  | further {text further item : List Char} (comma : Gap text (',' :: further))
      (gap : Gap further item) : Reaches false text item

/-- A text that begins with the items of a bracket that are still to come, and with its end. -/
inductive SpellsItems (bracket : Bracket) (holds : ι → List Char → List Char → Prop) :
    Bool → List ι → List Char → List Char → Prop where
  | close (first : Bool) {text rest : List Char} (gap : Gap text (bracket.closing :: rest)) :
      SpellsItems bracket holds first [] text rest
  | item {first : Bool} {item : ι} {others : List ι} {text itemText after rest : List Char}
      (reached : Reaches first text itemText) (held : holds item itemText after)
      (later : SpellsItems bracket holds false others after rest) :
      SpellsItems bracket holds first (item :: others) text rest

/-- A text that begins with a member of an object. -/
inductive SpellsPair (holds : ι → List Char → List Char → Prop) :
    String × ι → List Char → List Char → Prop where
  | pair {name : String} {item : ι} {text after further value rest : List Char}
      (spelledName : SpellsChars name.toList text after) (colon : Gap after (':' :: further))
      (gap : Gap further value) (held : holds item value rest) :
      SpellsPair holds (name, item) ('"' :: text) rest

theorem skipSpace_eq_cons_iff {text rest : List Char} {token : Char}
    (visible : isSpace token = false) :
    skipSpace text = token :: rest ↔ Gap text (token :: rest) :=
  ⟨.of_skipSpace, fun gap => gap.skipSpace_token visible⟩

theorem skipSpace_eq_nil_iff {text : List Char} : skipSpace text = [] ↔ Gap text [] :=
  ⟨.of_skipSpace, fun gap => gap.skipSpace_eq⟩

/-- The characters of a string are quoted, whatever they spell. -/
theorem SpellsChars.exists_isQuoted {characters text rest : List Char}
    (spelled : SpellsChars characters text rest) :
    ∃ quoted, IsQuoted quoted ∧ text = quoted ++ '"' :: rest := by
  induction spelled with
  | quote rest => exact ⟨[], .nil, rfl⟩
  | plain visible unquoted unescaped spelled ih =>
      rcases ih with ⟨quoted, isQuoted, rfl⟩
      exact ⟨_ :: quoted, .plain visible unquoted unescaped isQuoted, rfl⟩
  | short means spelled ih =>
      rcases ih with ⟨quoted, isQuoted, rfl⟩
      exact ⟨_, .short means isQuoted, rfl⟩
  | unit means spelled ih =>
      rcases ih with ⟨quoted, isQuoted, rfl⟩
      exact ⟨_, .unit means isQuoted, by simp⟩
  | surrogates leads trails isLeading isTrailing number spelled ih =>
      rcases ih with ⟨quoted, isQuoted, rfl⟩
      exact ⟨_, .unit leads (.unit trails isQuoted), by simp⟩

theorem Reaches.trans {first : Bool} {text gapped item : List Char}
    (reached : Reaches first text gapped) (gap : Gap gapped item) : Reaches first text item := by
  cases reached with
  | first front => exact .first (front.trans gap)
  | further comma front => exact .further comma (front.trans gap)

theorem Reaches.length_le {first : Bool} {text item : List Char}
    (reached : Reaches first text item) : item.length ≤ text.length := by
  cases reached with
  | first gap => exact gap.length_le
  | further comma gap =>
      have behind := comma.length_le
      have inside := gap.length_le
      simp only [List.length_cons] at behind
      omega

section Items

variable {bracket : Bracket} {holds : ι → List Char → List Char → Prop} {items : List ι}
  {text rest : List Char}

theorem SpellsPair.map {κ : Type} {change : ι → κ} {others : κ → List Char → List Char → Prop}
    (held : ∀ {item text rest}, holds item text rest → others (change item) text rest)
    {member : String × ι} (spelled : SpellsPair holds member text rest) :
    SpellsPair others (member.map id change) text rest := by
  cases spelled with
  | pair spelledName colon gap first => exact .pair spelledName colon gap (held first)

theorem SpellsItems.map {κ : Type} {change : ι → κ} {others : κ → List Char → List Char → Prop}
    (held : ∀ {item text rest}, holds item text rest → others (change item) text rest)
    {first : Bool} (spelled : SpellsItems bracket holds first items text rest) :
    SpellsItems bracket others first (items.map change) text rest := by
  induction spelled with
  | close first gap => exact .close first gap
  | item reached heldFirst later ih => exact .item reached (held heldFirst) ih

theorem SpellsPair.wellFormed {member : String × ι}
    (wellFormed : ∀ {item text rest}, holds item text rest → WellFormed .value text rest)
    (spelled : SpellsPair holds member text rest) : WellFormed .member text rest := by
  cases spelled with
  | pair spelledName colon gap held =>
      rcases spelledName.exists_isQuoted with ⟨quoted, isQuoted, rfl⟩
      exact .member isQuoted colon gap (wellFormed held)

theorem SpellsItems.wellFormed_further
    (wellFormed : ∀ {item text rest}, holds item text rest → WellFormed bracket.item text rest)
    (spelled : SpellsItems bracket holds false items text rest) :
    WellFormed (.further bracket) text rest := by
  generalize further : false = first at spelled
  induction spelled with
  | close first gap => exact .close bracket gap
  | item reached held later ih =>
      cases reached with
      | first gap => cases further
      | further comma gap => exact .next bracket comma gap (wellFormed held) (ih rfl)

theorem SpellsItems.wellFormed
    (wellFormed : ∀ {item text rest}, holds item text rest → WellFormed bracket.item text rest)
    (spelled : SpellsItems bracket holds true items text rest) :
    WellFormed .value (bracket.opening :: text) rest := by
  cases spelled with
  | close _ gap => exact .empty bracket gap
  | item reached held later =>
      cases reached with
      | first gap => exact .filled bracket gap (wellFormed held) (later.wellFormed_further wellFormed)

theorem SpellsItems.endsNumber (spelled : SpellsItems bracket holds false items text rest) :
    EndsNumber text := by
  cases spelled with
  | close _ gap => exact gap.endsNumber (endsNumber_closing bracket rest)
  | item reached held later =>
      cases reached with
      | further comma gap => exact comma.endsNumber (endsNumber_comma _)

/-- Each item takes at least one character. -/
theorem SpellsItems.length_lt {first : Bool}
    (shorter : ∀ {item text rest}, holds item text rest → rest.length < text.length)
    (spelled : SpellsItems bracket holds first items text rest) : items.length < text.length := by
  induction spelled with
  | close first gap =>
      have behind := gap.length_le
      simp only [List.length_cons, List.length_nil] at behind ⊢
      omega
  | item reached held later ih =>
      have front := reached.length_le
      have consumed := shorter held
      simp only [List.length_cons]
      omega

/-- Where a bracket ends, no further item begins. -/
theorem SpellsItems.eq_nil_of_closing {other : List Char}
    (spelled : SpellsItems bracket holds false items text rest)
    (gap : Gap text (bracket.closing :: other)) : items = [] := by
  cases spelled with
  | close _ _ => rfl
  | item reached held later =>
      cases reached with
      | further comma _ =>
          have same := (gap.skipSpace_token (isSpace_closing bracket)).symm.trans
            (comma.skipSpace_token rfl)
          cases bracket <;> cases same

end Items

/-! ## Tokens of records -/

/-- A text that is read as a whole has nothing but space behind the value. -/
theorem Reader.parse_eq_ok_iff {reader : Reader α} {text : List Char} {value : α} :
    reader.parse text = .ok value ↔ ∃ rest, reader text = .ok (value, rest) ∧ Gap rest [] := by
  rw [Reader.parse]
  constructor
  · intro read
    rcases exists_of_bind read with ⟨⟨found, rest⟩, result, read⟩
    dsimp only at read
    split at read
    · rename_i ended
      cases read
      exact ⟨rest, result, skipSpace_eq_nil_iff.mp ended⟩
    · cases read
  · rintro ⟨rest, result, gap⟩
    simp [StateT.run, result, bind, Except.bind, skipSpace_eq_nil_iff.mpr gap]

theorem Reader.stringCalled_eq_ok_iff {wanted value : String} {text rest : List Char} :
    stringCalled wanted text = .ok (value, rest) ↔
      ∃ body, Gap text ('"' :: body) ∧ SpellsChars value.toList body rest := by
  constructor
  · intro read
    unfold stringCalled at read
    split at read
    · rename_i body found
      rcases exists_of_map read with ⟨⟨characters, after⟩, scanned, same⟩
      cases same
      refine ⟨body, .of_skipSpace found, ?_⟩
      simpa using scanString_eq_ok_iff.mp scanned
    · cases read
  · rintro ⟨body, gap, spelled⟩
    have scanned := scanString_of_spells spelled
    simp [stringCalled, gap.skipSpace_token rfl, stringBody, scanned, Except.map]

theorem Reader.closeList_eq_ok_iff {text rest : List Char} :
    closeList text = .ok rest ↔ Gap text (']' :: rest) := by
  rw [← skipSpace_eq_cons_iff rfl]
  unfold closeList
  split
  · simp_all
  · simp_all
  · split <;> simp_all
  · simp_all

namespace Shape

theorem closeObject_eq_ok_iff {text rest : List Char} :
    closeObject text = .ok rest ↔ Gap text ('\x7d' :: rest) := by
  rw [← skipSpace_eq_cons_iff rfl]
  unfold closeObject
  split <;> simp_all

theorem colon_eq_ok_iff {text rest : List Char} :
    colon text = .ok rest ↔ Gap text (':' :: rest) := by
  rw [← skipSpace_eq_cons_iff rfl]
  unfold colon
  split <;> simp_all

theorem nextKey_eq_none_iff {first : Bool} {text : List Char} :
    nextKey first text = .ok none ↔ ∃ rest, Gap text ('\x7d' :: rest) := by
  constructor
  · intro read
    unfold nextKey at read
    split at read
    · cases read
    · rename_i rest found
      exact ⟨rest, .of_skipSpace found⟩
    · split at read
      · split at read <;> cases read
      · split at read
        · cases read
        · split at read <;> cases read
  · rintro ⟨rest, gap⟩
    simp [nextKey, gap.skipSpace_token rfl]

theorem nextKey_eq_some_iff {first : Bool} {text key : List Char} :
    nextKey first text = .ok (some key) ↔ Reaches first text ('"' :: key) := by
  constructor
  · intro read
    unfold nextKey at read
    split at read
    · cases read
    · cases read
    · rename_i character rest _ found
      cases first with
      | true =>
          rw [if_pos rfl] at read
          split at read
          · rename_i quote
            cases read
            subst quote
            exact .first (.of_skipSpace found)
          · cases read
      | false =>
          rw [if_neg Bool.false_ne_true] at read
          split at read
          · cases read
          · rename_i comma
            cases not_not.mp comma
            split at read
            · cases read
            · rename_i reached
              cases read
              exact .further (.of_skipSpace found) (.of_skipSpace reached)
            · cases read
            · cases read
  · intro reached
    cases reached with
    | first gap => simp [nextKey, gap.skipSpace_token rfl]
    | further comma gap => simp [nextKey, comma.skipSpace_token rfl, gap.skipSpace_token rfl]

end Shape

namespace Reader

theorem nextElement_of_closing {first : Bool} {text rest : List Char}
    (gap : Gap text (']' :: rest)) : nextElement first text = .ok none := by
  simp [nextElement, gap.skipSpace_token rfl]

theorem exists_of_nextElement_none {first : Bool} {text : List Char}
    (read : nextElement first text = .ok none) : ∃ rest, Gap text (']' :: rest) := by
  unfold nextElement at read
  split at read
  · cases read
  · rename_i rest found
    exact ⟨rest, .of_skipSpace found⟩
  · split at read
    · cases read
    · split at read
      · cases read
      · split at read <;> cases read

theorem reaches_of_nextElement {first : Bool} {text element : List Char}
    (read : nextElement first text = .ok (some element)) : Reaches first text element := by
  unfold nextElement at read
  split at read
  · cases read
  · cases read
  · rename_i found
    cases first with
    | true =>
        cases read
        exact .first (.of_skipSpace found)
    | false =>
        rw [if_neg Bool.false_ne_true] at read
        split at read
        · cases read
        · rename_i comma
          cases not_not.mp comma
          split at read
          · cases read
          · cases read
          · cases read
            exact .further (.of_skipSpace found) (gap_skipSpace _)

theorem nextElement_of_reaches {first : Bool} {text element rest : List Char}
    (reached : Reaches first text element) (wellFormed : WellFormed .value element rest) :
    nextElement first text = .ok (some element) := by
  rcases wellFormed.exists_token .list with ⟨token, tail, rfl, visible, unclosed⟩
  change token ≠ ']' at unclosed
  unfold nextElement
  cases reached with
  | first gap =>
      rw [gap.skipSpace_token visible]
      split <;> simp_all
  | further comma gap =>
      rw [comma.skipSpace_token rfl]
      split
      · simp_all
      · simp_all
      · rename_i parted
        cases parted
        rw [if_neg Bool.false_ne_true, if_neg (not_not_intro rfl), gap.skipSpace_token visible]
        split <;> simp_all

end Reader

/-! ## What drafts take -/

/-- A draft that takes items one by one. -/
inductive TakesAll (takes : δ → ι → δ → Prop) : δ → List ι → δ → Prop where
  | done (draft : δ) : TakesAll takes draft [] draft
  | item {draft next final : δ} {item : ι} {others : List ι} (taken : takes draft item next)
      (later : TakesAll takes next others final) : TakesAll takes draft (item :: others) final

/-- A draft that takes the elements of a list for fields in their order. Only fields that are not
required may lack an element, and only at the end. -/
inductive TakesFields (takes : Field δ → δ → ι → δ → Prop) :
    List (Field δ) → δ → List ι → δ → Prop where
  | done (draft : δ) : TakesFields takes [] draft [] draft
  | field {field : Field δ} {fields : List (Field δ)} {draft next final : δ} {item : ι}
      {others : List ι} (taken : takes field draft item next)
      (later : TakesFields takes fields next others final) :
      TakesFields takes (field :: fields) draft (item :: others) final
  | missing {field : Field δ} {fields : List (Field δ)} {draft final : δ}
      (optional : field.required = false) (later : TakesFields takes fields draft [] final) :
      TakesFields takes (field :: fields) draft [] final

namespace Shape

/-- A draft takes a member that is a field if it misses the field, and nothing of other members. -/
inductive TakesMember (shape : Shape δ α) (takes : Field δ → δ → ι → δ → Prop) :
    δ → String × ι → δ → Prop where
  | field {draft next : δ} {name : String} {item : ι} {field : Field δ}
      (found : shape.fields.find? (fun field => field.name == name) = some field)
      (missing : field.given draft = false) (taken : takes field draft item next) :
      TakesMember shape takes draft (name, item) next
  | unknown {draft : δ} {name : String} {item : ι}
      (unknown : shape.fields.find? (fun field => field.name == name) = none) :
      TakesMember shape takes draft (name, item) draft

/-- A text that begins with a record, either its members or its fields in their order. -/
inductive SpellsRecord (shape : Shape δ α) (holds : ι → List Char → List Char → Prop)
    (takes : Field δ → δ → ι → δ → Prop) (record : α) : List Char → List Char → Prop where
  | object {members : List (String × ι)} {final : δ} {text rest : List Char}
      (spelled : SpellsItems .object (SpellsPair holds) true members text rest)
      (taken : TakesAll (shape.TakesMember takes) shape.blank members final)
      (finished : shape.finish final = .ok record) :
      SpellsRecord shape holds takes record ('\x7b' :: text) rest
  | list {items : List ι} {final : δ} {text rest : List Char}
      (spelled : SpellsItems .list holds true items text rest)
      (taken : TakesFields takes shape.fields shape.blank items final)
      (finished : shape.finish final = .ok record) :
      SpellsRecord shape holds takes record ('[' :: text) rest

/-- Whether items are values, and fields are read from all items that a draft takes. -/
structure Complete (shape : Shape δ α) (holds : ι → List Char → List Char → Prop)
    (takes : Field δ → δ → ι → δ → Prop) : Prop where
  wellFormed : ∀ {item text rest}, holds item text rest → WellFormed .value text rest
  read : ∀ {field}, field ∈ shape.fields → ∀ {draft next item gapped text rest},
    takes field draft item next → Gap gapped text → holds item text rest → EndsNumber rest →
      field.read draft gapped = .ok (next, rest)

/-- Whether values are items, and fields are read from no other items than those a draft takes. -/
structure Sound (shape : Shape δ α) (holds : ι → List Char → List Char → Prop)
    (takes : Field δ → δ → ι → δ → Prop) : Prop where
  isHeld : ∀ {text rest}, WellFormed .value text rest → ∃ item, holds item text rest
  taken : ∀ {field}, field ∈ shape.fields → ∀ {draft next gapped rest},
    field.read draft gapped = .ok (next, rest) →
      ∃ item text, Gap gapped text ∧ holds item text rest ∧ takes field draft item next

variable {shape : Shape δ α} {holds : ι → List Char → List Char → Prop}
  {takes : Field δ → δ → ι → δ → Prop}

theorem complete_eq_ok_iff {draft : δ} {place : List Char} {record : α} :
    shape.complete draft place = .ok record ↔ shape.finish draft = .ok record := by
  unfold complete
  split <;> simp_all

/-! ## Records are read from their texts -/

theorem Complete.member_eq (complete : shape.Complete holds takes) {draft next : δ} {name : String}
    {item : ι} (taken : shape.TakesMember takes draft (name, item) next)
    {text further value rest : List Char} (colon : Gap text (':' :: further))
    (gap : Gap further value) (held : holds item value rest) (ends : EndsNumber rest) :
    shape.member draft name text = .ok (next, rest) := by
  have reached := colon_eq_ok_iff.mpr colon
  cases taken with
  | field found missing taken =>
      have read := complete.read (List.mem_of_find?_eq_some found) taken gap held ends
      simp [member, found, missing, reached, StateT.run, read, bind, Except.bind]
  | unknown unknown =>
      have skipped := (complete.wellFormed held).skipValue_eq gap ends
      simp [member, unknown, reached, skipped, bind, Except.bind]

theorem Complete.members_eq (complete : shape.Complete holds takes) {draft final : δ}
    {first : Bool} {members : List (String × ι)} {text rest : List Char}
    (spelled : SpellsItems .object (SpellsPair holds) first members text rest)
    (taken : TakesAll (shape.TakesMember takes) draft members final) {fuel : Nat}
    (enough : members.length < fuel) :
    ∃ closing, shape.members fuel first draft text = .ok (final, closing) ∧
      Gap closing ('\x7d' :: rest) := by
  induction spelled generalizing draft fuel with
  | @close first text rest gap =>
      rcases fuel with _ | fuel
      · cases enough
      cases taken
      have ended : nextKey first text = .ok none := nextKey_eq_none_iff.mpr ⟨rest, gap⟩
      exact ⟨text, by simp [Shape.members, ended, bind, Except.bind], gap⟩
  | item reached held later ih =>
      rcases fuel with _ | fuel
      · cases enough
      cases taken with
      | item takenFirst takenLater =>
          cases held with
          | pair spelledName colon gap held =>
              -- A number needs an end, which the member has in what comes behind it.
              have key := nextKey_eq_some_iff.mpr reached
              have name := scanString_of_spells spelledName
              have read := complete.member_eq takenFirst colon gap held later.endsNumber
              rcases ih takenLater (Nat.lt_of_succ_lt_succ enough) with ⟨closing, readLater, ends⟩
              refine ⟨closing, ?_, ends⟩
              simp [Shape.members, key, name, read, readLater, bind, Except.bind]

theorem Complete.positions_eq (complete : shape.Complete holds takes) {fields : List (Field δ)}
    (known : ∀ field ∈ fields, field ∈ shape.fields) {draft final : δ} {items : List ι}
    (taken : TakesFields takes fields draft items final) {count : Nat} {text rest : List Char}
    (spelled : SpellsItems .list holds (count == 0) items text rest) :
    ∃ closing, shape.positions count fields draft text = .ok (final, closing) ∧
      Gap closing (']' :: rest) := by
  induction taken generalizing count text with
  | done draft =>
      cases spelled with
      | close _ gap => exact ⟨text, rfl, gap⟩
  | @field _ _ _ _ _ _ others taken later ih =>
      rcases List.forall_mem_cons.mp known with ⟨knownFirst, knownLater⟩
      cases spelled with
      | @item _ _ _ _ _ after _ reached held spelledLater =>
          have element := Reader.nextElement_of_reaches reached (complete.wellFormed held)
          have read := complete.read knownFirst taken (.none _) held spelledLater.endsNumber
          have spelledNext : SpellsItems .list holds (count + 1 == 0) others after rest :=
            spelledLater
          rcases ih knownLater spelledNext with ⟨closing, readLater, ends⟩
          refine ⟨closing, ?_, ends⟩
          simp [positions, element, StateT.run, read, readLater, bind, Except.bind]
  | missing optional later ih =>
      rcases List.forall_mem_cons.mp known with ⟨_, knownLater⟩
      cases spelled with
      | close _ gap =>
          have ended : Reader.nextElement (count == 0) text = .ok none :=
            Reader.nextElement_of_closing gap
          have spelledNext : SpellsItems .list holds (count + 1 == 0) [] text rest := .close _ gap
          rcases ih knownLater spelledNext with ⟨closing, readLater, ends⟩
          refine ⟨closing, ?_, ends⟩
          simp [positions, ended, optional, readLater, bind, Except.bind]

theorem Complete.reader_eq (complete : shape.Complete holds takes) {record : α}
    {gapped text rest : List Char} (gap : Gap gapped text)
    (spelled : shape.SpellsRecord holds takes record text rest) :
    shape.reader gapped = .ok (record, rest) := by
  cases spelled with
  | object spelled taken finished =>
      have enough := spelled.length_lt fun held => (held.wellFormed complete.wellFormed).length_lt
      rcases complete.members_eq spelled taken (Nat.lt_succ_of_lt enough) with
        ⟨closing, read, ends⟩
      simp [reader, gap.skipSpace_token rfl, read, complete_eq_ok_iff.mpr finished,
        closeObject_eq_ok_iff.mpr ends, bind, Except.bind]
  | list spelled taken finished =>
      have spelledFirst : SpellsItems .list holds (0 == 0) _ _ _ := spelled
      rcases complete.positions_eq (fun _ known => known) taken spelledFirst with
        ⟨closing, read, ends⟩
      simp [reader, gap.skipSpace_token rfl, read, complete_eq_ok_iff.mpr finished,
        Reader.closeList_eq_ok_iff.mpr ends, bind, Except.bind]

/-! ## Records are read from no other texts -/

theorem Sound.of_member (sound : shape.Sound holds takes) {draft next : δ} {name : String}
    {text rest : List Char} (read : shape.member draft name text = .ok (next, rest)) :
    ∃ item further value, Gap text (':' :: further) ∧ Gap further value ∧ holds item value rest ∧
      shape.TakesMember takes draft (name, item) next := by
  unfold member at read
  split at read
  · rename_i field found
    split at read
    · cases read
    · rename_i missing
      rcases exists_of_bind read with ⟨further, reached, read⟩
      rcases sound.taken (List.mem_of_find?_eq_some found) read with
        ⟨item, value, gap, held, taken⟩
      exact ⟨item, further, value, colon_eq_ok_iff.mp reached, gap, held,
        .field found (by simpa using missing) taken⟩
  · rename_i unknown
    rcases exists_of_bind read with ⟨further, reached, read⟩
    rcases exists_of_bind read with ⟨after, skipped, same⟩
    cases same
    rcases WellFormed.of_skipValue skipped with ⟨value, gap, wellFormed⟩
    rcases sound.isHeld wellFormed with ⟨item, held⟩
    exact ⟨item, further, value, colon_eq_ok_iff.mp reached, gap, held, .unknown unknown⟩

theorem Sound.of_members (sound : shape.Sound holds takes) {fuel : Nat} {first : Bool}
    {draft final : δ} {text closing rest : List Char}
    (read : shape.members fuel first draft text = .ok (final, closing))
    (gap : Gap closing ('\x7d' :: rest)) :
    ∃ members, SpellsItems .object (SpellsPair holds) first members text rest ∧
      TakesAll (shape.TakesMember takes) draft members final := by
  induction fuel generalizing first draft text with
  | zero => cases read
  | succ fuel ih =>
      rw [Shape.members] at read
      rcases exists_of_bind read with ⟨_ | key, reached, read⟩
      · cases read
        exact ⟨[], .close first gap, .done final⟩
      · rcases exists_of_bind read with ⟨⟨characters, afterKey⟩, name, read⟩
        rcases exists_of_bind read with ⟨⟨next, after⟩, readFirst, readLater⟩
        rcases sound.of_member readFirst with ⟨item, further, value, colon, inside, held, taken⟩
        rcases ih readLater with ⟨members, spelledLater, takenLater⟩
        refine ⟨(String.ofList characters, item) :: members, ?_, .item taken takenLater⟩
        refine .item (nextKey_eq_some_iff.mp reached) (.pair ?_ colon inside held) spelledLater
        simpa using scanString_eq_ok_iff.mp name

theorem Sound.of_positions (sound : shape.Sound holds takes) {fields : List (Field δ)}
    (known : ∀ field ∈ fields, field ∈ shape.fields) {count : Nat} {draft final : δ}
    {text closing rest : List Char}
    (read : shape.positions count fields draft text = .ok (final, closing))
    (gap : Gap closing (']' :: rest)) :
    ∃ items, SpellsItems .list holds (count == 0) items text rest ∧
      TakesFields takes fields draft items final := by
  induction fields generalizing count draft text with
  | nil =>
      cases read
      exact ⟨[], .close _ gap, .done final⟩
  | cons field fields ih =>
      rcases List.forall_mem_cons.mp known with ⟨knownFirst, knownLater⟩
      rw [positions] at read
      rcases exists_of_bind read with ⟨_ | element, reached, read⟩
      · rcases Reader.exists_of_nextElement_none reached with ⟨other, ended⟩
        dsimp only at read
        split at read
        · cases read
        · rename_i optional
          rcases ih knownLater read with ⟨items, spelled, taken⟩
          -- Later fields find the end of the list again, and no items before it.
          cases spelled.eq_nil_of_closing ended
          cases spelled with
          | close _ gap => exact ⟨[], .close _ gap, .missing (by simpa using optional) taken⟩
      · rcases exists_of_bind read with ⟨⟨next, after⟩, readFirst, readLater⟩
        rcases sound.taken knownFirst readFirst with ⟨item, value, inside, held, taken⟩
        rcases ih knownLater readLater with ⟨items, spelled, takenLater⟩
        have begins := (Reader.reaches_of_nextElement reached).trans inside
        exact ⟨item :: items, .item begins held spelled, .field taken takenLater⟩

theorem Sound.of_reader (sound : shape.Sound holds takes) {record : α} {gapped rest : List Char}
    (read : shape.reader gapped = .ok (record, rest)) :
    ∃ text, Gap gapped text ∧ shape.SpellsRecord holds takes record text rest := by
  unfold reader at read
  split at read
  · rename_i found
    rcases exists_of_bind read with ⟨⟨final, closing⟩, readMembers, read⟩
    rcases exists_of_bind read with ⟨record, finished, read⟩
    rcases exists_of_bind read with ⟨after, closed, same⟩
    cases same
    rcases sound.of_members readMembers (closeObject_eq_ok_iff.mp closed) with
      ⟨members, spelled, taken⟩
    exact ⟨_, .of_skipSpace found, .object spelled taken (complete_eq_ok_iff.mp finished)⟩
  · rename_i found
    rcases exists_of_bind read with ⟨⟨final, closing⟩, readFields, read⟩
    rcases exists_of_bind read with ⟨record, finished, read⟩
    rcases exists_of_bind read with ⟨after, closed, same⟩
    cases same
    rcases sound.of_positions (fun _ known => known) readFields
      (Reader.closeList_eq_ok_iff.mp closed) with ⟨items, spelled, taken⟩
    exact ⟨_, .of_skipSpace found, .list spelled taken (complete_eq_ok_iff.mp finished)⟩
  · cases read

end Shape

end StreamingChat.Json
