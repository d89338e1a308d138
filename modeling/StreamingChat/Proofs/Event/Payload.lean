import StreamingChat.Event.Line
import StreamingChat.Proofs.Json.Locality

/-!
# Payloads of events

A payload is an event exactly when it is the text of an event record: one object with one string for
the kind and at most one content, among any other members, or a list of the kind and maybe the
content. The grammar of `Holds` tells apart only what an event can tell apart.
-/

namespace StreamingChat.EventLine

open Json

/-- What a value is to an event record. -/
inductive Holding where
  | null
  | string (value : String)
  /-- Any value at all, which nobody asks for. -/
  | other
  deriving DecidableEq, Repr

/-- A string, or the constant that stands for none. -/
def Holding.ofOption : Option String → Holding
  | some value => .string value
  | none => .null

/-- A text that begins with a value. -/
inductive Holds : Holding → List Char → List Char → Prop where
  | null (rest : List Char) : Holds .null (['n', 'u', 'l', 'l'] ++ rest) rest
  | string {value : String} {text rest : List Char}
      (spelled : SpellsChars value.toList text rest) : Holds (.string value) ('"' :: text) rest
  | other {text rest : List Char} (wellFormed : WellFormed .value text rest) :
      Holds .other text rest

/-- The values of the members with a name. -/
def valuesOf (name : String) (members : List (String × Holding)) : List Holding :=
  (members.filter fun member => member.1 = name).map Prod.snd

/-- A text that begins with an event record: the name of its kind, and its content, if any. -/
inductive SpellsEvent (name : String) (content : Option String) :
    List Char → List Char → Prop where
  | object {members : List (String × Holding)} {text rest : List Char}
      (spelled : SpellsItems .object (SpellsPair Holds) true members text rest)
      (kind : valuesOf "type" members = [.string name])
      (held : valuesOf "content" members = [.ofOption content] ∨
        valuesOf "content" members = [] ∧ content = none) :
      SpellsEvent name content ('\x7b' :: text) rest
  | kind {text rest : List Char} (spelled : SpellsItems .list Holds true [.string name] text rest)
      (missing : content = none) : SpellsEvent name content ('[' :: text) rest
  | pair {text rest : List Char}
      (spelled : SpellsItems .list Holds true [.string name, .ofOption content] text rest) :
      SpellsEvent name content ('[' :: text) rest

/-- A text that is an event record, with nothing but space around it. -/
def IsEvent (name : String) (content : Option String) (text : List Char) : Prop :=
  ∃ record rest, Gap text record ∧ SpellsEvent name content record rest ∧ Gap rest []

/-! ## Values of event records -/

theorem Holds.wellFormed {holding : Holding} {text rest : List Char}
    (held : Holds holding text rest) : WellFormed .value text rest := by
  cases held with
  | null rest => exact .constant .null rest
  | string spelled =>
      rcases spelled.exists_isQuoted with ⟨quoted, isQuoted, rfl⟩
      exact .string isQuoted rest
  | other wellFormed => exact wellFormed

theorem Holds.framed {holding : Holding} {text rest : List Char}
    (held : Holds holding text rest) : Framed (Holds holding) text rest := by
  cases held with
  | null rest => exact ⟨_, rfl, .null⟩
  | string spelled =>
      rcases spelled.framed with ⟨front, rfl, framed⟩
      exact ⟨'"' :: front, rfl, fun other => .string (framed other)⟩
  | other wellFormed =>
      rcases wellFormed.framed with ⟨front, rfl, framed⟩
      exact ⟨front, rfl, fun other => .other (framed other)⟩

theorem string_eq_ok_iff {value : String} {gapped rest : List Char} :
    Reader.string gapped = .ok (value, rest) ↔
      ∃ text, Gap gapped text ∧ Holds (.string value) text rest := by
  rw [Reader.string, Reader.stringCalled_eq_ok_iff]
  constructor
  · rintro ⟨body, gap, spelled⟩
    exact ⟨'"' :: body, gap, .string spelled⟩
  · rintro ⟨text, gap, held⟩
    cases held with
    | string spelled => exact ⟨_, gap, spelled⟩

theorem optional_eq_ok_iff {content : Option String} {gapped rest : List Char} :
    Reader.optional Reader.string gapped = .ok (content, rest) ↔
      ∃ text, Gap gapped text ∧ Holds (.ofOption content) text rest := by
  constructor
  · intro read
    unfold Reader.optional at read
    split at read
    · rename_i letters found
      rcases exists_of_map read with ⟨after, scanned, same⟩
      cases same
      rw [eq_append_of_scanWord scanned] at found
      exact ⟨_, .of_skipSpace found, .null rest⟩
    · rcases exists_of_map read with ⟨⟨value, after⟩, result, same⟩
      cases same
      rcases string_eq_ok_iff.mp result with ⟨text, gap, held⟩
      exact ⟨text, (gap_skipSpace gapped).trans gap, held⟩
  · rintro ⟨text, gap, held⟩
    unfold Reader.optional
    cases content with
    | none =>
        cases held with
        | null rest =>
            have word : scanWord ['u', 'l', 'l'] ('u' :: 'l' :: 'l' :: rest) = .ok rest :=
              scanWord_append ['u', 'l', 'l'] rest
            rw [gap.skipSpace_token (by rfl : isSpace 'n' = false)]
            simp [Reader.word, word, Except.map]
    | some value =>
        have result := string_eq_ok_iff.mpr ⟨text, .none text, held⟩
        cases held with
        | string spelled =>
            rw [gap.skipSpace_token rfl]
            simp [StateT.run, result, Except.map]

/-! ## Fields of event records -/

/-- What a draft takes for a field. -/
inductive Takes (field : Json.Field Draft) (draft : Draft) : Holding → Draft → Prop where
  | kind (named : field.name = "type") (name : String) :
      Takes field draft (.string name) { draft with kind := some name }
  | content (named : field.name = "content") (content : Option String) :
      Takes field draft (.ofOption content) { draft with content := some content }

theorem complete_shape : shape.Complete Holds Takes where
  wellFormed := Holds.wellFormed
  read := by
    intro field known draft next item gapped text rest taken gap held _
    simp only [shape, List.mem_cons, List.not_mem_nil, or_false] at known
    rcases known with rfl | rfl
    · cases taken with
      | kind named name =>
          change Reader.string gapped >>= _ = _
          rw [string_eq_ok_iff.mpr ⟨text, gap, held⟩]
          rfl
      | content named content => exact absurd named (by decide)
    · cases taken with
      | kind named name => exact absurd named (by decide)
      | content named content =>
          change Reader.optional Reader.string gapped >>= _ = _
          rw [optional_eq_ok_iff.mpr ⟨text, gap, held⟩]
          rfl

theorem sound_shape : shape.Sound Holds Takes where
  isHeld wellFormed := ⟨.other, .other wellFormed⟩
  taken := by
    intro field known draft next gapped rest read
    simp only [shape, List.mem_cons, List.not_mem_nil, or_false] at known
    rcases known with rfl | rfl
    · rcases exists_of_bind read with ⟨⟨name, after⟩, result, same⟩
      cases same
      rcases string_eq_ok_iff.mp result with ⟨text, gap, held⟩
      exact ⟨_, text, gap, held, .kind rfl name⟩
    · rcases exists_of_bind read with ⟨⟨content, after⟩, result, same⟩
      cases same
      rcases optional_eq_ok_iff.mp result with ⟨text, gap, held⟩
      exact ⟨_, text, gap, held, .content rfl content⟩

/-! ## Members of event records -/

/-- What has been read for the kind, as the members that it was read from hold it. -/
def Draft.kinds (draft : Draft) : List Holding := draft.kind.toList.map .string

/-- What has been read for the content, as the members that it was read from hold it. -/
def Draft.contents (draft : Draft) : List Holding := draft.content.toList.map .ofOption

theorem valuesOf_cons (name : String) (member : String × Holding)
    (members : List (String × Holding)) :
    valuesOf name (member :: members) = valuesOf name [member] ++ valuesOf name members := by
  simp only [valuesOf, List.filter_cons]
  split <;> simp

section Options

variable {α β : Type} {change : α → β} {whole part : Option α}

/-- A front part of what an optional value comes to is what another one comes to. -/
theorem exists_of_append_eq_toList {front back : List β}
    (split : front ++ back = whole.toList.map change) :
    ∃ part : Option α, front = part.toList.map change := by
  cases front with
  | nil => exact ⟨none, rfl⟩
  | cons first others =>
      cases whole with
      | none => simp at split
      | some value =>
          simp only [Option.toList_some, List.map_cons, List.map_nil, List.cons_append,
            List.cons.injEq, List.append_eq_nil_iff] at split
          exact ⟨some value, by simp [split]⟩

theorem toList_map_inj (injective : Function.Injective change) :
    part.toList.map change = whole.toList.map change ↔ part = whole := by
  cases part <;> cases whole <;> simp [injective.eq_iff]

theorem toList_map_append_singleton {item : β} :
    part.toList.map change ++ [item] = whole.toList.map change ↔
      part = none ∧ ∃ value, item = change value ∧ whole = some value := by
  cases part <;> cases whole <;> simp

end Options

theorem Holding.string_injective : Function.Injective Holding.string :=
  fun _ _ => Holding.string.inj

theorem Holding.ofOption_injective : Function.Injective Holding.ofOption := by
  rintro (_ | first) (_ | second) same <;> cases same <;> rfl

theorem takesMember_kind_iff {draft next : Draft} {item : Holding} :
    shape.TakesMember Takes draft ("type", item) next ↔
      draft.kind = none ∧ ∃ kind, item = .string kind ∧ next = { draft with kind := some kind } := by
  constructor
  · intro taken
    cases taken with
    | field found missing taken =>
        cases found
        cases taken with
        | kind named kind => exact ⟨by simpa using missing, kind, rfl, rfl⟩
        | content named content => exact absurd named (by decide)
    | unknown unknown => cases unknown
  · rintro ⟨missing, kind, rfl, rfl⟩
    exact .field rfl (by simp [missing]) (.kind rfl kind)

theorem takesMember_content_iff {draft next : Draft} {item : Holding} :
    shape.TakesMember Takes draft ("content", item) next ↔
      draft.content = none ∧
        ∃ content, item = .ofOption content ∧ next = { draft with content := some content } := by
  constructor
  · intro taken
    cases taken with
    | field found missing taken =>
        cases found
        cases taken with
        | kind named kind => exact absurd named (by decide)
        | content named content => exact ⟨by simpa using missing, content, rfl, rfl⟩
    | unknown unknown => cases unknown
  · rintro ⟨missing, content, rfl, rfl⟩
    exact .field rfl (by simp [missing]) (.content rfl content)

theorem takesMember_other_iff {draft next : Draft} {name : String} {item : Holding}
    (notKind : name ≠ "type") (notContent : name ≠ "content") :
    shape.TakesMember Takes draft (name, item) next ↔ next = draft := by
  have unknown : shape.fields.find? (fun field => field.name == name) = none := by
    simp [shape, notKind.symm, notContent.symm]
  constructor
  · intro taken
    cases taken with
    | field found missing taken => simp [unknown] at found
    | unknown unknown => rfl
  · rintro rfl
    exact .unknown unknown

/-- A draft takes a member exactly when it then holds the value of the member, too. -/
theorem takesMember_iff {draft next : Draft} {member : String × Holding} :
    shape.TakesMember Takes draft member next ↔
      draft.kinds ++ valuesOf "type" [member] = next.kinds ∧
        draft.contents ++ valuesOf "content" [member] = next.contents := by
  rcases member with ⟨name, item⟩
  rcases draft with ⟨kind, content⟩
  rcases next with ⟨nextKind, nextContent⟩
  by_cases isKind : name = "type"
  · subst isKind
    have others : valuesOf "content" [("type", item)] = [] := by simp [valuesOf]
    have own : valuesOf "type" [("type", item)] = [item] := by simp [valuesOf]
    rw [takesMember_kind_iff, own, others, List.append_nil, Draft.contents, Draft.contents,
      toList_map_inj Holding.ofOption_injective, Draft.kinds, Draft.kinds,
      toList_map_append_singleton]
    grind
  by_cases isContent : name = "content"
  · subst isContent
    have others : valuesOf "type" [("content", item)] = [] := by simp [valuesOf]
    have own : valuesOf "content" [("content", item)] = [item] := by simp [valuesOf]
    rw [takesMember_content_iff, own, others, List.append_nil, Draft.kinds, Draft.kinds,
      toList_map_inj Holding.string_injective, Draft.contents, Draft.contents,
      toList_map_append_singleton]
    grind
  · have none : valuesOf "type" [(name, item)] = [] ∧ valuesOf "content" [(name, item)] = [] := by
      simp [valuesOf, isKind, isContent]
    rw [takesMember_other_iff isKind isContent, none.1, none.2, List.append_nil, List.append_nil,
      Draft.kinds, Draft.kinds, toList_map_inj Holding.string_injective, Draft.contents,
      Draft.contents, toList_map_inj Holding.ofOption_injective]
    grind

theorem takesAll_iff {draft final : Draft} {members : List (String × Holding)} :
    TakesAll (shape.TakesMember Takes) draft members final ↔
      draft.kinds ++ valuesOf "type" members = final.kinds ∧
        draft.contents ++ valuesOf "content" members = final.contents := by
  constructor
  · intro taken
    induction taken with
    | done draft => simp [valuesOf]
    | item taken later ih =>
        rcases takesMember_iff.mp taken with ⟨kinds, contents⟩
        rw [valuesOf_cons "type", valuesOf_cons "content", ← List.append_assoc,
          ← List.append_assoc, kinds, contents]
        exact ih
  · induction members generalizing draft with
    | nil =>
        rintro ⟨kinds, contents⟩
        have kind : draft.kind = final.kind := by
          rw [← toList_map_inj Holding.string_injective]
          simpa [valuesOf, Draft.kinds] using kinds
        have content : draft.content = final.content := by
          rw [← toList_map_inj Holding.ofOption_injective]
          simpa [valuesOf, Draft.contents] using contents
        cases draft
        cases final
        cases kind
        cases content
        exact .done _
    | cons member members ih =>
        rintro ⟨kinds, contents⟩
        rw [valuesOf_cons, ← List.append_assoc] at kinds contents
        -- What is held after this member is a front part of what is held in the end, so that
        -- there is at most one value for each name.
        rcases exists_of_append_eq_toList kinds with ⟨kind, kindsTaken⟩
        rcases exists_of_append_eq_toList contents with ⟨content, contentsTaken⟩
        have taken : shape.TakesMember Takes draft member ⟨kind, content⟩ :=
          takesMember_iff.mpr ⟨kindsTaken, contentsTaken⟩
        refine .item taken (ih ⟨?_, ?_⟩)
        · rw [← kinds, kindsTaken]
          rfl
        · rw [← contents, contentsTaken]
          rfl

theorem finish_eq_ok_iff {final : Draft} {name : String} {content : Option String} :
    shape.finish final = .ok (name, content) ↔
      final.kind = some name ∧ final.content.join = content := by
  rcases final with ⟨_ | kind, given⟩ <;> simp [shape]

/-! ## Texts of event records -/

/-- The kind comes first in a list, and the content may be left out. -/
theorem takesFields_iff {final : Draft} {items : List Holding} :
    TakesFields Takes shape.fields shape.blank items final ↔
      (∃ name, items = [.string name] ∧ final = ⟨some name, none⟩) ∨
        ∃ name content, items = [.string name, .ofOption content] ∧
          final = ⟨some name, some content⟩ := by
  constructor
  · intro taken
    cases taken with
    | missing optional later => cases optional
    | field takenKind later =>
        cases takenKind with
        | content named content => exact absurd named (by decide)
        | kind named name =>
            cases later with
            | missing optional ended =>
                cases ended
                exact .inl ⟨name, rfl, rfl⟩
            | field takenContent ended =>
                cases ended
                cases takenContent with
                | kind named name => exact absurd named (by decide)
                | content named content => exact .inr ⟨name, content, rfl, rfl⟩
  · rintro (⟨name, rfl, rfl⟩ | ⟨name, content, rfl, rfl⟩)
    · exact .field (.kind rfl name) (.missing rfl (.done _))
    · exact .field (.kind rfl name) (.field (.content rfl content) (.done _))

theorem spellsRecord_iff {name : String} {content : Option String} {text rest : List Char} :
    shape.SpellsRecord Holds Takes (name, content) text rest ↔
      SpellsEvent name content text rest := by
  constructor
  · intro spelled
    cases spelled with
    | @object members final text rest spelled taken finished =>
        rcases takesAll_iff.mp taken with ⟨kinds, contents⟩
        rcases final with ⟨kind, given⟩
        rcases finish_eq_ok_iff.mp finished with ⟨rfl, joined⟩
        refine .object spelled kinds ?_
        cases given with
        | none => exact .inr ⟨contents, joined.symm⟩
        | some given =>
            cases joined
            exact .inl contents
    | list spelled taken finished =>
        rcases takesFields_iff.mp taken with ⟨kind, rfl, rfl⟩ | ⟨kind, given, rfl, rfl⟩
        · rcases finish_eq_ok_iff.mp finished with ⟨same, missing⟩
          cases same
          exact .kind spelled missing.symm
        · rcases finish_eq_ok_iff.mp finished with ⟨same, joined⟩
          cases same
          cases joined
          exact .pair spelled
  · intro spelled
    cases spelled with
    | @object members text rest spelled kind held =>
        rcases held with given | ⟨missing, rfl⟩
        · have taken : TakesAll (shape.TakesMember Takes) shape.blank members
              ⟨some name, some content⟩ := takesAll_iff.mpr ⟨kind, given⟩
          exact .object spelled taken rfl
        · have taken : TakesAll (shape.TakesMember Takes) shape.blank members
              ⟨some name, none⟩ := takesAll_iff.mpr ⟨kind, missing⟩
          exact .object spelled taken rfl
    | kind spelled missing =>
        subst missing
        exact .list spelled (takesFields_iff.mpr (.inl ⟨name, rfl, rfl⟩)) rfl
    | pair spelled =>
        exact .list spelled (takesFields_iff.mpr (.inr ⟨name, content, rfl, rfl⟩)) rfl

/-- A payload is read as an event exactly when it is one. -/
theorem parse_eq_ok_iff {name : String} {content : Option String} {text : List Char} :
    shape.reader.parse text = .ok (name, content) ↔ IsEvent name content text := by
  rw [Reader.parse_eq_ok_iff]
  constructor
  · rintro ⟨rest, read, ends⟩
    rcases sound_shape.of_reader read with ⟨record, gap, spelled⟩
    exact ⟨record, rest, gap, spellsRecord_iff.mp spelled, ends⟩
  · rintro ⟨record, rest, gap, spelled, ends⟩
    exact ⟨rest, complete_shape.reader_eq gap (spellsRecord_iff.mpr spelled), ends⟩

theorem SpellsEvent.wellFormed {name : String} {content : Option String} {text rest : List Char}
    (spelled : SpellsEvent name content text rest) : WellFormed .value text rest := by
  cases spelled with
  | object spelled kind held =>
      exact spelled.wellFormed fun member => member.wellFormed Holds.wellFormed
  | kind spelled missing => exact spelled.wellFormed Holds.wellFormed
  | pair spelled => exact spelled.wellFormed Holds.wellFormed

theorem IsEvent.isText {name : String} {content : Option String} {text : List Char}
    (isEvent : IsEvent name content text) : IsText text := by
  rcases isEvent with ⟨record, rest, gap, spelled, ends⟩
  exact ⟨record, rest, gap, spelled.wellFormed, ends⟩

end StreamingChat.EventLine
