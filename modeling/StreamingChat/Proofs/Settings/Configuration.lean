import StreamingChat.Proofs.Json.Reading
import StreamingChat.Settings.Basic

/-!
# Texts of configurations

A configuration is one object in which any of the fields are given, each of them once, among any
other members. It is read as the settings that the given fields make. The induction is on the
members: what a draft holds already and what the members still give is, for each field by itself,
what is held in the end, which leaves room for one value at most.
-/

namespace StreamingChat.Settings

open Json

/-- The names of the fields. -/
def fieldNames : List String :=
  ["server_url", "api_version", "user_id", "connect_timeout_secs", "flush_partial_line"]

theorem forall_mem_fieldNames {holds : String → Prop} :
    (∀ name ∈ fieldNames, holds name) ↔
      holds "server_url" ∧ holds "api_version" ∧ holds "user_id" ∧
        holds "connect_timeout_secs" ∧ holds "flush_partial_line" := by
  simp [fieldNames]

namespace Draft

/-- What a draft holds for the field with a name. -/
def value? (draft : Draft) : String → Option Value
  | "server_url" => draft.serverUrl.map .string
  | "api_version" => draft.apiVersion.map .string
  | "user_id" => draft.userId.map .string
  | "connect_timeout_secs" => draft.connectTimeout.map fun seconds => .natural seconds.toNat
  | "flush_partial_line" => draft.flushesPartialLine.map .boolean
  | _ => none

/-- The members that a draft has its value for a field from: one or none. -/
def members (draft : Draft) (name : String) : List (String × Option Value) :=
  (draft.value? name).toList.map fun value => (name, some value)

theorem members_inj {draft other : Draft} {name : String} :
    draft.members name = other.members name ↔ draft.value? name = other.value? name := by
  unfold members
  cases draft.value? name <;> cases other.value? name <;> simp

/-- There is room for one more member if the draft misses the field, and only for one. -/
theorem members_append_cons {draft final : Draft} {name : String} {item : Option Value}
    {others : List (String × Option Value)} :
    draft.members name ++ (name, item) :: others = final.members name ↔
      draft.value? name = none ∧ ∃ value, item = some value ∧
        final.value? name = some value ∧ others = [] := by
  unfold members
  cases draft.value? name <;> cases final.value? name <;> grind

end Draft

/-- A text that is a configuration, with the fields that a draft holds, in any order among any
other members. -/
def IsConfiguration (draft : Draft) (text : List Char) : Prop :=
  ∃ members inside rest, Gap text ('\x7b' :: inside) ∧
    SpellsItems .object (SpellsPair Given) true members inside rest ∧ Gap rest [] ∧
    ∀ name ∈ fieldNames, (members.filter fun member => member.1 = name) = draft.members name

/-! ## Giving a field -/

/-- A draft is given the value of a field. -/
inductive Gives (draft : Draft) : String → Value → Draft → Prop where
  | serverUrl (url : String) :
      Gives draft "server_url" (.string url) { draft with serverUrl := some url }
  | apiVersion (version : String) :
      Gives draft "api_version" (.string version) { draft with apiVersion := some version }
  | userId (userId : String) :
      Gives draft "user_id" (.string userId) { draft with userId := some userId }
  | connectTimeout (seconds : UInt64) :
      Gives draft "connect_timeout_secs" (.natural seconds.toNat)
        { draft with connectTimeout := some seconds }
  | flushesPartialLine (flushes : Bool) :
      Gives draft "flush_partial_line" (.boolean flushes)
        { draft with flushesPartialLine := some flushes }

variable {draft next : Draft} {name : String} {value : Value}

theorem Gives.value?_self (gives : Gives draft name value next) :
    next.value? name = some value := by
  cases gives <;> rfl

theorem Gives.value?_other (gives : Gives draft name value next) {other : String}
    (differs : other ≠ name) : next.value? other = draft.value? other := by
  cases gives <;> unfold Draft.value? <;> split <;> first | rfl | exact absurd rfl differs

/-- A draft that holds a value for a field can be reached from any draft. -/
theorem exists_gives (held : next.value? name = some value) (draft : Draft) :
    ∃ given, Gives draft name value given := by
  unfold Draft.value? at held
  split at held
  · rcases Option.map_eq_some_iff.mp held with ⟨url, -, rfl⟩
    exact ⟨_, .serverUrl url⟩
  · rcases Option.map_eq_some_iff.mp held with ⟨version, -, rfl⟩
    exact ⟨_, .apiVersion version⟩
  · rcases Option.map_eq_some_iff.mp held with ⟨userId, -, rfl⟩
    exact ⟨_, .userId userId⟩
  · rcases Option.map_eq_some_iff.mp held with ⟨seconds, -, rfl⟩
    exact ⟨_, .connectTimeout seconds⟩
  · rcases Option.map_eq_some_iff.mp held with ⟨flushes, -, rfl⟩
    exact ⟨_, .flushesPartialLine flushes⟩
  · cases held

/-- The reader of a field gives it to a draft that misses it. -/
theorem Gives.takesMember (gives : Gives draft name value next)
    (missing : draft.value? name = none) :
    shape.TakesMember Shape.AcceptsGiven draft (name, some value) next := by
  cases gives with
  | serverUrl url =>
      have absent : draft.serverUrl.isSome = false := by simpa [Draft.value?] using missing
      exact .field rfl absent ⟨_, rfl, (Reader.accepts_stringCalled "a string" url).map _⟩
  | apiVersion version =>
      have absent : draft.apiVersion.isSome = false := by simpa [Draft.value?] using missing
      exact .field rfl absent ⟨_, rfl, (Reader.accepts_stringCalled "a string" version).map _⟩
  | userId userId =>
      have absent : draft.userId.isSome = false := by simpa [Draft.value?] using missing
      exact .field rfl absent ⟨_, rfl, (Reader.accepts_stringCalled "a string" userId).map _⟩
  | connectTimeout seconds =>
      have absent : draft.connectTimeout.isSome = false := by simpa [Draft.value?] using missing
      exact .field rfl absent ⟨_, rfl, (Reader.accepts_natural seconds).map _⟩
  | flushesPartialLine flushes =>
      have absent : draft.flushesPartialLine.isSome = false := by simpa [Draft.value?] using missing
      exact .field rfl absent ⟨_, rfl, (Reader.accepts_boolean flushes).map _⟩

theorem map_name_fields : shape.fields.map Field.name = fieldNames := rfl

theorem find?_eq_none (unknown : name ∉ fieldNames) :
    shape.fields.find? (fun field => field.name == name) = none := by
  rw [List.find?_eq_none]
  intro field member named
  have known := List.mem_map_of_mem (f := Field.name) member
  rw [map_name_fields, eq_of_beq named] at known
  exact unknown known

theorem Draft.eq_of_value? (same : ∀ name ∈ fieldNames, draft.value? name = next.value? name) :
    draft = next := by
  rcases forall_mem_fieldNames.mp same with
    ⟨serverUrl, apiVersion, userId, connectTimeout, flushesPartialLine⟩
  rcases draft with ⟨_, _, _, _, _⟩
  rcases next with ⟨_, _, _, _, _⟩
  rw [Draft.mk.injEq]
  exact ⟨Option.map_injective (fun _ _ => Value.string.inj) serverUrl,
    Option.map_injective (fun _ _ => Value.string.inj) apiVersion,
    Option.map_injective (fun _ _ => Value.string.inj) userId,
    Option.map_injective (fun _ _ => fun same => UInt64.toNat_inj.mp (Value.natural.inj same))
      connectTimeout,
    Option.map_injective (fun _ _ => Value.boolean.inj) flushesPartialLine⟩

/-! ## Reading configurations -/

theorem takesAll_of_members {final : Draft} {members : List (String × Option Value)}
    (held : ∀ name ∈ fieldNames,
      (draft.members name ++ members.filter fun member => member.1 = name) =
        final.members name) :
    TakesAll (shape.TakesMember Shape.AcceptsGiven) draft members final := by
  induction members generalizing draft with
  | nil =>
      have same : draft = final := by
        apply Draft.eq_of_value?
        intro name known
        simpa [Draft.members_inj] using held name known
      rw [same]
      exact .done final
  | cons member members ih =>
      rcases member with ⟨name, item⟩
      by_cases known : name ∈ fieldNames
      · have first := held name known
        rw [List.filter_cons_of_pos (by simp), Draft.members_append_cons] at first
        rcases first with ⟨missing, value, rfl, final_value?, last⟩
        rcases exists_gives final_value? draft with ⟨next, gives⟩
        refine .item (gives.takesMember missing) (ih ?_)
        intro other otherKnown
        by_cases same : other = name
        · subst same
          simp [Draft.members, gives.value?_self, final_value?, last]
        · have later := held other otherKnown
          rw [List.filter_cons_of_neg (by simpa using Ne.symm same)] at later
          rw [← later, Draft.members, gives.value?_other same, ← Draft.members]
      · refine .item (.unknown (find?_eq_none known)) (ih ?_)
        intro other otherKnown
        have differs : name ≠ other := by
          rintro rfl
          exact known otherKnown
        simpa [differs] using held other otherKnown

/-- A configuration is read as the settings that its fields make. -/
theorem read_of_isConfiguration {text : String} (configured : IsConfiguration draft text.toList) :
    read text = .ok draft.settings := by
  rcases configured with ⟨members, inside, rest, gap, spelled, ends, held⟩
  have taken : TakesAll (shape.TakesMember Shape.AcceptsGiven) shape.blank members draft := by
    have blank : ∀ name ∈ fieldNames, shape.blank.members name = [] :=
      forall_mem_fieldNames.mpr ⟨rfl, rfl, rfl, rfl, rfl⟩
    apply takesAll_of_members
    intro name known
    rw [held name known, blank name known, List.nil_append]
  exact Reader.parse_eq_ok_iff.mpr
    ⟨rest, Shape.complete_acceptsGiven.reader_eq gap (.object spelled taken rfl), ends⟩

/-! ## Written settings -/

/-- Any spelling of an object whose members give the fields of a draft is a configuration. -/
theorem isConfiguration_of_spells {members : List (String × Value)} {text : List Char}
    (spelled : Spells (.object members) text [])
    (held : ∀ name ∈ fieldNames,
      (members.filter fun member => member.1 = name).map (Prod.map id some) = draft.members name) :
    IsConfiguration draft text := by
  rcases spelled.members with ⟨inside, rfl, items⟩
  refine ⟨members.map (Prod.map id some), inside, [], .none _, ?_, .none [], ?_⟩
  · exact items.map fun pair => pair.map @Given.value
  · intro name known
    rw [← held name known, List.filter_map]
    rfl

theorem isConfiguration_toValue (settings : Settings) {text : List Char}
    (spelled : Spells settings.toValue text []) :
    IsConfiguration ⟨some settings.serverUrl, some settings.apiVersion, some settings.userId,
      some settings.connectTimeout, some settings.flushesPartialLine⟩ text :=
  isConfiguration_of_spells spelled (forall_mem_fieldNames.mpr ⟨rfl, rfl, rfl, rfl, rfl⟩)

/-- All settings are read back from their text in either layout. -/
theorem read_write (settings : Settings) :
    read settings.toValue.compact = .ok settings ∧ read settings.toValue.pretty = .ok settings := by
  have ends : EndsNumber [] := trivial
  have parsed {text : List Char} (spelled : Spells settings.toValue (text ++ []) []) :
      read (String.ofList text) = .ok settings := by
    rw [List.append_nil, ← String.toList_ofList (l := text)] at spelled
    exact read_of_isConfiguration (settings.isConfiguration_toValue spelled)
  exact ⟨parsed (Value.spells_compactChars _ ends), parsed (Value.spells_prettyChars 0 _ ends)⟩

end StreamingChat.Settings
