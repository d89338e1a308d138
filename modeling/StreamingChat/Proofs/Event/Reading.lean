import StreamingChat.Proofs.Event.Payload
import StreamingChat.Proofs.Text.Trimming

/-!
# Reading event lines

The grammar of event records decides on the reading of every line that carries a payload: a payload
is an event exactly when it is the text of a record, and every spelling of a record gives the event
with the strings that it spells.
-/

namespace StreamingChat.EventLine

open Json

/-- A line that begins with the mark of a payload, and what is behind the mark when trimmed. -/
def Carries (line : String) (payload : List Char) : Prop :=
  ∃ behind, line.toList = payloadMark ++ behind ∧ payload = Text.trim behind

variable {line : String} {payload : List Char} {name : String} {content : Option String}

/-! ## Payloads -/

theorem readChars_append (behind : List Char) :
    readChars (payloadMark ++ behind) = readPayload (Text.trim behind) := by
  have marked : payloadMark.isPrefixOf (payloadMark ++ behind) = true := by
    rw [List.isPrefixOf_iff_prefix]
    exact List.prefix_append payloadMark behind
  rw [readChars, if_pos marked, List.drop_left]

theorem readChars_of_unmarked {line : List Char} (unmarked : ¬payloadMark <+: line) :
    readChars line = .ignored := by
  rw [readChars, if_neg]
  rwa [List.isPrefixOf_iff_prefix]

theorem read_of_carries (carries : Carries line payload) : read line = readPayload payload := by
  rcases carries with ⟨behind, split, rfl⟩
  rw [read, split, readChars_append]

theorem Carries.eq {other : List Char} (carries : Carries line payload)
    (same : Carries line other) : other = payload := by
  rcases carries with ⟨behind, split, rfl⟩
  rcases same with ⟨otherBehind, otherSplit, rfl⟩
  rw [split] at otherSplit
  rw [List.append_cancel_left otherSplit]

theorem Carries.marked (carries : Carries line payload) : payloadMark <+: line.toList := by
  rcases carries with ⟨behind, split, -⟩
  exact ⟨behind, split.symm⟩

/-- What ends a stream is no event. -/
theorem not_isEvent_endMark : ¬IsEvent name content endMark := by
  intro isEvent
  have read := parse_eq_ok_iff.mpr isEvent
  cases read

theorem readPayload_of_isEvent (isEvent : IsEvent name content payload) :
    readPayload payload = interpret name content := by
  have notEnd : payload ≠ endMark := by
    rintro rfl
    exact not_isEvent_endMark isEvent
  rw [readPayload, if_neg notEnd, parse_eq_ok_iff.mpr isEvent]

theorem readPayload_of_not_isEvent (notEnd : payload ≠ endMark)
    (notEvent : ∀ name content, ¬IsEvent name content payload) :
    ∃ fault, readPayload payload = .skipped (.malformed (String.ofList payload) fault) := by
  cases read : shape.reader.parse payload with
  | error fault =>
      refine ⟨fault.message payload, ?_⟩
      rw [readPayload, if_neg notEnd, read]
  | ok record => exact absurd (parse_eq_ok_iff.mp read) (notEvent record.1 record.2)

theorem interpret_none_of_other (other : (EventKind.ofName name).isOther = true) :
    interpret name none = .parsed ⟨.ofName name, ""⟩ :=
  if_pos other

theorem interpret_none_of_known (known : (EventKind.ofName name).isOther = false) :
    interpret name none = .skipped (.missingContent name) :=
  if_neg (by simp [known])

theorem interpret_none (name : String) :
    interpret name none =
      if name ∈ ["token", "thinking", "error"] then .skipped (.missingContent name)
      else .parsed ⟨.other name, ""⟩ := by
  split
  · rename_i known
    apply interpret_none_of_known
    simp only [List.mem_cons, List.not_mem_nil, or_false] at known
    rcases known with rfl | rfl | rfl <;> rfl
  · rename_i unknown
    have other : EventKind.ofName name = .other name := by simp_all [EventKind.ofName]
    rw [interpret_none_of_other (by rw [other]; rfl), other]

/-- What a payload means: that the stream is complete, an event with or without the content that it
needs, or nothing that can be read. -/
inductive Means (payload : List Char) : LineReading → Prop where
  | terminator (ended : payload = endMark) : Means payload .terminator
  | event {name : String} {content : Option String} (isEvent : IsEvent name content payload)
      (complete : content.isSome ∨ (EventKind.ofName name).isOther) :
      Means payload (.parsed ⟨.ofName name, content.getD ""⟩)
  | missing {name : String} (isEvent : IsEvent name none payload)
      (known : (EventKind.ofName name).isOther = false) :
      Means payload (.skipped (.missingContent name))
  | malformed (fault : String) (notEnd : payload ≠ endMark)
      (notEvent : ∀ name content, ¬IsEvent name content payload) :
      Means payload (.skipped (.malformed (String.ofList payload) fault))

theorem means_of_readPayload {reading : LineReading} (read : readPayload payload = reading) :
    Means payload reading := by
  subst read
  by_cases ended : payload = endMark
  · rw [readPayload, if_pos ended]
    exact .terminator ended
  by_cases isEvent : ∃ name content, IsEvent name content payload
  · rcases isEvent with ⟨name, content, isEvent⟩
    rw [readPayload_of_isEvent isEvent]
    cases content with
    | some content => exact .event isEvent (.inl rfl)
    | none =>
        cases other : (EventKind.ofName name).isOther with
        | true =>
            rw [interpret_none_of_other other]
            exact .event isEvent (.inr other)
        | false =>
            rw [interpret_none_of_known other]
            exact .missing isEvent other
  · simp only [not_exists] at isEvent
    rcases readPayload_of_not_isEvent ended isEvent with ⟨fault, skipped⟩
    rw [skipped]
    exact .malformed fault ended isEvent

/-! ## What a reading says about a line -/

/-- The mark of a payload ends with a space. Blanks on either end of the payload do not count, but a
byte order mark is none. -/
example :
    read "data:[DONE]" = .ignored ∧ read "data: \u3000[DONE]\t\u00a0" = .terminator ∧
      read "data: [DONE]\ufeff" ≠ .terminator := by
  decide +kernel

/-! ## Spellings of events -/

/-- Space between tokens is blank. -/
theorem isBlank_of_isSpace {character : Char} (spaced : isSpace character = true) :
    Text.isBlank character = true := by
  simp only [isSpace, Bool.or_eq_true, decide_eq_true_eq] at spaced
  rcases spaced with ((rfl | rfl) | rfl) | rfl <;> decide

theorem isBlank_opening (bracket : Bracket) : Text.isBlank bracket.opening = false := by
  cases bracket <;> decide

theorem isBlank_closing (bracket : Bracket) : Text.isBlank bracket.closing = false := by
  cases bracket <;> decide

/-- Brackets with their items are what trimming leaves of them. -/
theorem trim_of_spellsItems {ι : Type} {bracket : Bracket}
    {holds : ι → List Char → List Char → Prop} {items : List ι} {text before after : List Char}
    (framed : ∀ {item text rest}, holds item text rest → Framed (holds item) text rest)
    (spelled : SpellsItems bracket holds true items text [])
    (blankBefore : ∀ character ∈ before, Text.isBlank character = true)
    (blankAfter : ∀ character ∈ after, Text.isBlank character = true) :
    Text.trim (before ++ (bracket.opening :: text) ++ after) = bracket.opening :: text := by
  rcases spelled.framed fun held => framed held with ⟨front, rfl, -⟩
  rw [Text.trim_append_of_blank blankAfter, Text.trim_append_of_blank_front blankBefore,
    Text.trim_of_visible (isBlank_opening bracket) (isBlank_closing bracket)]

/-- Every spelling of an object with one string for the kind and at most one content is read as the
event with these strings, whatever else is in the object. -/
theorem read_of_object {members : List (String × Holding)} {text before after : List Char}
    (spelled : SpellsItems .object (SpellsPair Holds) true members text [])
    (kind : valuesOf "type" members = [.string name])
    (held : valuesOf "content" members = [.ofOption content] ∨
      valuesOf "content" members = [] ∧ content = none)
    (blankBefore : ∀ character ∈ before, Text.isBlank character = true)
    (blankAfter : ∀ character ∈ after, Text.isBlank character = true) :
    read (String.ofList (payloadMark ++ (before ++ ('\x7b' :: text) ++ after))) =
      match content with
      | some content => .parsed ⟨.ofName name, content⟩
      | none =>
          if name ∈ ["token", "thinking", "error"] then .skipped (.missingContent name)
          else .parsed ⟨.other name, ""⟩ := by
  have isEvent : IsEvent name content ('\x7b' :: text) :=
    ⟨_, [], .none _, .object spelled kind held, .none []⟩
  have trimmed := trim_of_spellsItems (fun member => member.framed Holds.framed) spelled
    blankBefore blankAfter
  have carries : Carries (String.ofList (payloadMark ++ (before ++ ('\x7b' :: text) ++ after)))
      ('\x7b' :: text) := ⟨_, String.toList_ofList, trimmed.symm⟩
  rw [read_of_carries carries, readPayload_of_isEvent isEvent]
  cases content with
  | some content => rfl
  | none => exact interpret_none name

/-- Escapes in names and strings, among them a pair of surrogates; unknown members of one name, which
hold a number past all numbers, a surrogate on its own and a member called like the kind. -/
theorem read_of_object_escaped :
    let text := ("\"a\": 1e9999, \"\\u0074ype\":\"tok\\u0065n\",\"a\":[\x7b\"type\":null\x7d," ++
      "\"\\ud800\"], \"content\" :\"\\ud83d\\ude00\"\x7d").toList
    ∃ members, SpellsItems .object (SpellsPair Holds) true members text [] ∧
      valuesOf "type" members = [.string "token"] ∧
      valuesOf "content" members = [.ofOption (some "😀")] ∧
      (∀ character ∈ ['\u3000'], Text.isBlank character = true) ∧
      (∀ character ∈ ['\u2028', '\r'], Text.isBlank character = true) ∧
      read (String.ofList (payloadMark ++ (['\u3000'] ++ ('\x7b' :: text) ++ ['\u2028', '\r']))) =
        .parsed ⟨.token, "😀"⟩ := by
  intro text
  have record : shape.reader ('\x7b' :: text) = .ok (("token", some "😀"), []) := by decide +kernel
  rcases sound_shape.of_reader record with ⟨found, gap, spelled⟩
  have blankBefore : ∀ character ∈ ['\u3000'], Text.isBlank character = true := by
    rw [List.forall_mem_singleton]
    decide
  have blankAfter : ∀ character ∈ ['\u2028', '\r'], Text.isBlank character = true := by
    rw [List.forall_mem_cons, List.forall_mem_singleton]
    decide
  cases gap with
  | space spaced gap => cases spaced
  | none =>
      cases spellsRecord_iff.mp spelled with
      | @object members _ _ spelled kind held =>
          have given : valuesOf "content" members = [.ofOption (some "😀")] := by simpa using held
          exact ⟨members, spelled, kind, given, blankBefore, blankAfter,
            read_of_object spelled kind held blankBefore blankAfter⟩

end StreamingChat.EventLine
