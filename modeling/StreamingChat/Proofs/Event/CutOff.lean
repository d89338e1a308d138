import StreamingChat.Proofs.Event.Reading
import StreamingChat.Proofs.Text.Utf8.Cuts

/-!
# Lines that are cut off

No event is a front part of another one: an event is read the same whatever follows it, so that what
follows can only be space, of which trimming has left none. A line that is cut off anywhere is
therefore read as the whole line is, or as neither an event nor the end of the stream.
-/

namespace StreamingChat

/-- Whether a reading is an event or the end of the stream. -/
def LineReading.Counts : LineReading → Prop
  | .parsed _ => True
  | .terminator => True
  | .ignored => False
  | .skipped _ => False

instance LineReading.decidableCounts : DecidablePred LineReading.Counts
  | .parsed _ => .isTrue trivial
  | .terminator => .isTrue trivial
  | .ignored => .isFalse id
  | .skipped _ => .isFalse id

namespace EventLine

open Json

variable {name : String} {content : Option String} {text front : List Char}

/-! ## Events that are cut off -/

theorem SpellsEvent.framed {rest : List Char} (spelled : SpellsEvent name content text rest) :
    ∃ front bracket, text = front ++ Bracket.closing bracket :: rest ∧
      ∀ other, SpellsEvent name content (front ++ Bracket.closing bracket :: other) other := by
  cases spelled with
  | object spelled kind held =>
      rcases spelled.framed fun member => member.framed Holds.framed with ⟨front, rfl, framed⟩
      exact ⟨'\x7b' :: front, .object, rfl, fun other => .object (framed other) kind held⟩
  | kind spelled missing =>
      rcases spelled.framed fun held => held.framed with ⟨front, rfl, framed⟩
      exact ⟨'[' :: front, .list, rfl, fun other => .kind (framed other) missing⟩
  | pair spelled =>
      rcases spelled.framed fun held => held.framed with ⟨front, rfl, framed⟩
      exact ⟨'[' :: front, .list, rfl, fun other => .pair (framed other)⟩

/-- An event is read the same whatever follows it. -/
theorem IsEvent.reader_append (isEvent : IsEvent name content text) :
    ∃ rest, ∀ more, shape.reader (text ++ more) = .ok ((name, content), rest ++ more) := by
  rcases isEvent with ⟨record, rest, gap, spelled, -⟩
  rcases gap.framed with ⟨before, rfl, framedGap⟩
  rcases spelled.framed with ⟨front, bracket, rfl, framed⟩
  refine ⟨rest, fun more => ?_⟩
  have record := spellsRecord_iff.mpr (framed (rest ++ more))
  simpa using complete_shape.reader_eq (framedGap _) record

/-- What is left of an event after a front part that is one is space. -/
theorem IsEvent.isSpace_of_append {more : List Char} {other : String}
    {otherContent : Option String} (isEvent : IsEvent name content front)
    (whole : IsEvent other otherContent (front ++ more)) :
    ∀ character ∈ more, isSpace character = true := by
  rcases isEvent.reader_append with ⟨rest, reads⟩
  rcases Reader.parse_eq_ok_iff.mp (parse_eq_ok_iff.mpr whole) with ⟨remains, read, ends⟩
  rw [reads more] at read
  cases read
  intro character member
  exact gap_nil_iff.mp ends character (List.mem_append_right rest member)

/-- An event ends with the end of its brackets or with space. -/
theorem IsEvent.ne_append_replacement (isEvent : IsEvent name content text) :
    text ≠ front ++ [Text.Utf8.replacement] := by
  rintro rfl
  rcases isEvent with ⟨record, rest, gap, spelled, ends⟩
  rcases gap.framed with ⟨before, split, -⟩
  rcases spelled.framed with ⟨inside, bracket, rfl, -⟩
  cases rest using List.reverseRecOn with
  | nil =>
      rw [← List.append_assoc] at split
      have same := List.append_inj_right' split rfl
      cases bracket <;> cases same
  | append_singleton rest last =>
      have spaced := gap_nil_iff.mp ends last (by simp)
      rw [← List.cons_append, ← List.append_assoc, ← List.append_assoc] at split
      cases List.append_inj_right' split rfl
      cases spaced

/-- No front part of what ends a stream is an event, nor anything that begins with it. -/
theorem not_isEvent_of_prefix_endMark (isFront : front <+: endMark) :
    ¬IsEvent name content front := by
  intro isEvent
  rcases isFront with ⟨more, split⟩
  rcases isEvent.reader_append with ⟨rest, reads⟩
  have read := reads more
  rw [split] at read
  cases read

theorem not_isEvent_endMark_append {more : List Char} : ¬IsEvent name content (endMark ++ more) := by
  intro isEvent
  rcases Reader.parse_eq_ok_iff.mp (parse_eq_ok_iff.mpr isEvent) with ⟨rest, read, -⟩
  cases read

/-! ## Lines that are cut off -/

theorem eq_endMark_or_isEvent_of_counts {payload : List Char}
    (counts : (readPayload payload).Counts) :
    payload = endMark ∨ ∃ name content, IsEvent name content payload := by
  generalize read : readPayload payload = reading at counts
  cases means_of_readPayload read with
  | terminator ended => exact .inl ended
  | event isEvent complete => exact .inr ⟨_, _, isEvent⟩
  | missing isEvent known => cases counts
  | malformed fault notEnd notEvent => cases counts

/-- A trimmed payload that counts has no other front part that does. -/
theorem eq_of_prefix_of_counts {payload : List Char}
    (trimmed : ∀ before last, payload = before ++ [last] → Text.isBlank last = false)
    (counts : (readPayload payload).Counts) (isFront : front <+: payload)
    (frontCounts : (readPayload front).Counts) : front = payload := by
  rcases eq_endMark_or_isEvent_of_counts counts with rfl | ⟨name, content, isEvent⟩
  · rcases eq_endMark_or_isEvent_of_counts frontCounts with same | ⟨name, content, isEvent⟩
    · exact same
    · exact absurd isEvent (not_isEvent_of_prefix_endMark isFront)
  · rcases eq_endMark_or_isEvent_of_counts frontCounts with rfl | ⟨_, _, frontIsEvent⟩
    · rcases isFront with ⟨more, rfl⟩
      exact absurd isEvent not_isEvent_endMark_append
    · rcases isFront with ⟨more, rfl⟩
      cases more using List.reverseRecOn with
      | nil => rw [List.append_nil]
      | append_singleton more last =>
          -- Only space can follow an event, but trimming has left none at the end.
          have spaced := frontIsEvent.isSpace_of_append isEvent last (by simp)
          have visible := trimmed (front ++ more) last (List.append_assoc _ _ _).symm
          rw [isBlank_of_isSpace spaced] at visible
          cases visible

theorem exists_of_counts {line : List Char} (counts : (readChars line).Counts) :
    ∃ behind, line = payloadMark ++ behind ∧ (readPayload (Text.trim behind)).Counts := by
  by_cases marked : payloadMark <+: line
  · rcases marked with ⟨behind, rfl⟩
    rw [readChars_append] at counts
    exact ⟨behind, rfl, counts⟩
  · rw [readChars_of_unmarked marked] at counts
    cases counts

theorem readChars_of_front {line : List Char} (counts : (readChars line).Counts)
    (isFront : front <+: line) (frontCounts : (readChars front).Counts) :
    readChars front = readChars line := by
  rcases exists_of_counts counts with ⟨behind, rfl, payloadCounts⟩
  rcases exists_of_counts frontCounts with ⟨frontBehind, rfl, frontPayloadCounts⟩
  rw [List.prefix_append_right_inj] at isFront
  have same := eq_of_prefix_of_counts (fun before last => Text.isBlank_of_trim_eq) payloadCounts
    (Text.trim_prefix_trim isFront) frontPayloadCounts
  rw [readChars_append, readChars_append, same]

theorem not_counts_append_replacement (text : List Char) :
    ¬(readChars (text ++ [Text.Utf8.replacement])).Counts := by
  intro counts
  rcases exists_of_counts counts with ⟨behind, split, payloadCounts⟩
  cases behind using List.reverseRecOn with
  | nil =>
      have member : Text.Utf8.replacement ∈ payloadMark := by
        rw [List.append_nil] at split
        simp [← split]
      exact absurd member (by decide)
  | append_singleton behind last =>
      rw [← List.append_assoc] at split
      cases List.append_inj_right' split rfl
      rcases Text.exists_trim_append (by decide : Text.isBlank Text.Utf8.replacement = false)
        behind with ⟨front, trimmed⟩
      rw [trimmed] at payloadCounts
      rcases eq_endMark_or_isEvent_of_counts payloadCounts with ended | ⟨name, content, isEvent⟩
      · have member : Text.Utf8.replacement ∈ endMark := by simp [← ended]
        exact absurd member (by decide)
      · exact isEvent.ne_append_replacement rfl

/-- A line that is cut off at any byte is read as the whole line, or does not count. -/
theorem readChars_of_cut {line : List Char} (counts : (readChars line).Counts) {cut : List UInt8}
    (part : cut <+: line.flatMap String.utf8EncodeChar) :
    readChars (Text.Utf8.characters cut) = readChars line ∨
      ¬(readChars (Text.Utf8.characters cut)).Counts := by
  rcases Text.Utf8.characters_of_prefix part with ⟨front, isFront, decoded | decoded⟩
  · rw [decoded]
    by_cases frontCounts : (readChars front).Counts
    · exact .inl (readChars_of_front counts isFront frontCounts)
    · exact .inr frontCounts
  · rw [decoded]
    exact .inr (not_counts_append_replacement front)

/-- No byte order mark is at the front of a line that counts, wherever it is cut off. -/
theorem dropMark_of_cut {line : List Char} (counts : (readChars line).Counts) {cut : List UInt8}
    (part : cut <+: line.flatMap String.utf8EncodeChar) :
    Text.Utf8.dropMark (Text.Utf8.characters cut) = Text.Utf8.characters cut := by
  rcases exists_of_counts counts with ⟨behind, rfl, -⟩
  rcases Text.Utf8.characters_of_prefix part with ⟨front, isFront, decoded⟩
  cases front with
  | nil => rcases decoded with decoded | decoded <;> rw [decoded] <;> rfl
  | cons first front =>
      have letter : first = 'd' := (List.cons_prefix_cons.mp isFront).1
      subst letter
      rcases decoded with decoded | decoded <;> rw [decoded] <;> rfl

end EventLine

end StreamingChat
