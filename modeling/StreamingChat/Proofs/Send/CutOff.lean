import StreamingChat.Proofs.Event.CutOff
import StreamingChat.Proofs.Send.Steps
import StreamingChat.Proofs.Text.Utf8.Strict

/-!
# Sends whose last line is cut off

When the last line of a body is flushed, the body may have been cut off inside it. If the whole line
counts, the send leaves what it would have left of the whole line, or what it would have left
without the line.
-/

namespace StreamingChat

open Text

/-- A reading that does not count is at most an entry of the log. -/
theorem settle_append_of_not_counts (readings : List LineReading) {reading : LineReading}
    (vain : ¬reading.Counts) :
    ∃ logged : List LogEntry,
      settle (readings ++ [reading]) =
        ((settle readings).1 ++ logged.map .log, (settle readings).2) := by
  rw [settle_append]
  split
  · exact ⟨[], by simp⟩
  · rename_i unended
    have running : (settle readings).2 = false := by simpa using unended
    cases reading with
    | ignored => exact ⟨[], by simp [settle, running]⟩
    | skipped reason => exact ⟨[_], by rw [running]; rfl⟩
    | parsed event => exact absurd trivial vain
    | terminator => exact absurd trivial vain

namespace Effect

theorem performAll_append (target : MessageId) (store : Store) (first second : List Effect) :
    performAll target store (first ++ second) =
      performAll target (performAll target store first) second :=
  List.foldl_append

theorem performAll_log (target : MessageId) (store : Store) (logged : List LogEntry) :
    performAll target store (logged.map .log) = store := by
  induction logged with
  | nil => rfl
  | cons entry rest ih => exact ih

end Effect

/-- The readings of a body that comes to its end. -/
def readingsOf (flushes : Bool) (body : List UInt8) : List LineReading :=
  (linesOf flushes (Utf8.dropMark (Utf8.characters body))).map EventLine.read

namespace Sender

variable (sender : Sender) (store : Store) (text : String) (images : List Image)
  (now : SendTimes)

/-- Readings that settle alike, but for the log, leave the same. -/
theorem send_of_settle {first second : List (List UInt8)} {logged : List LogEntry}
    (alike : settle (readingsOf sender.flushes first.flatten) =
      ((settle (readingsOf sender.flushes second.flatten)).1 ++ logged.map .log,
        (settle (readingsOf sender.flushes second.flatten)).2)) :
    (sender.send store text images now (.body first none)).answer =
        (sender.send store text images now (.body second none)).answer ∧
      (sender.send store text images now (.body first none)).store =
        (sender.send store text images now (.body second none)).store := by
  cases attempted : sender.attempt store text images now with
  | ignored => simp [send, attempted]
  | rejected rejection => simp [send, attempted]
  | begun started request begun =>
      rcases eq_of_attempt attempted with ⟨prompt, -, -, rfl, -, -⟩
      have taken (chunks : List (List UInt8)) :
          (⟨⟨store.nextId + 1⟩, sender.flushes, .opening⟩ : Send).takeInAll
              (Reply.body chunks none).reports =
            Send.after (settle (readingsOf sender.flushes chunks.flatten)).1
              ((⟨⟨store.nextId + 1⟩, sender.flushes, .opening⟩ : Send).close
                (settle (readingsOf sender.flushes chunks.flatten)).2 none) :=
        Send.takeInAll_body _ _ chunks none
      simp only [send, attempted, taken, Send.after, alike, Effect.performAll_append,
        Effect.performAll_log, and_self]

theorem send_of_readings {first second : List (List UInt8)}
    (same : readingsOf sender.flushes first.flatten = readingsOf sender.flushes second.flatten) :
    (sender.send store text images now (.body first none)).answer =
        (sender.send store text images now (.body second none)).answer ∧
      (sender.send store text images now (.body first none)).store =
        (sender.send store text images now (.body second none)).store := by
  have alike : settle (readingsOf sender.flushes first.flatten) =
      ((settle (readingsOf sender.flushes second.flatten)).1 ++ ([] : List LogEntry).map .log,
        (settle (readingsOf sender.flushes second.flatten)).2) := by
    rw [same, List.map_nil, List.append_nil]
  exact send_of_settle sender store text images now alike

end Sender

/-- The last line of a body is read behind the others. -/
theorem readingsOf_append {before later : List UInt8} (ends : Utf8.EndsLine before)
    (whole : Utf8.newline ∉ later)
    (noMark : Utf8.dropMark (Utf8.characters later) = Utf8.characters later) :
    readingsOf true (before ++ later) =
      readingsOf true before ++
        if Utf8.characters later = [] then []
        else [EventLine.readChars (Utf8.characters later)] := by
  rw [readingsOf, readingsOf, ends.text_append noMark,
    linesOf_append_of_unterminated ends.unterminated_text (Utf8.newline_not_mem_characters whole),
    List.map_append]
  split <;> simp [EventLine.read]

namespace Sender

/-- A line that counts and is cut off at any byte is read as the whole line, or does not count. If
it is the last one of a body, and is flushed, the send leaves what it leaves of the whole line, or
what it leaves without the line. -/
theorem cut_off_unnoticed {line : String} (counts : (EventLine.read line).Counts)
    {cut : List UInt8} (part : cut <+: line.toUTF8.toList) :
    let reading := EventLine.read (Utf8.decode cut)
    (reading = EventLine.read line ∨ ¬reading.Counts) ∧
      ('\n' ∉ line.toList → ∀ sender : Sender, sender.flushes = true →
        ∀ (store : Store) (text : String) (images : List Image) (now : SendTimes)
          (before : List UInt8) (chunks : List (List UInt8)),
        Utf8.EndsLine before → chunks.flatten = before ++ cut →
        let sent (body : List (List UInt8)) :=
          sender.send store text images now (.body body none)
        (reading = EventLine.read line →
          (sent chunks).answer = (sent [before ++ line.toUTF8.toList]).answer ∧
            (sent chunks).store = (sent [before ++ line.toUTF8.toList]).store) ∧
        (¬reading.Counts →
          (sent chunks).answer = (sent [before]).answer ∧
            (sent chunks).store = (sent [before]).store)) := by
  intro reading
  rw [Utf8.toList_toUTF8] at part ⊢
  have noMark := EventLine.dropMark_of_cut counts part
  have decoded : reading = EventLine.readChars (Utf8.characters cut) := by
    simp only [reading, Utf8.decode, noMark, EventLine.read, String.toList_ofList]
  refine ⟨?_, ?_⟩
  · rw [decoded]
    exact EventLine.readChars_of_cut counts part
  intro whole sender flushes store text images now before chunks ends split sent
  have wholeBytes := Utf8.newline_not_mem_encoded whole
  have wholeCut : Utf8.newline ∉ cut := fun member => wholeBytes (part.subset member)
  have cutReadings := readingsOf_append ends wholeCut noMark
  rw [← split, ← flushes, ← decoded] at cutReadings
  constructor
  · intro same
    have read : Utf8.characters cut ≠ [] := by
      intro nothing
      rw [← same, decoded, nothing] at counts
      cases counts
    have given : line.toList ≠ [] := by
      intro nothing
      rw [EventLine.read, nothing] at counts
      cases counts
    have lineReadings := readingsOf_append ends wholeBytes
      (EventLine.dropMark_of_cut counts (List.prefix_refl _))
    rw [if_neg read] at cutReadings
    rw [Utf8.characters_encoded, if_neg given, ← flushes] at lineReadings
    apply send_of_readings
    rw [cutReadings, same, List.flatten_singleton, lineReadings]
    rfl
  · intro vain
    -- Of a line that is cut off before its first byte there is no line at all.
    by_cases nothing : Utf8.characters cut = []
    · rw [if_pos nothing, List.append_nil] at cutReadings
      apply send_of_readings
      rw [cutReadings, List.flatten_singleton]
    · rw [if_neg nothing] at cutReadings
      rcases settle_append_of_not_counts (readingsOf sender.flushes before) vain with
        ⟨logged, settled⟩
      apply send_of_settle
      rw [cutReadings, List.flatten_singleton]
      exact settled

/-- A line that is cut off inside a character of its content, behind a byte order mark. -/
theorem cut_off_unnoticed_in_character :
    let line := "data: [\"token\", \"caf\u00E9\"]"
    let cut := line.toUTF8.toList.take 21
    let mark := String.utf8EncodeChar Utf8.byteOrderMark
    let sender : Sender := ⟨"reader", true⟩
    let sent (body : List (List UInt8)) :=
      sender.send Store.empty "Hi" [] default (.body body none)
    (EventLine.read line).Counts ∧ cut <+: line.toUTF8.toList ∧ '\n' ∉ line.toList ∧
      sender.flushes = true ∧ Utf8.EndsLine mark ∧ [mark, cut].flatten = mark ++ cut ∧
      ¬(EventLine.read (Utf8.decode cut)).Counts ∧
      (sent [mark, cut]).answer = (sent [mark]).answer ∧
      (sent [mark, cut]).store = (sent [mark]).store := by
  intro line cut mark sender sent
  have counts : (EventLine.read line).Counts := by decide +kernel
  have part : cut <+: line.toUTF8.toList := List.take_prefix _ _
  have whole : '\n' ∉ line.toList := by decide +kernel
  have vain : ¬(EventLine.read (Utf8.decode cut)).Counts := by decide +kernel
  have split : [mark, cut].flatten = mark ++ cut := by simp
  have unnoticed := (cut_off_unnoticed counts part).2 whole sender rfl Store.empty "Hi" [] default
    mark [mark, cut] .mark split
  exact ⟨counts, part, whole, rfl, .mark, split, vain, unnoticed.2 vain⟩

end Sender

end StreamingChat
