import StreamingChat.Proofs.Send.Chronicle
import StreamingChat.Proofs.Terminal.Rendering

/-!
# Failures among the log lines

A terminal marks a log line as the note of a failure if it is the last one of a message that has
failed. In a conversation that is made by sends a failure comes together with its note, and no entry
comes after it, so that nothing else is ever taken for a note, and no note for an entry: the log
lines of all renderings, one behind the other, are those of the last state, and these are the lines
that the records of the sends tell of.
-/

namespace StreamingChat

/-! ## Log lines -/

namespace Stroke

def isLog : Stroke → Bool
  | .log _ _ _ => true
  | _ => false

def logLines (strokes : List Stroke) : List Stroke :=
  strokes.filter isLog

@[simp]
theorem logLines_append (first second : List Stroke) :
    logLines (first ++ second) = logLines first ++ logLines second := by
  simp [logLines]

@[simp]
theorem logLines_visible (strokes : List Stroke) :
    logLines (visible strokes) = logLines strokes :=
  filter_visible rfl strokes

@[simp]
theorem logLines_header (id : MessageId) (role : Role) (images : Nat) (rest : List Stroke) :
    logLines (.header id role images :: rest) = logLines rest :=
  rfl

@[simp]
theorem logLines_logged (id : MessageId) (error : Bool) (entries : List String) :
    logLines (logged id error entries) = logged id error entries := by
  induction entries with
  | nil => rfl
  | cons entry rest ih => rw [logged, logLines, List.filter_cons_of_pos rfl, ← logLines, ih]

@[simp]
theorem logLines_written (id : MessageId) (piece : List Char) :
    logLines (written id piece) = [] := by
  rw [written]
  split <;> rfl

@[simp]
theorem logLines_news (old? : Option Message) (message : Message) :
    logLines (news old? message) = logged message.id message.error
      (message.logs.drop (old?.elim 0 fun old => old.logs.length)) := by
  cases old? with
  | none => simp [news]
  | some old => simp [news]

theorem logLines_flatMap {α : Type} (strokes : α → List Stroke) (parts : List α) :
    logLines (parts.flatMap strokes) = parts.flatMap fun part => logLines (strokes part) := by
  rw [logLines, List.filter_flatMap]
  rfl

theorem logged_false (id : MessageId) (entries : List String) :
    logged id false entries = entries.map (.log id false ·) := by
  induction entries with
  | nil => rfl
  | cons entry rest ih => rw [logged, ih]; rfl

theorem logged_append (id : MessageId) (error : Bool) (first second : List String) :
    logged id error (first ++ second) =
      logged id (error && second.isEmpty) first ++ logged id error second := by
  induction first with
  | nil => rfl
  | cons entry rest ih =>
      rw [List.cons_append, logged, ih, logged, List.cons_append]
      cases rest <;> simp

end Stroke

open Stroke

namespace Message

variable {message later : Message} {before after : List Message}

/-- The log lines of a message that is shown as a whole. -/
def logLines (message : Message) : List Stroke :=
  logged message.id message.error message.logs

/-- A mark is neither missing among the lines that have been written nor among the new ones. -/
theorem Proceeds.logLines_append (proceeds : message.Proceeds later) :
    message.logLines ++ logged later.id later.error (later.logs.drop message.logs.length) =
      later.logLines := by
  rcases proceeds.grows.logs with ⟨new, split⟩
  rw [logLines, logLines, ← split, List.drop_left, logged_append, proceeds.grows.id]
  congr 2
  cases failed : message.error with
  | true =>
      have nothing : new = [] := by simpa [proceeds.last failed] using split
      simp [nothing, proceeds.grows.error failed]
  | false =>
      cases failedLater : later.error with
      | false => rfl
      | true =>
          have entries : new ≠ [] := by simpa [← split] using proceeds.noted failed failedLater
          simp [entries]

theorem logLines_news_of_none {shown : MessageId → Option Message}
    (new : shown message.id = none) :
    Stroke.logLines (news (shown message.id) message) = message.logLines := by
  rw [new, logLines_news]
  rfl

/-- What is new in the log lines of messages comes behind those that were there before. -/
theorem GrownAtEnd.logLines_append (atEnd : GrownAtEnd before after)
    (unique : (after.map Message.id).Nodup) {shown : MessageId → Option Message}
    (known : ∀ message ∈ before, shown message.id = some message)
    (unknown : ∀ message ∈ after, message.id ∉ before.map Message.id → shown message.id = none) :
    before.flatMap logLines ++
        after.flatMap (fun message => Stroke.logLines (news (shown message.id) message)) =
      after.flatMap logLines := by
  induction atEnd with
  | added later =>
      rw [List.flatMap_nil, List.nil_append]
      refine List.flatMap_congr fun message member => ?_
      exact logLines_news_of_none (unknown message member (by simp))
  | @last message later proceeds others =>
      rw [List.map_cons, List.nodup_cons] at unique
      have seen : shown later.id = some message := by
        rw [proceeds.grows.id]
        exact known message (List.mem_singleton_self _)
      have new : others.flatMap (fun other => Stroke.logLines (news (shown other.id) other)) =
          others.flatMap logLines := by
        refine List.flatMap_congr fun other member => logLines_news_of_none ?_
        refine unknown other (List.mem_cons_of_mem _ member) fun same => ?_
        rw [List.map_singleton, List.mem_singleton, ← proceeds.grows.id] at same
        exact unique.1 (same ▸ List.mem_map_of_mem member)
      rw [List.flatMap_singleton, List.flatMap_cons, List.flatMap_cons, new, seen, logLines_news,
        ← List.append_assoc]
      exact congrArg (· ++ _) proceeds.logLines_append
  | @kept message messages others rest ih =>
      rw [List.map_cons, List.nodup_cons] at unique
      rw [List.forall_mem_cons] at known
      have unknownRest : ∀ other ∈ others, other.id ∉ messages.map Message.id →
          shown other.id = none := by
        intro other member new
        refine unknown other (List.mem_cons_of_mem _ member) fun same => ?_
        rcases List.mem_cons.mp same with first | old
        · exact unique.1 (first ▸ List.mem_map_of_mem member)
        · exact new old
      have nothing : Stroke.logLines (news (shown message.id) message) = [] := by
        simp [known.1, logged]
      rw [List.flatMap_cons, List.flatMap_cons, List.flatMap_cons, nothing, List.nil_append,
        List.append_assoc, ih unique.2 known.2 unknownRest]

end Message

namespace Terminal

variable {terminal : Terminal} {before : List Message}

/-- Whichever states a terminal has been shown, the log lines are those of the last one. -/
theorem logLines_run_snapshotWriter (remembers : terminal.Remembers (Message.named before))
    {snapshots : List Snapshot}
    (grown : (before :: snapshots.map Snapshot.messages).Pairwise Message.GrownAtEnd)
    (unique : ∀ messages ∈ before :: snapshots.map Snapshot.messages,
      (messages.map Message.id).Nodup) :
    before.flatMap Message.logLines ++ logLines (snapshotWriter.run terminal snapshots).2 =
      ((snapshots.map Snapshot.messages).getLastD before).flatMap Message.logLines := by
  induction snapshots generalizing terminal before with
  | nil => simp [Transducer.run_nil, logLines]
  | cons snapshot rest ih =>
      rw [List.map_cons, List.forall_mem_cons] at unique
      rw [List.map_cons, List.pairwise_cons, List.forall_mem_cons] at grown
      have uniqueFirst : (snapshot.messages.map Message.id).Nodup :=
        unique.2 _ (List.mem_cons_self ..)
      rcases render_of_grown remembers grown.1.1.grown uniqueFirst #[] with
        ⟨-, remembersFirst, -, new⟩
      have lines := grown.1.1.logLines_append uniqueFirst
        (fun message member => Message.named_of_mem unique.1 member)
        (fun message _ unlisted => Message.named_eq_none unlisted)
      rw [← logLines_flatMap, ← new, logLines_visible] at lines
      have steps : snapshotWriter.run terminal (snapshot :: rest) =
          ((snapshotWriter.run (terminal.display snapshot).1 rest).1,
            (terminal.display snapshot).2 ++
              (snapshotWriter.run (terminal.display snapshot).1 rest).2) :=
        Transducer.run_cons ..
      rw [steps, logLines_append, ← List.append_assoc, lines, ih remembersFirst grown.2 unique.2,
        List.map_cons, List.getLastD_cons]

end Terminal

/-! ## Lines that records tell of -/

/-- The log lines of the message that a send has filled in. What its events have told is shown as it
is, and only the note of a failure is marked. -/
def SendRecord.lines (record : SendRecord) : List Stroke :=
  record.entries.map (.log record.target false ·) ++
    record.note?.toList.map (.log record.target true ·)

theorem SendRecord.map_text_lines (palette : Palette) (records : List SendRecord) :
    (records.flatMap lines).map (text palette) = records.flatMap fun record =>
      record.entries.map (fun entry =>
        s!"  {palette.dim}{palette.italic}· {entry}{palette.reset}\n") ++
      record.note?.toList.map fun note => s!"  {palette.red}✗ {note}{palette.reset}\n" := by
  rw [List.map_flatMap]
  refine List.flatMap_congr fun record _ => ?_
  rw [lines, List.map_append, List.map_map, List.map_map]
  rfl

theorem SendRecord.Left.logLines {record : SendRecord} {answer : Message}
    (left : record.Left answer) : answer.logLines = record.lines := by
  rw [Message.logLines, left.logs, left.id, left.error, logged_append, lines]
  cases record.note? <;> simp [logged_false, logged]

namespace Chronicle

variable {records : List SendRecord} {states : List Snapshot} {store : Store}

/-- The log lines of a conversation are those that the records of its sends tell of. -/
theorem flatMap_logLines (chronicle : Chronicle records states store) :
    store.messages.flatMap Message.logLines = records.flatMap SendRecord.lines := by
  induction chronicle with
  | begun => rfl
  | @sent records states store before errand counted lines =>
      cases recorded : errand.record? store with
      | none =>
          have same : errand.after store = store := by
            rcases errand.cases_attempt store with ⟨same, -, -⟩ | ⟨prompt, -, -, -, found⟩
            · exact same
            · rw [recorded] at found
              cases found
          rw [same, lines, Option.toList_none, List.append_nil]
      | some record =>
          rcases Errand.exists_answer before.settled.tight.ahead counted recorded with
            ⟨prompt, answer, messages, noLogs, left⟩
          have quiet : prompt.logLines = [] := by rw [Message.logLines, noLogs, logged]
          rw [messages, List.flatMap_append, lines, List.flatMap_append, Option.toList_some,
            List.flatMap_singleton, ← left.logLines]
          simp [quiet]
  | resumed before path loaded lines =>
      rw [Transcript.load_ofStore before.settled.tight] at loaded
      cases loaded
      exact lines

end Chronicle

namespace Terminal

/-- Whichever states a terminal has been shown of a conversation that is made by sends, once it is
shown the last one it has written one log line for each entry that the events of a send have left,
and of these it has marked none; and for each send that has failed one marked line more, with the
note of the failure. The mark is a cross, where other lines have a dot. -/
theorem failures_marked {records : List SendRecord} {states : List Snapshot} {store : Store}
    (chronicle : Chronicle records states store) (palette : Palette) {earlier : List Snapshot}
    (seen : (earlier ++ [store.toSnapshot]).Sublist states) :
    let snapshots := earlier ++ [store.toSnapshot]
    let shown := snapshotWriter.run (start palette) snapshots
    (start palette).renderAll .unlimited snapshots =
        (.ok (), shown.1, ⟨(bytes palette shown.2).toArray, none⟩) ∧
      shown.2.filter isLog = records.flatMap SendRecord.lines ∧
      (shown.2.filter isLog).map (text palette) = records.flatMap fun record =>
        record.entries.map (fun entry =>
          s!"  {palette.dim}{palette.italic}· {entry}{palette.reset}\n") ++
        record.note?.toList.map fun note => s!"  {palette.red}✗ {note}{palette.reset}\n" := by
  intro snapshots shown
  have atEnd : snapshots.Pairwise fun first second =>
      Message.GrownAtEnd first.messages second.messages :=
    chronicle.pairwise_grownAtEnd.sublist seen
  have grown : snapshots.Pairwise fun first second =>
      Message.Grown first.messages second.messages := atEnd.imp Message.GrownAtEnd.grown
  have unique := chronicle.settled.unique
  refine ⟨(renderAll_of_states palette grown unique).1, ?_⟩
  have uniqueAll : ∀ messages ∈ [] :: snapshots.map Snapshot.messages,
      (messages.map Message.id).Nodup := by
    rw [List.forall_mem_cons, List.forall_mem_map]
    exact ⟨.nil, nodup_of_pairwise_grown grown unique⟩
  have lines := logLines_run_snapshotWriter (remembers_start palette)
    (List.pairwise_cons.mpr ⟨fun later _ => .added later, List.pairwise_map.mpr atEnd⟩) uniqueAll
  rw [List.flatMap_nil, List.nil_append, List.map_append, List.map_singleton,
    List.getLastD_concat] at lines
  have marked : shown.2.filter isLog = records.flatMap SendRecord.lines :=
    lines.trans chronicle.flatMap_logLines
  exact ⟨marked, marked ▸ SendRecord.map_text_lines palette records⟩

/-- A send that has failed, seen by the next run of the program, in which another one receives an
error as an event. -/
theorem failures_marked_after_resuming :
    let thinking := "data: \x7b\"type\":\"thinking\",\"content\":\"Hm\"\x7d\n"
    let error := "data: \x7b\"type\":\"error\",\"content\":\"Oh\"\x7d\n"
    let broken : Reply := .body [thinking.toUTF8.toList] (some (.io "reset"))
    let whole : Reply := .body [error.toUTF8.toList] none
    let first : Errand :=
      ⟨⟨"reader", false⟩, "Hi", [], default, broken, broken.reports, List.prefix_refl _⟩
    let second : Errand :=
      ⟨⟨"reader", false⟩, "Na?", [], default, whole, whole.reports, List.prefix_refl _⟩
    let resumed := (first.after Store.empty).resumed
    let final := second.after resumed
    let records : List SendRecord :=
      [⟨⟨2⟩, [.parsed ⟨.thinking, "Hm"⟩], some (.failed ⟨2⟩ "IO error: reset")⟩,
        ⟨⟨4⟩, [.parsed ⟨.error, "Oh"⟩], some (.completed ⟨4⟩ .endOfBody)⟩]
    let snapshots := [resumed.toSnapshot, final.toSnapshot]
    let states := [resumed.toSnapshot] ++ second.states resumed
    let shown := snapshotWriter.run (start .plain) snapshots
    let output := "You: Hi\nOswald: \n  · Hm\n  ✗ IO error: reset\n" ++
      "You: Na?\nOswald: \n  · Oh\n"
    Chronicle records states final ∧ snapshots.Sublist states ∧
      (start .plain).renderAll .unlimited snapshots =
        (.ok (), shown.1, ⟨output.toUTF8.toList.toArray, none⟩) ∧
      shown.2.filter isLog =
        [.log ⟨2⟩ false "Hm", .log ⟨2⟩ true "IO error: reset", .log ⟨4⟩ false "Oh"] ∧
      (shown.2.filter isLog).map (text .plain) =
        ["  · Hm\n", "  ✗ IO error: reset\n", "  · Oh\n"] := by
  intro thinking error broken whole first second resumed final records snapshots states shown output
  have countedFirst : Store.empty.nextId ≤ (first.after Store.empty).nextId := by decide +kernel
  have countedSecond : resumed.nextId ≤ final.nextId := by decide +kernel
  have saved := Chronicle.sent .begun first countedFirst
  have loaded := Transcript.load_ofStore saved.settled.tight "chat.json"
  have told : (first.record? Store.empty).toList ++ (second.record? resumed).toList = records := by
    decide +kernel
  have chronicle := Chronicle.sent (.resumed saved "chat.json" loaded) second countedSecond
  rw [List.nil_append, told] at chronicle
  have seen : snapshots.Sublist states := by decide +kernel
  have seenInOrder : ([resumed.toSnapshot] ++ [final.toSnapshot]).Sublist states := seen
  rcases failures_marked chronicle .plain seenInOrder with ⟨rendered, lines, texts⟩
  have written : bytes .plain shown.2 = output.toUTF8.toList := by decide +kernel
  rw [← written]
  exact ⟨chronicle, seen, rendered, lines.trans (by decide +kernel),
    texts.trans (by decide +kernel)⟩

end Terminal

end StreamingChat
