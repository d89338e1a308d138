import StreamingChat.Proofs.Send.Window
import StreamingChat.Proofs.Terminal.LineStarts
import StreamingChat.Proofs.Terminal.Rendering

/-!
# The line of an answer

A terminal finishes the line of an answer once the send is over. It takes the send to be over when
the snapshot that it was shown before had an active send and the new one has none. However many
states it misses, one state in which the send was active is enough: the output then ends with a
newline, whatever the answer ends with. A terminal that has not been shown any of them leaves the
line as the answer leaves it.
-/

namespace StreamingChat

open Message Stroke

/-! ## What is seen of a send -/

namespace Turn

variable {target : MessageId} {shared : SharedStore} {turns : List Turn} {snapshot : Snapshot}

/-- What may be seen of a conversation before each turn, up to the one that gives up the ticket of
the send. -/
def inFlight (target : MessageId) (shared : SharedStore) : List Turn → List Snapshot
  | [] => []
  | turn :: rest =>
      shared.store.toSnapshot ::
        if turn = .own .release then [] else inFlight target (take target shared turn).1 rest

theorem grown_take (target : MessageId) (shared : SharedStore) (turn : Turn) :
    Grown shared.store.messages (take target shared turn).1.store.messages := by
  cases turn with
  | own effect => exact (Effect.amended_perform target shared.store effect).grown
  | other action => exact shared.grown_act action

theorem grown_run (target : MessageId) (shared : SharedStore) (turns : List Turn) :
    Grown shared.store.messages ((machine target).run shared turns).1.store.messages := by
  induction turns generalizing shared with
  | nil => rw [Transducer.run_nil]
  | cons turn rest ih =>
      rw [Transducer.run_cons]
      exact (grown_take target shared turn).trans (ih _)

theorem grown_of_mem_inFlight (member : snapshot ∈ inFlight target shared turns) :
    Grown shared.store.messages snapshot.messages ∧
      Grown snapshot.messages ((machine target).run shared turns).1.store.messages := by
  induction turns generalizing shared with
  | nil => cases member
  | cons turn rest ih =>
      rcases List.mem_cons.mp member with rfl | later
      · exact ⟨.refl _, grown_run target shared (turn :: rest)⟩
      · split at later
        · cases later
        · rcases ih later with ⟨earlier, final⟩
          rw [Transducer.run_cons]
          exact ⟨(grown_take target shared turn).trans earlier, final⟩

theorem pairwise_grown_inFlight (target : MessageId) (shared : SharedStore) (turns : List Turn) :
    (inFlight target shared turns).Pairwise fun first second =>
      Grown first.messages second.messages := by
  induction turns generalizing shared with
  | nil => exact .nil
  | cons turn rest ih =>
      rw [inFlight]
      split
      · exact List.pairwise_singleton _ _
      · refine List.pairwise_cons.mpr ⟨fun snapshot member => ?_, ih _⟩
        exact (grown_take target shared turn).trans (grown_of_mem_inFlight member).1

theorem loading_of_mem_inFlight (alone : shared.tickets = [])
    (busy : shared.store.loading = true) (member : snapshot ∈ inFlight target shared turns) :
    snapshot.loading = true := by
  induction turns generalizing shared with
  | nil => cases member
  | cons turn rest ih =>
      rcases List.mem_cons.mp member with rfl | later
      · exact busy
      · split at later
        · cases later
        · rename_i unreleased
          have held : .own .release ∉ [turn] := by simpa using Ne.symm unreleased
          have kept := @loading_run shared target alone busy [turn] held
          rw [Transducer.run_cons, Transducer.run_nil] at kept
          exact ih kept.1 kept.2 later

/-- What is seen before a send, of a send and after it are later and later states. -/
theorem pairwise_grown_seen {first : SharedStore} {earlier : List StoreAction}
    (begins : Grown (first.run earlier).store.messages shared.store.messages)
    {past seen : List Snapshot} (before : past.Sublist (first.states earlier))
    (between : seen.Sublist (inFlight target shared turns)) :
    (past ++ seen ++ [((machine target).run shared turns).1.store.toSnapshot]).Pairwise
      fun first second => Grown first.messages second.messages := by
  rw [List.append_assoc, List.pairwise_append, List.pairwise_append]
  refine ⟨(SharedStore.pairwise_grown_states first earlier).sublist before,
    ⟨(pairwise_grown_inFlight target shared turns).sublist between, List.pairwise_singleton _ _, ?_⟩,
    ?_⟩
  · intro snapshot member final isFinal
    rw [List.mem_singleton.mp isFinal]
    exact (grown_of_mem_inFlight (between.subset member)).2
  · intro snapshot member later memberLater
    have begun := (SharedStore.grown_of_mem_states (before.subset member)).2.trans begins
    rcases List.mem_append.mp memberLater with active | isFinal
    · exact begun.trans (grown_of_mem_inFlight (between.subset active)).1
    · rw [List.mem_singleton.mp isFinal]
      exact begun.trans (grown_run target shared turns)

/-- Without the others, the effects of the send are all that happens. -/
theorem store_run_of_alone (alone : turns.filterMap action? = []) :
    ((machine target).run shared turns).1.store =
      Effect.performAll target shared.store (turns.filterMap effect?) := by
  induction turns generalizing shared with
  | nil => rw [Transducer.run_nil]; rfl
  | cons turn rest ih =>
      rw [Transducer.run_cons]
      cases turn with
      | own effect => exact ih alone
      | other action => cases alone

end Turn

namespace Terminal

variable {terminal : Terminal} {old : List Message} {snapshot : Snapshot}

/-- A terminal that has not seen a send active, nor its last message at all, leaves the line as that
message leaves it. -/
theorem atLineStart_display_of_new_last {front : List Message} {last : Message}
    (quiet : terminal.wasLoading = false) (remembers : terminal.Remembers (Message.named old))
    (grown : Grown old snapshot.messages) (unique : (snapshot.messages.map Message.id).Nodup)
    (split : snapshot.messages = front ++ [last]) (new : last.id ∉ old.map Message.id) :
    (terminal.display snapshot).1.atLineStart = last.endsLine := by
  have continues : ∀ message ∈ front, Continues (Message.named old) message := by
    intro message member
    refine continues_named grown unique ?_
    rw [split]
    exact List.mem_append_left _ member
  rw [split, List.map_append, List.map_singleton] at unique
  have uniqueFront : (front.map Message.id).Nodup := (List.nodup_append.mp unique).1
  have others : last.id ∉ front.map Message.id := fun member =>
    (List.nodup_append.mp unique).2.2 _ member _ (List.mem_singleton_self _) rfl
  have unknown : (messageWriter.run terminal front).1.progress.lookup last.id = none := by
    rw [(drawAll_of_continues uniqueFront remembers continues #[]).2.1, after_of_notMem others,
      Message.named_eq_none new]
    rfl
  rw [atLineStart_display_of_quiet quiet, split, Transducer.run_append, Transducer.run_cons,
    Transducer.run_nil]
  exact atLineStart_draft_of_new unknown

theorem atLineStart_run_of_new_last (palette : Palette) {past : List Snapshot}
    {final : Snapshot} {known front : List Message} {last : Message}
    (states : (past ++ [final]).Pairwise fun first second =>
      Grown first.messages second.messages)
    (unique : (final.messages.map Message.id).Nodup)
    (quiet : (snapshotWriter.run (start palette) past).1.wasLoading = false)
    (before : ∀ snapshot ∈ past, Grown snapshot.messages known)
    (split : final.messages = front ++ [last]) (new : last.id ∉ known.map Message.id) :
    (snapshotWriter.run (start palette) (past ++ [final])).1.atLineStart = last.endsLine := by
  rw [run_snapshotWriter_concat]
  rcases List.eq_nil_or_concat' past with rfl | ⟨earlier, seen, rfl⟩
  · rw [Transducer.run_nil] at quiet ⊢
    exact atLineStart_display_of_new_last quiet (remembers_start palette) (.added _) unique split
      (by simp)
  · have member : seen ∈ earlier ++ [seen] := by simp
    have grows := (List.pairwise_append.mp states).2.2 seen member _ (List.mem_singleton_self _)
    have remembers := (renderAll_of_states palette (List.pairwise_append.mp states).1
      (nodup_of_pairwise_grown states unique seen (List.mem_append_left _ member))).2.1
    refine atLineStart_display_of_new_last quiet remembers grows unique split ?_
    intro old
    exact new ((before seen member).ids.subset old)

/-- A terminal that has been shown a send takes it to be active, and so it takes one that was active
in the last snapshot before. -/
theorem wasLoading_run_iff (palette : Palette) {past seen : List Snapshot}
    (loading : ∀ snapshot ∈ seen, snapshot.loading = true) :
    (snapshotWriter.run (start palette) (past ++ seen)).1.wasLoading = true ↔
      seen ≠ [] ∨ ∃ snapshot, past.getLast? = some snapshot ∧ snapshot.loading = true := by
  rw [wasLoading_run_snapshotWriter]
  rcases List.eq_nil_or_concat' seen with rfl | ⟨others, last, rfl⟩
  · rw [List.append_nil]
    cases past.getLast? <;> simp [start]
  · rw [← List.append_assoc, List.getLast?_concat]
    exact iff_of_true (loading last (by simp)) (.inl (by simp))

/-- Once the send is over, a terminal that has noticed it has ended the line. -/
theorem atLineStart_run_of_noticed (palette : Palette) {past seen : List Snapshot}
    {final : Snapshot} (loading : ∀ snapshot ∈ seen, snapshot.loading = true)
    (isOver : final.loading = false)
    (noticed : seen ≠ [] ∨ ∃ snapshot, past.getLast? = some snapshot ∧ snapshot.loading = true) :
    (snapshotWriter.run (start palette) (past ++ seen ++ [final])).1.atLineStart = true := by
  rw [run_snapshotWriter_concat]
  exact atLineStart_display_of_over ((wasLoading_run_iff palette loading).mpr noticed) isOver

/-- The output of a terminal that has been shown any message stands where the terminal says. -/
theorem getLast?_bytes_iff_of_states (palette : Palette) {earlier : List Snapshot}
    {last : Snapshot} (states : (earlier ++ [last]).Pairwise fun first second =>
      Grown first.messages second.messages)
    (unique : (last.messages.map Message.id).Nodup) {message : Message}
    (member : message ∈ last.messages) :
    let run := snapshotWriter.run (start palette) (earlier ++ [last])
    (bytes palette run.2).getLast? = some Text.Utf8.newline ↔ run.1.atLineStart = true := by
  intro run
  apply getLast?_bytes_run_iff
  intro nothing
  rcases (renderAll_of_states palette states unique).2.2.each message member with ⟨rest, header, -⟩
  rw [nothing] at header
  cases header

end Terminal

open SharedStore

/-- If nobody else acts, a send leaves its answer behind all other messages. -/
theorem Sender.exists_answer_of_alone (sender : Sender) (shared : SharedStore) (prompt : String)
    (images : List Image) (now : SendTimes) {reply : Reply} {told : List Http.Report}
    (partly : told <+: reply.reports) {turns : List Turn}
    (own : turns.filterMap Turn.effect? =
      (⟨⟨shared.store.nextId + 1⟩, sender.flushes, .opening⟩ : Send).course told)
    (alone : turns.filterMap Turn.action? = []) :
    let begun := shared.withStore (shared.store.begun prompt images now)
    let final := ((Turn.machine ⟨shared.store.nextId + 1⟩).run begun turns).1.store
    final.loading = false ∧ ∃ front answer, final.messages = front ++ [answer] ∧
      answer.id = ⟨shared.store.nextId + 1⟩ ∧
      front.map Message.id = shared.store.messages.map Message.id ++ [⟨shared.store.nextId⟩] := by
  intro begun final
  have performed : final = Effect.performAll ⟨shared.store.nextId + 1⟩ begun.store
      (turns.filterMap Turn.effect?) := Turn.store_run_of_alone alone
  have released : .release ∈ turns.filterMap Turn.effect? := by
    rcases Send.course_eq ⟨shared.store.nextId + 1⟩ sender.flushes partly with ⟨logged, course⟩
    rw [own, course, Send.closing]
    simp
  have ids : final.messages.map Message.id =
      (shared.store.messages.map Message.id ++ [⟨shared.store.nextId⟩]) ++
        [⟨shared.store.nextId + 1⟩] := by
    rw [performed, (Effect.amended_performAll _ _ _).ids]
    simp [begun, withStore, Store.begun, Message.fresh]
  refine ⟨?_, ?_⟩
  · rw [performed, Effect.loading_performAll]
    simp [released]
  · rcases List.eq_nil_or_concat' final.messages with none | ⟨front, answer, split⟩
    · rw [none] at ids
      simp at ids
    · rw [split, List.map_append] at ids
      rcases List.append_inj' ids rfl with ⟨frontIds, same⟩
      exact ⟨front, answer, split, List.head_eq_of_cons_eq same, frontIds⟩

namespace Terminal

variable {sender : Sender} {text : String} {images : List Image} {now : SendTimes}
  {send : Send} {request : ChatRequest} {begun : Store}

/-- Whatever states of a conversation a terminal is shown before a send and while it is under way,
and whatever others do meanwhile, the output ends with a newline once the send is over if the
terminal has noticed that a send was active: in any state of this one, or in the last state before.
If it has not, and nobody else acts, the output ends with a newline only if the answer does. -/
theorem answer_line_finished {messages : List Message} {store : Store}
    (opened : Store.ofMessages? messages = some store) (earlier : List StoreAction)
    (accepted : sender.attempt ((ofStore store).run earlier).store text images now =
      .begun send request begun)
    {reply : Reply} {told : List Http.Report} (partly : told <+: reply.reports)
    {turns : List Turn} (own : turns.filterMap Turn.effect? = send.course told)
    {past seen : List Snapshot} (before : past.Sublist ((ofStore store).states earlier))
    (between : seen.Sublist
      (Turn.inFlight send.target (((ofStore store).run earlier).withStore begun) turns))
    (palette : Palette) :
    let final := ((Turn.machine send.target).run
      (((ofStore store).run earlier).withStore begun) turns).1.store
    let snapshots := past ++ seen ++ [final.toSnapshot]
    let shown := snapshotWriter.run (start palette) snapshots
    let finished := (bytes palette shown.2).getLast? = some Text.Utf8.newline
    let noticed := seen ≠ [] ∨ ∃ snapshot, past.getLast? = some snapshot ∧ snapshot.loading = true
    (final.messages.map Message.id).Nodup →
      (start palette).renderAll .unlimited snapshots =
          (.ok (), shown.1, ⟨(bytes palette shown.2).toArray, none⟩) ∧
        (final.loading = false → noticed → finished) ∧
        (turns.filterMap Turn.action? = [] → final.loading = false ∧
          ∃ answer, final.messages.getLast? = some answer ∧ answer.id = send.target ∧
            (finished ↔ noticed ∨ answer.endsLine = true)) := by
  intro final snapshots shown finished noticed unique
  rcases Sender.eq_of_attempt accepted with ⟨prompt, given, idle, rfl, rfl, rfl⟩
  let shared := (ofStore store).run earlier
  let begun := shared.withStore (shared.store.begun prompt images now)
  have begins : Grown shared.store.messages begun.store.messages := by
    simp only [begun, withStore, Store.begun]
    exact .append _ _
  have alone : begun.tickets = [] :=
    ((exclusive_ofMessages opened).run earlier).tickets_eq_nil_iff.mpr idle
  have states : snapshots.Pairwise fun first second => Grown first.messages second.messages :=
    Turn.pairwise_grown_seen begins before between
  have loading : ∀ snapshot ∈ seen, snapshot.loading = true := fun snapshot member =>
    Turn.loading_of_mem_inFlight alone rfl (between.subset member)
  have finishedIff : finished ↔ shown.1.atLineStart = true := by
    have present : Message.fresh ⟨shared.store.nextId + 1⟩ .assistant "" [] now.answer ∈
        begun.store.messages := by
      simp [begun, withStore, Store.begun]
    rcases (Turn.grown_run _ begun turns).exists_of_mem present with ⟨answer, member, -⟩
    exact getLast?_bytes_iff_of_states palette states unique member
  have whenNoticed : final.loading = false → noticed → finished := fun isOver hasNoticed =>
    finishedIff.mpr (atLineStart_run_of_noticed palette loading isOver hasNoticed)
  refine ⟨(renderAll_of_states palette states unique).1, whenNoticed, fun nobody => ?_⟩
  rcases sender.exists_answer_of_alone shared prompt images now partly own nobody with
    ⟨isOver, front, answer, split, same, ids⟩
  have isLast : final.messages.getLast? = some answer := List.getLast?_eq_some_iff.mpr ⟨front, split⟩
  refine ⟨isOver, answer, isLast, same, ?_⟩
  by_cases hasNoticed : noticed
  · exact iff_of_true (whenNoticed isOver hasNoticed) (.inl hasNoticed)
  · have old : ∀ snapshot ∈ past ++ seen, Grown snapshot.messages shared.store.messages := by
      intro snapshot member
      rcases List.mem_append.mp member with shownBefore | inFlight
      · exact (grown_of_mem_states (before.subset shownBefore)).2
      · exact absurd (.inl (List.ne_nil_of_mem inFlight)) hasNoticed
    have new : answer.id ∉ shared.store.messages.map Message.id := by
      have parted : final.messages.map Message.id = front.map Message.id ++ [answer.id] := by
        rw [split, List.map_append, List.map_singleton]
      rw [parted, ids, List.nodup_append] at unique
      intro known
      exact unique.2.2 _ (List.mem_append_left _ known) _ (List.mem_singleton_self _) rfl
    have quiet := Bool.eq_false_iff.mpr (mt (wasLoading_run_iff palette loading).mp hasNoticed)
    rw [finishedIff, or_iff_right hasNoticed,
      atLineStart_run_of_new_last palette states unique quiet old split new]

/-- A terminal that is shown a send when it begins and when it is over. -/
theorem answer_line_finished_noticed :
    let line := "data: \x7b\"type\": \"token\", \"content\": \"Hello\"\x7d\n"
    let reply : Reply := .body [line.toUTF8.toList] none
    let begun := Store.empty.begun "Hi" [] default
    let turns : List Turn :=
      [.own (.apply ⟨.token, "Hello"⟩), .own (.log ⟨.info, "Response #2 completed (EndOfBody)"⟩),
        .own .release]
    let final := ((Turn.machine ⟨2⟩).run (ofStore begun) turns).1.store
    let shown := snapshotWriter.run (start .plain) [begun.toSnapshot, final.toSnapshot]
    Store.ofMessages? [] = some Store.empty ∧
      (⟨"reader", false⟩ : Sender).attempt ((ofStore Store.empty).run []).store "Hi" [] default =
        .begun ⟨⟨2⟩, false, .opening⟩ ⟨"Hi", "reader"⟩ begun ∧
      turns.filterMap Turn.effect? =
        (⟨⟨2⟩, false, .opening⟩ : Send).course reply.reports ∧
      [begun.toSnapshot].Sublist (Turn.inFlight ⟨2⟩ (ofStore begun) turns) ∧
      (final.messages.map Message.id).Nodup ∧
      (start .plain).renderAll .unlimited [begun.toSnapshot, final.toSnapshot] =
        (.ok (), shown.1, ⟨(bytes .plain shown.2).toArray, none⟩) ∧
      (bytes .plain shown.2).getLast? = some Text.Utf8.newline := by
  intro line reply begun turns final shown
  have opened : Store.ofMessages? [] = some Store.empty := rfl
  have accepted : (⟨"reader", false⟩ : Sender).attempt ((ofStore Store.empty).run []).store
      "Hi" [] default = .begun ⟨⟨2⟩, false, .opening⟩ ⟨"Hi", "reader"⟩ begun := by decide +kernel
  have own : turns.filterMap Turn.effect? =
      (⟨⟨2⟩, false, .opening⟩ : Send).course reply.reports := by decide +kernel
  have between : [begun.toSnapshot].Sublist (Turn.inFlight ⟨2⟩ (ofStore begun) turns) := by
    decide +kernel
  have unique : (final.messages.map Message.id).Nodup := by decide +kernel
  rcases answer_line_finished opened [] accepted (List.prefix_refl _) own (List.nil_sublist _) between
    .plain unique with ⟨rendered, finished, -⟩
  refine ⟨opened, accepted, own, between, unique, rendered, ?_⟩
  exact finished (by decide +kernel) (.inl (List.cons_ne_nil _ _))

/-- A terminal that is shown the same send only once it is over leaves its line open. -/
theorem answer_line_left_open :
    let line := "data: \x7b\"type\": \"token\", \"content\": \"Hello\"\x7d\n"
    let reply : Reply := .body [line.toUTF8.toList] none
    let sent := (⟨"reader", false⟩ : Sender).send Store.empty "Hi" [] default reply
    let rendered := (start .plain).renderAll .unlimited [sent.store.toSnapshot]
    sent.answer = some (.ok (.completed ⟨2⟩ .endOfBody)) ∧ rendered.1 = .ok () ∧
      rendered.2.2.taken.toList = "You: Hi\nOswald: Hello".toUTF8.toList ∧
      rendered.2.2.taken.toList.getLast? ≠ some Text.Utf8.newline := by
  decide +kernel

end Terminal

end StreamingChat
