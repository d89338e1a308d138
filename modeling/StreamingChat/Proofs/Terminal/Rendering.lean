import StreamingChat.Proofs.Conversation.NewNumbers
import StreamingChat.Proofs.Terminal.Strokes

/-!
# Rendering a conversation that grows

A terminal that is shown a conversation from time to time writes of each message what has come to it
since the last time. The messages only grow, so that over a run each of them is written once: its
header, then the entries of its log and its content, piece by piece. `Stroke.Shows` says this of the
strokes that have been written so far. It is kept by every rendering of a later state, whichever
states between two renderings go unseen.
-/

namespace StreamingChat

open Stroke

/-! ## Strokes of one message -/

namespace Stroke

/-- The message that a stroke shows a part of. -/
def id? : Stroke → Option MessageId
  | .lineEnd => none
  | .header id _ _ => some id
  | .log id _ _ => some id
  | .content id _ => some id

def isHeader : Stroke → Bool
  | .header _ _ _ => true
  | _ => false

def entry? : Stroke → Option String
  | .log _ _ entry => some entry
  | _ => none

def piece? : Stroke → Option String
  | .content _ piece => some piece
  | _ => none

def about (id : MessageId) (strokes : List Stroke) : List Stroke :=
  strokes.filter fun stroke => stroke.id? = some id

@[simp]
theorem about_append (id : MessageId) (first second : List Stroke) :
    about id (first ++ second) = about id first ++ about id second := by
  simp [about]

theorem about_visible (id : MessageId) (strokes : List Stroke) :
    about id (visible strokes) = about id strokes :=
  filter_visible (by simp [id?]) strokes

theorem id?_of_mem_logged {id : MessageId} {error : Bool} {entries : List String} {stroke : Stroke}
    (member : stroke ∈ logged id error entries) : stroke.id? = some id := by
  induction entries with
  | nil => cases member
  | cons entry rest ih =>
      rcases List.mem_cons.mp member with rfl | later
      · rfl
      · exact ih later

theorem id?_of_mem_written {id : MessageId} {piece : List Char} {stroke : Stroke}
    (member : stroke ∈ written id piece) : stroke.id? = some id := by
  rw [written] at member
  split at member
  · cases member
  · rw [List.mem_singleton.mp member]
    rfl

theorem id?_of_mem_news {old? : Option Message} {message : Message} {stroke : Stroke}
    (member : stroke ∈ news old? message) : stroke.id? = some message.id := by
  rw [news, List.mem_append, List.mem_append] at member
  rcases member with (header | entry) | piece
  · split at header
    · cases header
    · rw [List.mem_singleton.mp header]
      rfl
  · exact id?_of_mem_logged entry
  · exact id?_of_mem_written piece

theorem about_news (old? : Option Message) (message : Message) :
    about message.id (news old? message) = news old? message := by
  apply List.filter_eq_self.mpr
  intro stroke member
  simpa using id?_of_mem_news member

theorem about_news_of_ne {id : MessageId} (old? : Option Message) {message : Message}
    (other : message.id ≠ id) : about id (news old? message) = [] := by
  apply List.filter_eq_nil_iff.mpr
  intro stroke member
  simpa [id?_of_mem_news member] using other

theorem about_flatMap_news_of_notMem {id : MessageId} (shown : MessageId → Option Message)
    {messages : List Message} (unknown : id ∉ messages.map Message.id) :
    about id (messages.flatMap fun message => news (shown message.id) message) = [] := by
  induction messages with
  | nil => rfl
  | cons message rest ih =>
      rw [List.map_cons, List.mem_cons, not_or] at unknown
      rw [List.flatMap_cons, about_append, about_news_of_ne _ (Ne.symm unknown.1), ih unknown.2]
      rfl

/-- Among the news of several messages, those of one message are its own. -/
theorem about_flatMap_news (shown : MessageId → Option Message) {messages : List Message}
    (unique : (messages.map Message.id).Nodup) {message : Message} (member : message ∈ messages) :
    about message.id (messages.flatMap fun message => news (shown message.id) message) =
      news (shown message.id) message := by
  induction messages with
  | nil => cases member
  | cons first rest ih =>
      rw [List.map_cons, List.nodup_cons] at unique
      rw [List.flatMap_cons, about_append]
      rcases List.mem_cons.mp member with rfl | later
      · rw [about_news, about_flatMap_news_of_notMem shown unique.1, List.append_nil]
      · have other : first.id ≠ message.id := by
          intro same
          exact unique.1 (same ▸ List.mem_map_of_mem later)
        rw [about_news_of_ne _ other, ih unique.2 later, List.nil_append]

@[simp]
theorem entries_logged (id : MessageId) (error : Bool) (entries : List String) :
    (logged id error entries).filterMap entry? = entries := by
  induction entries with
  | nil => rfl
  | cons entry rest ih => simp [logged, entry?, ih]

@[simp]
theorem pieces_logged (id : MessageId) (error : Bool) (entries : List String) :
    (logged id error entries).filterMap piece? = [] := by
  induction entries with
  | nil => rfl
  | cons entry rest ih => rwa [logged, List.filterMap_cons_none rfl]

@[simp]
theorem entries_written (id : MessageId) (piece : List Char) :
    (written id piece).filterMap entry? = [] := by
  rw [written]
  split <;> rfl

@[simp]
theorem join_pieces_written (id : MessageId) (piece : List Char) :
    String.join ((written id piece).filterMap piece?) = String.ofList piece := by
  rw [written]
  split
  · rename_i nothing
    simp [nothing]
  · simp [piece?]

theorem isHeader_of_mem_logged {id : MessageId} {error : Bool} {entries : List String}
    {stroke : Stroke} (member : stroke ∈ logged id error entries) : stroke.isHeader = false := by
  induction entries with
  | nil => cases member
  | cons entry rest ih =>
      rcases List.mem_cons.mp member with rfl | later
      · rfl
      · exact ih later

theorem isHeader_of_mem_written {id : MessageId} {piece : List Char} {stroke : Stroke}
    (member : stroke ∈ written id piece) : stroke.isHeader = false := by
  rw [written] at member
  split at member
  · cases member
  · rw [List.mem_singleton.mp member]
    rfl

end Stroke

/-! ## Messages that have been shown -/

/-- Among some strokes, those of a message show it once: a header comes first and never again,
behind it each entry of the log in order, and the content in pieces. -/
def Message.ShownBy (message : Message) (strokes : List Stroke) : Prop :=
  ∃ rest, about message.id strokes =
      .header message.id message.role message.images.length :: rest ∧
    (∀ stroke ∈ rest, stroke.isHeader = false) ∧
    rest.filterMap entry? = message.logs ∧ String.join (rest.filterMap piece?) = message.content

namespace Message

variable {message old : Message} {past strokes : List Stroke}

theorem shownBy_of_news_none (unknown : about message.id past = [])
    (new : about message.id strokes = news none message) : message.ShownBy (past ++ strokes) := by
  refine ⟨logged message.id message.error message.logs ++
    written message.id message.content.toList, ?_, ?_, ?_, ?_⟩
  · rw [about_append, unknown, new]
    simp [news]
  · intro stroke member
    rcases List.mem_append.mp member with entry | piece
    · exact isHeader_of_mem_logged entry
    · exact isHeader_of_mem_written piece
  · simp
  · simp

theorem ShownBy.of_news_some (shown : old.ShownBy past) (grows : old.Extends message)
    (new : about message.id strokes = news (some old) message) :
    message.ShownBy (past ++ strokes) := by
  rcases shown with ⟨rest, parts, noHeader, entries, pieces⟩
  have logs : old.logs ++ message.logs.drop old.logs.length = message.logs :=
    List.prefix_iff_eq_append.mp grows.logs
  have content : old.content ++
      String.ofList (message.content.toList.drop old.content.toList.length) =
        message.content := by
    rw [← String.toList_inj, String.toList_append, String.toList_ofList]
    exact List.prefix_iff_eq_append.mp grows.content
  refine ⟨rest ++ news (some old) message, ?_, ?_, ?_, ?_⟩
  · rw [about_append, new, grows.id, parts, grows.role, grows.images]
    rfl
  · intro stroke member
    rw [news, List.mem_append, List.mem_append, List.mem_append] at member
    rcases member with earlier | (header | entry) | piece
    · exact noHeader stroke earlier
    · cases header
    · exact isHeader_of_mem_logged entry
    · exact isHeader_of_mem_written piece
  · simp [news, entries, logs]
  · simp [news, pieces, content]

end Message

/-- The strokes that have been written show each message once, and nothing else. -/
structure Stroke.Shows (strokes : List Stroke) (messages : List Message) : Prop where
  each : ∀ message ∈ messages, message.ShownBy strokes
  only : ∀ id, id ∉ messages.map Message.id → about id strokes = []

def Message.named (messages : List Message) (id : MessageId) : Option Message :=
  messages.find? fun message => message.id = id

namespace Message

variable {messages : List Message} {message : Message}

theorem named_of_mem (unique : (messages.map Message.id).Nodup) (member : message ∈ messages) :
    named messages message.id = some message := by
  cases found : named messages message.id with
  | none =>
      have missing := List.find?_eq_none.mp found message member
      simp at missing
  | some other =>
      have otherMember := List.mem_of_find?_eq_some found
      have sameId : other.id = message.id := by simpa using List.find?_some found
      rw [List.inj_on_of_nodup_map unique otherMember member sameId]

theorem named_eq_none {id : MessageId} (unknown : id ∉ messages.map Message.id) :
    named messages id = none := by
  rw [named, List.find?_eq_none]
  intro message member same
  exact unknown (List.mem_map.mpr ⟨message, member, by simpa using same⟩)

end Message

namespace Terminal

variable {terminal : Terminal} {shown : MessageId → Option Message} {messages : List Message}

/-- What has been shown after some messages. -/
def after (shown : MessageId → Option Message) (messages : List Message) :
    MessageId → Option Message :=
  messages.foldl (fun shown message => Function.update shown message.id (some message)) shown

theorem after_of_notMem {id : MessageId} (unknown : id ∉ messages.map Message.id) :
    after shown messages id = shown id := by
  induction messages generalizing shown with
  | nil => rfl
  | cons message rest ih =>
      rw [List.map_cons, List.mem_cons, not_or] at unknown
      calc
        after shown (message :: rest) id
            = after (Function.update shown message.id (some message)) rest id := rfl
        _ = Function.update shown message.id (some message) id := ih unknown.2
        _ = shown id := Function.update_of_ne unknown.1 ..

theorem after_of_mem (unique : (messages.map Message.id).Nodup) {message : Message}
    (member : message ∈ messages) : after shown messages message.id = some message := by
  induction messages generalizing shown with
  | nil => cases member
  | cons first rest ih =>
      rw [List.map_cons, List.nodup_cons] at unique
      rcases List.mem_cons.mp member with rfl | later
      · calc
          after shown (message :: rest) message.id
              = after (Function.update shown message.id (some message)) rest message.id := rfl
          _ = Function.update shown message.id (some message) message.id :=
            after_of_notMem unique.1
          _ = some message := Function.update_self ..
      · exact ih unique.2 later

/-- Drawing messages one after the other writes of each what is new in it. -/
theorem drawAll_of_continues (unique : (messages.map Message.id).Nodup)
    (remembers : terminal.Remembers shown)
    (continues : ∀ message ∈ messages, Continues shown message) (taken : Array UInt8) :
    let run := messageWriter.run terminal messages
    terminal.drawAll ⟨taken, none⟩ messages =
        (.ok (), run.1, ⟨taken ++ bytes terminal.palette run.2, none⟩) ∧
      run.1.Remembers (after shown messages) ∧
      visible run.2 = messages.flatMap fun message => news (shown message.id) message := by
  intro run
  induction messages generalizing terminal shown taken with
  | nil => exact ⟨by simp [run, drawAll, bytes], by simpa [run, after] using remembers, rfl⟩
  | cons message rest ih =>
      rw [List.map_cons, List.nodup_cons] at unique
      rw [List.forall_mem_cons] at continues
      have others : ∀ other ∈ rest,
          Function.update shown message.id (some message) other.id = shown other.id := by
        intro other member
        apply Function.update_of_ne
        rintro same
        exact unique.1 (same ▸ List.mem_map_of_mem member)
      have continuesRest : ∀ other ∈ rest,
          Continues (Function.update shown message.id (some message)) other := by
        intro other member
        rw [Continues, others other member]
        exact continues.2 other member
      have drawn := draw_unlimited taken (contentStrokes_of_continues remembers continues.1)
      rcases ih unique.2 (remembers_draft remembers continues.1) continuesRest
        (taken ++ bytes terminal.palette (terminal.draft message).2) with
        ⟨drawnRest, remembersRest, visibleRest⟩
      have news_rest : rest.flatMap (fun other =>
            news (Function.update shown message.id (some message) other.id) other) =
          rest.flatMap fun other => news (shown other.id) other :=
        List.flatMap_congr fun other member => by rw [others other member]
      have steps : run = _ := run_messageWriter_cons terminal message rest
      rw [steps]
      refine ⟨?_, remembersRest, ?_⟩
      · rw [drawAll, drawn]
        dsimp only
        rw [drawnRest]
        simp [taken_append]
      · rw [visible_append, visible_draft remembers continues.1, visibleRest, news_rest,
          List.flatMap_cons]

/-! ## Snapshots -/

variable {before : List Message} {snapshot : Snapshot}

theorem continues_named (grown : Message.Grown before messages)
    (unique : (messages.map Message.id).Nodup) {message : Message} (member : message ∈ messages) :
    Continues (Message.named before) message := by
  intro old found
  exact grown.extends_of_find? unique member found

/-- Rendering a later state writes of each message what has come to it. -/
theorem render_of_grown (remembers : terminal.Remembers (Message.named before))
    (grown : Message.Grown before snapshot.messages)
    (unique : (snapshot.messages.map Message.id).Nodup) (taken : Array UInt8) :
    let shown := terminal.display snapshot
    terminal.render ⟨taken, none⟩ snapshot =
        (.ok (), shown.1, ⟨taken ++ bytes terminal.palette shown.2, none⟩) ∧
      shown.1.Remembers (Message.named snapshot.messages) ∧
      shown.1.wasLoading = snapshot.loading ∧
      visible shown.2 = snapshot.messages.flatMap fun message =>
        news (Message.named before message.id) message := by
  intro shown
  rcases drawAll_of_continues unique remembers
    (fun message member => continues_named grown unique member) taken with
    ⟨drawn, remembersDrawn, news_drawn⟩
  refine ⟨?_, ?_, rfl, ?_⟩
  · rw [render, drawn]
    dsimp only
    rw [write_unlimited]
    simp [shown, display, taken_append]
  · intro id
    have known := remembersDrawn id
    by_cases listed : id ∈ snapshot.messages.map Message.id
    · rcases List.mem_map.mp listed with ⟨message, member, rfl⟩
      rw [after_of_mem unique member] at known
      rw [Message.named_of_mem unique member]
      exact known
    · have unlisted : id ∉ before.map Message.id := by
        intro old
        exact listed (grown.ids.subset old)
      rw [after_of_notMem listed, Message.named_eq_none unlisted] at known
      rw [Message.named_eq_none listed]
      exact known
  · rw [← news_drawn]
    simp only [shown, display, visible_append]
    split <;> simp

/-! ## Rendering a state again -/

theorem draft_of_remembered {message : Message}
    (remembered : terminal.progress.lookup message.id = some message.progress) :
    (terminal.draft message).2 = [] := by
  simp [draft, upperStrokes, remembered, Message.progress, contentStrokes, logStrokes,
    Except.toOption]

theorem run_messageWriter_of_remembered (remembers : terminal.Remembers shown)
    (known : ∀ message ∈ messages, shown message.id = some message) :
    (messageWriter.run terminal messages).2 = [] := by
  induction messages generalizing terminal with
  | nil => simp
  | cons message rest ih =>
      rw [List.forall_mem_cons] at known
      have continues : Continues shown message := by
        intro old found
        rw [known.1, Option.some_inj] at found
        exact found ▸ .refl message
      have same : Function.update shown message.id (some message) = shown := by
        rw [← known.1, Function.update_eq_self]
      have remembersNext := remembers_draft remembers continues
      rw [same] at remembersNext
      have remembered := remembers message.id
      rw [known.1] at remembered
      rw [run_messageWriter_cons, ih remembersNext known.2, List.append_nil]
      exact draft_of_remembered remembered

/-- A terminal that remembers a state has nothing to write of it. -/
theorem render_again (remembers : terminal.Remembers (Message.named snapshot.messages))
    (unique : (snapshot.messages.map Message.id).Nodup)
    (wasLoading : terminal.wasLoading = snapshot.loading) (taken : Array UInt8) :
    ∃ same, terminal.render ⟨taken, none⟩ snapshot = (.ok (), same, ⟨taken, none⟩) := by
  rcases render_of_grown remembers (.refl _) unique taken with ⟨rendered, -⟩
  have nothing : (terminal.display snapshot).2 = [] := by
    have noMessage := run_messageWriter_of_remembered remembers
      (fun message member => Message.named_of_mem unique member)
    simp [display, noMessage, wasLoading]
  refine ⟨(terminal.display snapshot).1, ?_⟩
  rw [rendered, nothing]
  simp [bytes]

/-! ## Runs -/

/-- Renders snapshots one after the other, up to the first that cannot be shown. -/
def renderAll (terminal : Terminal) (output : Output) :
    List Snapshot → Except RenderFailure Unit × Terminal × Output
  | [] => (.ok (), terminal, output)
  | snapshot :: rest =>
      match terminal.render output snapshot with
      | (.ok (), terminal, output) => terminal.renderAll output rest
      | stopped => stopped

end Terminal

theorem Stroke.Shows.append {before messages : List Message} {past strokes : List Stroke}
    (shows : Shows past before) (grown : Message.Grown before messages)
    (unique : (messages.map Message.id).Nodup)
    (new : visible strokes = messages.flatMap fun message =>
      news (Message.named before message.id) message) :
    Shows (past ++ strokes) messages where
  each := by
    intro message member
    have own : about message.id strokes = news (Message.named before message.id) message := by
      rw [← about_visible, new, about_flatMap_news (Message.named before) unique member]
    cases found : Message.named before message.id with
    | none =>
        rw [found] at own
        refine Message.shownBy_of_news_none (shows.only message.id ?_) own
        intro old
        rcases List.mem_map.mp old with ⟨first, firstMember, same⟩
        have missing := List.find?_eq_none.mp found first firstMember
        simp [same] at missing
    | some old =>
        rw [found] at own
        have oldMember := List.mem_of_find?_eq_some found
        exact (shows.each old oldMember).of_news_some
          (grown.extends_of_find? unique member found) own
  only := by
    intro id unknown
    have unlisted : id ∉ before.map Message.id := by
      intro old
      exact unknown (grown.ids.subset old)
    rw [about_append, shows.only id unlisted, ← about_visible, new,
      about_flatMap_news_of_notMem _ unknown]
    rfl

namespace Terminal

variable {terminal : Terminal} {before : List Message} {past : List Stroke} {last : Snapshot}

/-- A terminal that is shown later and later states has shown the last one, and each message
once. -/
theorem renderAll_of_grown {earlier : List Snapshot}
    (remembers : terminal.Remembers (Message.named before)) (shows : Shows past before)
    (grown : (before :: (earlier ++ [last]).map Snapshot.messages).Pairwise Message.Grown)
    (unique : ∀ snapshot ∈ earlier ++ [last], (snapshot.messages.map Message.id).Nodup)
    (taken : Array UInt8) :
    let run := snapshotWriter.run terminal (earlier ++ [last])
    terminal.renderAll ⟨taken, none⟩ (earlier ++ [last]) =
        (.ok (), run.1, ⟨taken ++ bytes terminal.palette run.2, none⟩) ∧
      run.1.Remembers (Message.named last.messages) ∧ run.1.wasLoading = last.loading ∧
      Shows (past ++ run.2) last.messages := by
  intro run
  induction earlier generalizing terminal before past taken with
  | nil =>
      have grows : Message.Grown before last.messages := by simpa using grown
      have uniqueLast : (last.messages.map Message.id).Nodup := by simpa using unique
      rcases render_of_grown remembers grows uniqueLast taken with
        ⟨rendered, remembersLast, loading, new⟩
      have steps : run = terminal.display last := by
        simp [run, Transducer.run_cons, snapshotWriter]
      rw [steps]
      refine ⟨?_, remembersLast, loading, shows.append grows uniqueLast new⟩
      simp [renderAll, rendered]
  | cons first rest ih =>
      rw [List.cons_append, List.forall_mem_cons] at unique
      rw [List.cons_append, List.map_cons, List.pairwise_cons, List.forall_mem_cons] at grown
      rcases render_of_grown remembers grown.1.1 unique.1 taken with
        ⟨rendered, remembersFirst, -, new⟩
      rcases ih remembersFirst (shows.append grown.1.1 unique.1 new) grown.2 unique.2
        (taken ++ bytes terminal.palette (terminal.display first).2) with
        ⟨renderedRest, remembersLast, loading, showsLast⟩
      have steps : run = ((snapshotWriter.run (terminal.display first).1 (rest ++ [last])).1,
          (terminal.display first).2 ++
            (snapshotWriter.run (terminal.display first).1 (rest ++ [last])).2) :=
        Transducer.run_cons ..
      rw [steps]
      refine ⟨?_, remembersLast, loading, ?_⟩
      · rw [List.cons_append, renderAll, rendered]
        dsimp only
        rw [renderedRest]
        simp [taken_append]
      · rw [← List.append_assoc]
        exact showsLast

theorem remembers_start (palette : Palette) : (start palette).Remembers (Message.named []) := by
  intro id
  rfl

theorem nodup_of_pairwise_grown {earlier : List Snapshot} {last : Snapshot}
    (states : (earlier ++ [last]).Pairwise fun first second =>
      Message.Grown first.messages second.messages)
    (unique : (last.messages.map Message.id).Nodup) :
    ∀ snapshot ∈ earlier ++ [last], (snapshot.messages.map Message.id).Nodup := by
  intro snapshot member
  rcases List.mem_append.mp member with shown | isLast
  · have grows := (List.pairwise_append.mp states).2.2 _ shown _ (List.mem_singleton_self _)
    exact grows.ids.sublist.nodup unique
  · rw [List.mem_singleton.mp isLast]
    exact unique

/-- A terminal that is shown states of one conversation writes each message once, and remembers the
last of the states. -/
theorem renderAll_of_states (palette : Palette) {earlier : List Snapshot} {last : Snapshot}
    (states : (earlier ++ [last]).Pairwise fun first second =>
      Message.Grown first.messages second.messages)
    (unique : (last.messages.map Message.id).Nodup) :
    let run := snapshotWriter.run (start palette) (earlier ++ [last])
    (start palette).renderAll .unlimited (earlier ++ [last]) =
        (.ok (), run.1, ⟨(bytes palette run.2).toArray, none⟩) ∧
      run.1.Remembers (Message.named last.messages) ∧ Shows run.2 last.messages := by
  intro run
  have grown : ([] :: (earlier ++ [last]).map Snapshot.messages).Pairwise Message.Grown :=
    List.pairwise_cons.mpr ⟨fun later _ => .added later, List.pairwise_map.mpr states⟩
  have nothing : Shows [] [] := ⟨by simp, fun _ _ => rfl⟩
  rcases renderAll_of_grown (remembers_start palette) nothing grown
    (nodup_of_pairwise_grown states unique) #[] with ⟨rendered, remembers, -, shows⟩
  refine ⟨?_, remembers, shows⟩
  rw [Output.unlimited, rendered]
  simp [run, start]

/-- Whoever acts on a resumed conversation whose messages have numbers of their own, a terminal may
be shown any of its states in order: none of them stops it, and once it has been shown the last one,
it has written each message once. Shown the last state again, it writes nothing. -/
theorem rendered_once {messages : List Message} {store : Store}
    (opened : Store.ofMessages? messages = some store) (unique : (messages.map Message.id).Nodup)
    (palette : Palette) (actions : List StoreAction) (earlier : List Snapshot) :
    let final := ((SharedStore.ofStore store).run actions).store
    let snapshots := earlier ++ [final.toSnapshot]
    Store.firstFreeId messages + (final.messages.length - messages.length) ≤ UInt64.size →
      snapshots.Sublist ((SharedStore.ofStore store).states actions) →
        let shown := snapshotWriter.run (start palette) snapshots
        (start palette).renderAll .unlimited snapshots =
            (.ok (), shown.1, ⟨(bytes palette shown.2).toArray, none⟩) ∧
          (∀ message ∈ final.messages, message.ShownBy shown.2) ∧
          (∀ id, id ∉ final.messages.map Message.id → about id shown.2 = []) ∧
          ∀ taken, ∃ same, shown.1.render ⟨taken, none⟩ final.toSnapshot =
            (.ok (), same, ⟨taken, none⟩) := by
  intro final snapshots lasts seen shown
  have counted : (SharedStore.ofStore store).store.CountedTo (Store.firstFreeId store.messages) :=
    .ofTight (SharedStore.counterTight_ofMessages opened)
  have resumed : store.messages = messages := Store.messages_ofMessages opened
  have uniqueFinal : (final.messages.map Message.id).Nodup := by
    rcases SharedStore.countedTo_run counted actions with ⟨added, longer, -⟩
    rw [← resumed] at unique lasts
    apply SharedStore.unique_run counted unique longer
    have total : final.messages.length = store.messages.length + added := longer
    omega
  have uniqueAll : ∀ snapshot ∈ snapshots, (snapshot.messages.map Message.id).Nodup := by
    intro snapshot member
    have grown := (SharedStore.grown_of_mem_states (seen.subset member)).2
    exact grown.ids.sublist.nodup uniqueFinal
  have grown : ([] :: snapshots.map Snapshot.messages).Pairwise Message.Grown := by
    refine List.pairwise_cons.mpr ⟨fun later _ => .added later, ?_⟩
    rw [List.pairwise_map]
    exact (SharedStore.pairwise_grown_states _ actions).sublist seen
  have nothing : Shows [] [] := ⟨by simp, fun _ _ => rfl⟩
  rcases renderAll_of_grown (remembers_start palette) nothing grown uniqueAll #[] with
    ⟨rendered, remembers, loading, shows⟩
  refine ⟨?_, shows.each, shows.only, ?_⟩
  · rw [Output.unlimited, rendered]
    simp [shown, snapshots, start]
  · intro taken
    exact render_again remembers uniqueFinal loading taken

/-- A send of which a terminal sees the beginning and the end only. -/
theorem rendered_once_unseen_middle :
    let old := Message.fresh ⟨7⟩ .user "Früher" [] default
    let store : Store := ⟨⟨[old], false⟩, 8, 0⟩
    let actions : List StoreAction :=
      [.beginSend "Na?" [] default, .appendLog ⟨9⟩ "search", .appendContent ⟨9⟩ "Schö",
        .appendLog ⟨9⟩ "read", .appendContent ⟨9⟩ "n!", .dropTicket 0]
    let begun := ((SharedStore.ofStore store).run (actions.take 1)).store.toSnapshot
    let final := ((SharedStore.ofStore store).run actions).store
    let snapshots := [begun, final.toSnapshot]
    let shown := snapshotWriter.run (start .plain) snapshots
    Store.ofMessages? [old] = some store ∧
      snapshots.Sublist ((SharedStore.ofStore store).states actions) ∧
      (start .plain).renderAll .unlimited snapshots =
        (.ok (), shown.1, ⟨(bytes .plain shown.2).toArray, none⟩) ∧
      (∀ message ∈ final.messages, message.ShownBy shown.2) ∧
      bytes .plain shown.2 =
        "You: Früher\nYou: Na?\nOswald: \n  · search\n  · read\nSchön!\n".toUTF8.toList := by
  intro old store actions begun final snapshots shown
  have opened : Store.ofMessages? [old] = some store := by decide
  have seen : snapshots.Sublist ((SharedStore.ofStore store).states actions) := by decide
  rcases rendered_once opened (by decide) .plain actions [begun] (by decide) seen with
    ⟨rendered, each, -⟩
  exact ⟨opened, seen, rendered, each, by decide +kernel⟩

end Terminal

end StreamingChat
