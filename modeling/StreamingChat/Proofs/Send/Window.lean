import StreamingChat.Proofs.Conversation.Lookup
import StreamingChat.Proofs.Send.Course
import StreamingChat.Proofs.Send.Meaning

/-!
# What readers see of a send

A reader may look at the conversation between any two turns. This file says what it finds from the
step in which a send begins to the one that gives up its ticket: the loading flag is up, and the
answer is filled in by the readings of some of the lines, up to one of them. A failure comes after
all of them, note and flag in one step, and before the ticket is given up. The same holds of a send
that is given up while it waits.

What a reader finds is what the effects before its look make of the answer, because nobody else
changes that message. The flag stays up because nobody else has a ticket to give up.
-/

namespace StreamingChat

namespace Effect

variable {store : Store} {target : MessageId} {message : Message}

theorem message?_perform (found : store.message? target = some message) (effect : Effect) :
    (effect.perform target store).message? target = some (effect.amend message) := by
  cases effect with
  | apply event =>
      rw [perform, Store.applyEvent, amend]
      cases event.change? with
      | none => exact found
      | some change =>
          cases change with
          | content piece => exact Store.message?_update_self found rfl
          | log entry => exact Store.message?_update_self found rfl
  | fail note => exact Store.message?_update_self found rfl
  | log entry => exact found
  | release => exact Store.message?_of_prefix found (by simp [perform])

end Effect

namespace Turn

variable {shared : SharedStore} {target : MessageId}

theorem message?_run {first : Message} (found : shared.store.message? target = some first)
    {turns : List Turn} (spared : ∀ action ∈ turns.filterMap action?, action.Spares target) :
    ((machine target).run shared turns).1.store.message? target =
      some ((turns.filterMap effect?).foldl Effect.amend first) := by
  induction turns generalizing shared first with
  | nil => exact found
  | cons turn rest ih =>
      rw [Transducer.run_cons]
      cases turn with
      | own effect => exact ih (Effect.message?_perform found effect) spared
      | other action =>
          have spares : action.Spares target := spared action (List.mem_cons_self ..)
          refine ih (SharedStore.message?_act found spares) fun action member => ?_
          exact spared action (List.mem_cons_of_mem _ member)

/-- Nobody else can begin a send or end this one before it gives up its ticket. -/
theorem loading_run (alone : shared.tickets = []) (busy : shared.store.loading = true)
    {turns : List Turn} (unreleased : .own .release ∉ turns) :
    ((machine target).run shared turns).1.tickets = [] ∧
      ((machine target).run shared turns).1.store.loading = true := by
  induction turns generalizing shared with
  | nil => exact ⟨alone, busy⟩
  | cons turn rest ih =>
      rw [List.mem_cons, not_or] at unreleased
      rw [Transducer.run_cons]
      cases turn with
      | own effect =>
          refine ih alone ?_ unreleased.2
          have held : effect ≠ .release := by
            rintro rfl
            exact unreleased.1 rfl
          have kept := Effect.loading_perform target shared.store effect
          rwa [busy, Bool.true_and, decide_eq_true held] at kept
      | other action =>
          -- Of the others, only who holds a ticket could lower the flag, and nobody does.
          have kept : (shared.act action).2.tickets = [] ∧
              (shared.act action).2.store.loading = true := by
            cases action with
            | appendMessage role content images now => exact ⟨alone, busy⟩
            | appendContent id piece => exact ⟨alone, (Store.loading_update _ _ _).trans busy⟩
            | appendLog id entry => exact ⟨alone, (Store.loading_update _ _ _).trans busy⟩
            | markError id note => exact ⟨alone, (Store.loading_update _ _ _).trans busy⟩
            | beginSend prompt images now =>
                rw [SharedStore.act, Store.beginSend_of_loading busy]
                exact ⟨alone, busy⟩
            | dropTicket place =>
                rw [SharedStore.act, alone]
                exact ⟨alone, busy⟩
          exact ih kept.1 kept.2 unreleased.2

theorem run_of_released (alone : shared.tickets = []) (busy : shared.store.loading = true)
    {turns : List Turn} (unreleased : .own .release ∉ turns) :
    let reached := ((machine target).run shared (turns ++ [.own .release])).1
    reached.tickets = [] ∧ reached.store.loading = false := by
  rw [Transducer.run_append]
  exact ⟨(loading_run alone busy unreleased).1, Store.loading_release _⟩

theorem own_mem_iff {effect : Effect} {turns : List Turn} :
    .own effect ∈ turns ↔ effect ∈ turns.filterMap effect? := by
  rw [List.mem_filterMap]
  constructor
  · intro member
    exact ⟨.own effect, member, rfl⟩
  · rintro ⟨turn, member, same⟩
    cases turn with
    | own found =>
        cases same
        exact member
    | other action => cases same

end Turn

/-- A send that takes in its whole reply notes the failure that its readings leave. -/
theorem Send.note?_of_reports (target : MessageId) (flushes : Bool) (reply : Reply) :
    ((⟨target, flushes, .opening⟩ : Send).takeInAll reply.reports).1.note? =
      (reply.failureAfter? (heard flushes reply.reports)).map SendFailure.note := by
  rw [takeInAll_reports, heard_reports, note?, after, outcome?_close]
  generalize reply.failureAfter? _ = failure?
  cases failure? <;> rfl

namespace Sender

open SharedStore

variable {sender : Sender} {text : String} {images : List Image} {now : SendTimes}
  {send : Send} {request : ChatRequest} {begun : Store}

/-- A reader finds the new answer, unless the counter has wrapped round to an older message. -/
theorem exists_message?_begun (store : Store) (prompt : String) (images : List Image)
    (now : SendTimes) :
    let target : MessageId := ⟨store.nextId + 1⟩
    ∃ first, (store.begun prompt images now).message? target = some first ∧
      ((∀ message ∈ store.messages, message.id ≠ target) →
        first = ⟨target, .assistant, "", [], [], false, now.answer⟩) := by
  intro target
  have present : Message.fresh target .assistant "" [] now.answer ∈
      (store.begun prompt images now).messages := by
    simp [Store.begun, target]
  cases found : (store.begun prompt images now).message? target with
  | none =>
      rw [Snapshot.message?, List.find?_eq_none] at found
      exact absurd (decide_eq_true rfl) (found _ present)
  | some first =>
      refine ⟨first, rfl, fun unused => ?_⟩
      have holds := store.holds_begun unused prompt images now
      have answer := Store.message?_eq_some_iff.mpr ⟨_, _, holds.split, holds.others, rfl⟩
      exact Option.some.inj (found.symm.trans answer)

/-- Whoever looks at a conversation while a send is under way finds the loading flag up, and the
answer filled in by the readings of some of the lines, up to one of them, and by a failure only
after all of them. A send that is given up leaves no failure. The ticket is given up last, whether
the send is over or is given up before, and then the next send may begin. -/
theorem send_observed {messages : List Message} {store : Store}
    (opened : Store.ofMessages? messages = some store) (earlier : List StoreAction)
    (accepted : sender.attempt ((ofStore store).run earlier).store text images now =
      .begun send request begun)
    {reply : Reply} {told : List Http.Report} (partly : told <+: reply.reports)
    {turns : List Turn} (own : turns.filterMap Turn.effect? = send.course told)
    (spared : ∀ action ∈ turns.filterMap Turn.action?, action.Spares send.target) :
    let before := (ofStore store).run earlier
    let counted := LineReading.beforeEnd (Send.heard sender.flushes told)
    let note? := (send.takeInAll told).1.note?
    request = ⟨Text.trimString text, sender.userId⟩ ∧
      begun.messages = before.store.messages ++
        [⟨⟨before.store.nextId⟩, .user, request.prompt, [], images, false, now.prompt⟩,
          ⟨send.target, .assistant, "", [], [], false, now.answer⟩] ∧
      (told ≠ reply.reports → note? = none) ∧
      (told = reply.reports →
        note? = (reply.failureAfter? (Send.heard sender.flushes told)).map SendFailure.note) ∧
      .own .release ∈ turns ∧
      ∃ first, begun.message? send.target = some first ∧
        ((∀ message ∈ before.store.messages, message.id ≠ send.target) →
          first = ⟨send.target, .assistant, "", [], [], false, now.answer⟩) ∧
        ∀ seen rest, turns = seen ++ rest →
          let reached := ((Turn.machine send.target).run (before.withStore begun) seen).1
          let filled := first.filledBy counted
          ∃ message, reached.store.message? send.target = some message ∧
            ((∃ part, part <+: counted ∧ message = first.filledBy part) ∨
              ∃ note, note? = some note ∧
                message = { filled with logs := filled.logs ++ [note], error := true }) ∧
            ((∀ effect, .own effect ∈ rest → effect = .release) →
              (note? = none → message = filled) ∧
                ∀ note, note? = some note →
                  message = { filled with logs := filled.logs ++ [note], error := true }) ∧
            (.own .release ∉ seen → reached.store.loading = true) ∧
            (.own .release ∈ seen → ∀ effect, .own effect ∉ rest) ∧
            (seen.getLast? = some (.own .release) →
              reached.store.loading = false ∧
                ∀ prompt images now, ∃ ticket,
                  (reached.act (.beginSend prompt images now)).1 = .begun ticket) := by
  intro before counted note?
  rcases eq_of_attempt accepted with ⟨prompt, given, idle, rfl, rfl, rfl⟩
  obtain rfl := Send.eq_of_promptOf? given
  have exclusive : before.Exclusive := (exclusive_ofMessages opened).run earlier
  have alone : before.tickets = [] := exclusive.tickets_eq_nil_iff.mpr idle
  rcases Send.course_eq ⟨before.store.nextId + 1⟩ sender.flushes partly with ⟨logged, course⟩
  rw [course] at own
  have released : .own .release ∈ turns := by
    rw [Turn.own_mem_iff, own, Send.closing]
    simp
  refine ⟨rfl, rfl, Send.note?_of_prefix _ _ partly, ?_, released, ?_⟩
  · rintro rfl
    exact Send.note?_of_reports _ _ reply
  rcases exists_message?_begun before.store (Text.trimString text) images now with
    ⟨first, found, fresh⟩
  refine ⟨first, found, fresh, ?_⟩
  intro seen rest split reached
  -- The effects before the look are the first ones of the course, whose order is known.
  rw [split, List.filterMap_append] at own
  rw [split, List.filterMap_append] at spared
  have final : .own .release ∈ seen → ∀ effect, .own effect ∉ rest := by
    intro given effect member
    rw [Turn.own_mem_iff] at given member
    rw [Effect.eq_nil_of_released own given] at member
    cases member
  have sparedSeen : ∀ action ∈ seen.filterMap Turn.action?,
      action.Spares ⟨before.store.nextId + 1⟩ :=
    fun action member => spared action (List.mem_append_left _ member)
  let start := before.withStore (before.store.begun (Text.trimString text) images now)
  have aloneStart : start.tickets = [] := alone
  have busyStart : start.store.loading = true := rfl
  have foundStart : start.store.message? ⟨before.store.nextId + 1⟩ = some first := found
  refine ⟨_, Turn.message?_run foundStart sparedSeen, Effect.foldl_amend_of_prefix own first,
    ?_, ?_, final, ?_⟩
  · intro concluded
    have left := Effect.foldl_amend_of_released own
      (fun effect member => concluded effect (Turn.own_mem_iff.mpr member)) first
    exact ⟨fun none => left.trans (congrArg _ none), fun note noted =>
      left.trans (congrArg _ noted)⟩
  · intro held
    exact (Turn.loading_run aloneStart busyStart held).2
  · intro last
    rcases List.getLast?_eq_some_iff.mp last with ⟨waiting, rfl⟩
    -- The ticket is given up only once, so that the flag is up until this last turn.
    have held : .own .release ∉ waiting := by
      intro early
      rw [List.filterMap_append, List.append_assoc] at own
      cases Effect.eq_nil_of_released own (Turn.own_mem_iff.mp early)
    rcases Turn.run_of_released aloneStart busyStart held with ⟨-, idleAgain⟩
    refine ⟨idleAgain, fun prompt images now => ?_⟩
    rw [SharedStore.act, Store.beginSend_of_idle idleAgain]
    exact ⟨_, rfl⟩

/-- Two sends whose body is cut off within a line. One takes in the whole reply and fails: its note
and its flag are there while the loading flag is still up. The other is given up after both chunks,
and leaves neither. -/
theorem send_observed_failed_and_given_up :
    let line := "data: \x7b\"type\":\"token\",\"content\":\"Ho\"\x7d\n"
    let reply : Reply :=
      .body [line.toUTF8.toList, "data: ".toUTF8.toList] (some (.io "reset"))
    let told := reply.reports.take 3
    let begun := Store.empty.begun "Hi" [] default
    let run := (Turn.machine ⟨2⟩).run (ofStore begun)
    let failing : List Turn :=
      [.own (.apply ⟨.token, "Ho"⟩), .own (.log ⟨.warn, "Response #2 failed: IO error: reset"⟩),
        .own (.fail "IO error: reset")]
    let failed : List Turn := failing ++ [.other (.beginSend "Hm" [] default), .own .release]
    let leaving : List Turn :=
      [.other (.beginSend "Hm" [] default), .own (.apply ⟨.token, "Ho"⟩), .own .release]
    let left : List Turn := leaving ++ [.other (.appendMessage .user "Hey" [] default)]
    Store.ofMessages? [] = some Store.empty ∧
      (⟨"reader", false⟩ : Sender).attempt ((ofStore Store.empty).run []).store "Hi" [] default =
        .begun ⟨⟨2⟩, false, .opening⟩ ⟨"Hi", "reader"⟩ begun ∧
      (reply.reports <+: reply.reports ∧
        failed.filterMap Turn.effect? =
          (⟨⟨2⟩, false, .opening⟩ : Send).course reply.reports ∧
        (∀ action ∈ failed.filterMap Turn.action?, action.Spares ⟨2⟩) ∧
        (run failing).1.store.message? ⟨2⟩ =
          some ⟨⟨2⟩, .assistant, "Ho", ["IO error: reset"], [], true, default⟩ ∧
        (run failing).1.store.loading = true) ∧
      told <+: reply.reports ∧
        left.filterMap Turn.effect? = (⟨⟨2⟩, false, .opening⟩ : Send).course told ∧
        (∀ action ∈ left.filterMap Turn.action?, action.Spares ⟨2⟩) ∧
        (run leaving).1.store.message? ⟨2⟩ =
          some ⟨⟨2⟩, .assistant, "Ho", [], [], false, default⟩ ∧
        (run leaving).1.store.loading = false ∧
        ∃ ticket, ((run leaving).1.act (.beginSend "Hm" [] default)).1 = .begun ticket := by
  intro line reply told begun run failing failed leaving left
  have opened : Store.ofMessages? [] = some Store.empty := rfl
  have accepted : (⟨"reader", false⟩ : Sender).attempt ((ofStore Store.empty).run []).store
      "Hi" [] default = .begun ⟨⟨2⟩, false, .opening⟩ ⟨"Hi", "reader"⟩ begun := by decide +kernel
  have unused : ∀ message ∈ ((ofStore Store.empty).run []).store.messages,
      message.id ≠ ⟨2⟩ := by simp [ofStore, SharedStore.run, Store.empty]
  refine ⟨opened, accepted, ?_, ?_⟩
  · have whole : reply.reports <+: reply.reports := List.prefix_refl _
    have own : failed.filterMap Turn.effect? =
        (⟨⟨2⟩, false, .opening⟩ : Send).course reply.reports := by decide +kernel
    have spared : ∀ action ∈ failed.filterMap Turn.action?, action.Spares ⟨2⟩ := by
      have theirs : failed.filterMap Turn.action? = [.beginSend "Hm" [] default] := rfl
      simp [theirs, StoreAction.Spares]
    rcases send_observed opened [] accepted whole own spared with
      ⟨-, -, -, noted, -, first, -, fresh, observed⟩
    rcases observed failing _ rfl with ⟨message, found, -, finished, busy, -, -⟩
    have note : ((⟨⟨2⟩, false, .opening⟩ : Send).takeInAll reply.reports).1.note? =
        some "IO error: reset" := (noted rfl).trans (by decide +kernel)
    have last := (finished (by simp)).2 _ note
    rw [fresh unused] at last
    exact ⟨whole, own, spared, found.trans (congrArg some (last.trans (by decide +kernel))),
      busy (by simp [failing])⟩
  · have partly : told <+: reply.reports := List.take_prefix 3 reply.reports
    have own : left.filterMap Turn.effect? =
        (⟨⟨2⟩, false, .opening⟩ : Send).course told := by decide +kernel
    have spared : ∀ action ∈ left.filterMap Turn.action?, action.Spares ⟨2⟩ := by
      have theirs : left.filterMap Turn.action? =
          [.beginSend "Hm" [] default, .appendMessage .user "Hey" [] default] := rfl
      simp [theirs, StoreAction.Spares]
    rcases send_observed opened [] accepted partly own spared with
      ⟨-, -, unfailed, -, -, first, -, fresh, observed⟩
    rcases observed leaving _ rfl with ⟨message, found, -, finished, -, -, released⟩
    rcases released rfl with ⟨idle, next⟩
    have early : told ≠ reply.reports := by
      intro whole
      have lengths : 3 = 4 := congrArg List.length whole
      cases lengths
    have last := (finished (by simp)).1 (unfailed early)
    rw [fresh unused] at last
    exact ⟨partly, own, spared, found.trans (congrArg some (last.trans (by decide +kernel))),
      idle, next "Hm" [] default⟩

end Sender

end StreamingChat
