import StreamingChat.Proofs.Conversation.Loading
import StreamingChat.Proofs.Json.Spelling
import StreamingChat.Proofs.Sequence
import StreamingChat.Proofs.Session.Loop

/-!
# Whole sessions

A session is made of the settings, the images and the conversation that its options and surroundings
name. If it is opened for several prompts, it shows the conversation and serves the prompts of its
input: the lines, trimmed, before the first one that says farewell. Each of them that is not blank
is asked of the server in a request of its own. Nothing is assumed of the server. What the file of
the conversation holds in the end can be resumed as it is.
-/

namespace StreamingChat

open StreamingChat.Action

namespace Options

variable {options : Options} {surroundings : Surroundings} {palette : Palette}
  {files : String → FileState} {session : Session}

/-- Whether a conversation is the one that the options name: an empty one if there is no file of it,
or else that of the transcript in the file. -/
inductive Resumes (options : Options) (files : String → FileState) : Store → Prop where
  | unnamed (nothing : options.transcript = none) : Resumes options files Store.empty
  | missing {path : String} (named : options.transcript = some path)
      (nothing : (files path).exists = false) : Resumes options files Store.empty
  | saved {path text : String} {store : Store} (named : options.transcript = some path)
      (given : (files path).text = .ok text)
      (accepted : Transcript.read text = .ok ⟨store.messages⟩)
      (resumed : Store.ofMessages? store.messages = some store) : Resumes options files store

theorem resumes_of_store {store : Store} (loaded : options.store files = .ok store) :
    options.Resumes files store := by
  rw [Options.store] at loaded
  split at loaded
  · rename_i nothing
    cases loaded
    exact .unnamed nothing
  · rename_i path named
    split at loaded
    · rename_i found
      cases loaded
      rcases Transcript.eq_of_load found with ⟨nothing, rfl⟩ | ⟨text, given, accepted, resumed⟩
      · exact .missing named nothing
      · exact .saved named given accepted resumed
    · cases loaded
    · cases loaded

theorem Resumes.exists_ofMessages {store : Store} (resumes : options.Resumes files store) :
    ∃ messages, Store.ofMessages? messages = some store := by
  cases resumes with
  | unnamed nothing => exact ⟨[], rfl⟩
  | missing named nothing => exact ⟨[], rfl⟩
  | saved named given accepted resumed => exact ⟨_, resumed⟩

/-- What a session for some options is made of: the settings after all layers, the images in the
named files and the conversation to go on with. -/
structure Prepared (options : Options) (surroundings : Surroundings)
    (files : String → FileState) (session : Session) : Prop where
  settings : ∃ settings, options.settings surroundings files = .ok settings ∧
    session.sender = ⟨settings.userId, settings.flushesPartialLine⟩ ∧
    settings.endpoint = .ok session.endpoint ∧
    session.network =
      ⟨some settings.connectTimeout, Http.Proxies.ofEnvironment surroundings.environment⟩
  images : List.Forall₂
    (fun path image => ∃ bytes, files path = .content bytes ∧
      image = ⟨Image.mediaTypeOf path, Text.Base64.encode bytes⟩)
    options.images session.images
  transcript : session.transcript = options.transcript
  resumes : options.Resumes files session.store

theorem content_of_ofFile {path : String} {file : FileState} {image : Image}
    (read : Image.ofFile path file = .ok image) :
    ∃ bytes, file = .content bytes ∧
      image = ⟨Image.mediaTypeOf path, Text.Base64.encode bytes⟩ := by
  cases file with
  | content bytes =>
      cases read
      exact ⟨bytes, rfl, rfl⟩
  | missing => cases read
  | throughFile => cases read
  | nameTooLong => cases read
  | unnameable => cases read
  | directory => cases read
  | unreadable reason => cases read

/-- What a session is before it has done anything. -/
theorem prepared_of_prepare (made : options.prepare surroundings palette files = .ok session) :
    options.Prepared surroundings files session ∧ session.phase = .prompting ∧
      session.single = options.prompt.isSome ∧ session.terminal = Terminal.start palette := by
  rcases exists_of_bind made with ⟨settings, configured, made⟩
  rcases exists_of_bind made with ⟨store, loaded, made⟩
  rcases exists_of_bind made with ⟨endpoint, addressed, made⟩
  rcases exists_of_bind made with ⟨images, attached, made⟩
  cases made
  refine ⟨⟨⟨settings, ok_of_mapError configured, rfl, ok_of_mapError addressed, rfl⟩, ?_, rfl,
    resumes_of_store loaded⟩, rfl, rfl, rfl⟩
  exact (forall₂_of_mapM (ok_of_mapError attached)).imp fun _ _ => content_of_ofFile

/-- A session for several prompts is ready for the first one before anything has been shown. -/
theorem ready_of_prepare (made : options.prepare surroundings palette files = .ok session)
    (several : options.prompt = none)
    (unique : (session.store.messages.map Message.id).Nodup) :
    session.Ready session.store.nextId.toNat := by
  rcases prepared_of_prepare made with ⟨prepared, phase, single, terminal⟩
  rcases prepared.resumes.exists_ofMessages with ⟨messages, resumed⟩
  have ahead := (SharedStore.counterTight_ofMessages resumed).ahead
  have idle := (SharedStore.exclusive_ofMessages resumed).tickets_eq_nil_iff.mp rfl
  refine ⟨phase, ?_, idle, ahead.numbered unique, unique, [], ?_, .added _⟩
  · rw [single, several]
    rfl
  · rw [terminal]
    exact Terminal.remembers_start palette

/-- Opening a session for several prompts shows the conversation and asks for the first one. -/
theorem openSession_eq (made : options.prepare surroundings palette files = .ok session)
    (several : options.prompt = none) (ready : session.Ready session.store.nextId.toNat)
    (now : SendTimes) :
    ∃ terminal shown, terminal.Follows session.store.messages ∧ deeds shown = [] ∧
      options.openSession surroundings palette files now =
        .ok ({ session with terminal }, shown) := by
  have goesOn : session.phase ≠ .over := by simp [ready.phase]
  rcases Session.andThen_render ready.follows goesOn with ⟨terminal, follows, rest⟩
  rcases rest Session.ask with ⟨asked, shown⟩
  refine ⟨terminal, (Session.andThen session.render Session.ask).2, follows, shown, ?_⟩
  have waits : ({ session with terminal, phase := .prompting } : Session) =
      { session with terminal } := by
    rw [← ready.phase]
  have opened : (Session.andThen session.render Session.ask).1 = { session with terminal } :=
    asked.trans waits
  rw [openSession, made, several, ← opened]
  rfl

end Options

namespace Session

/-- What is shown before the first prompt makes no difference. -/
theorem Served.after_opening {session : Session} {terminal : Terminal}
    {prompts : List (String × Round)} {result : Session × List Action} {shown : List Action}
    (later : Served { session with terminal } prompts result) (nothing : deeds shown = []) :
    Served session prompts (result.1, shown ++ result.2) where
  isOver := later.isOver
  messages := later.messages
  requests := by
    rw [List.filterMap_append, ← requests_deeds shown, nothing]
    exact later.requests
  saved := by
    rw [List.filterMap_append, ← saved_deeds shown, nothing]
    exact later.saved
  quiet := later.quiet_append fun _ => notMem_of_deeds_eq_nil nothing rfl
  ending := later.ending_append fun _ => notMem_of_deeds_eq_nil nothing rfl

/-- Each round begins with a prompt of the text that is typed. -/
theorem read_of_typed {text : String} {rounds : List Round}
    (typed : rounds.map Round.line = Text.byteLines text.toUTF8.toList) :
    List.Forall₂ (fun prompt (round : Round) => Prompt.ofLine round.line = .ok prompt)
      ((Text.linesOf true text.toList).map Text.trimString) rounds := by
  have equal : ((Text.linesOf true text.toList).map Text.trimString).map .ok =
      rounds.map fun round => Prompt.ofLine round.line := by
    rw [← Prompt.map_ofLine_byteLines, ← typed, List.map_map]
    rfl
  rw [← List.forall₂_eq_eq_eq, List.forall₂_map_left_iff, List.forall₂_map_right_iff] at equal
  exact equal.imp fun _ _ same => same.symm

/-- Whether a request asks the server of a session to answer a prompt. -/
structure Asks (session : Session) (prompt : String) (request : Http.Request) : Prop where
  method : request.method = .post
  url : request.url = Http.withoutCredentials session.endpoint
  body : ∃ body, request.body = some body ∧
    Json.Spells (.object [("prompt", .string prompt), ("user_id", .string session.sender.userId)])
      body.toList []
  credentials : request.credentials = Http.Request.credentialsOf session.endpoint
  referer : request.referer = none
  proxy : request.proxy = session.network.proxies.for? (Http.withoutCredentials session.endpoint)

theorem asks_routed (session : Session) (prompt : String) :
    session.Asks prompt (Http.Exchange.routed (session.request prompt) session.network) where
  method := rfl
  url := rfl
  body := by
    let value : Json.Value :=
      .object [("prompt", .string prompt), ("user_id", .string session.sender.userId)]
    have spelled : Json.Spells value (value.compactChars ++ []) [] :=
      Json.Value.spells_compactChars value trivial
    refine ⟨_, rfl, ?_⟩
    rw [ChatRequest.body, Json.Value.compact, String.toList_ofList]
    rwa [List.append_nil] at spelled
  credentials := rfl
  referer := rfl
  proxy := rfl

/-- A session serves the prompts of its input. Whatever the server does about each of them, the
conversation that has been resumed grows by each prompt that is not blank and the reply to it, with
the images in the named files on the first one, and nothing is rejected. What goes out for a prompt
is a request that asks for its answer, and further ones only where responses send elsewhere; at an
address where no request can be sent, each prompt fails. The file of the conversation, if it has one
and there was a prompt at all, holds exactly the conversation in the end. -/
theorem serves_typed {options : Options} {surroundings : Surroundings} {palette : Palette}
    {files : String → FileState} {session : Session}
    (made : options.prepare surroundings palette files = .ok session)
    (several : options.prompt = none) (unique : (session.store.messages.map Message.id).Nodup)
    {text : String} {rounds : List Round}
    (typed : rounds.map Round.line = Text.byteLines text.toUTF8.toList)
    (opening closing : SendTimes) :
    let lines := (Text.linesOf true text.toList).map Text.trimString
    let prompts := (lines.takeWhile fun line => line ≠ "/quit" ∧ line ≠ "/exit").zip rounds
    session.store.nextId.toNat + 2 * (sent prompts).length ≤ UInt64.size →
      options.Prepared surroundings files session ∧
      ∃ opened shown, options.openSession surroundings palette files opening =
          .ok (opened, shown) ∧
        let run := machine.run opened (inputsOf rounds closing)
        let opens :=
          Http.Exchange.Opens (Http.withoutCredentials session.endpoint) session.network
        Served session prompts (run.1, shown ++ run.2) ∧
        (∀ entry ∈ sent prompts,
          (opens → ∃ request later last, session.Asks entry.1 request ∧
            session.course entry.1 entry.2 = .connect request :: later ∧
            Http.Exchange.Redirected session.network request
              (later.filterMap Http.Report.request?) last) ∧
          (¬ opens → ∃ failure,
            session.course entry.1 entry.2 = [.answered (.error failure)])) ∧
        ∀ path, options.transcript = some path → prompts ≠ [] →
          ∃ kept, ((shown ++ run.2).filterMap saved?).getLast? = some (path, kept) ∧
            Transcript.read kept = .ok ⟨run.1.store.messages⟩ := by
  intro lines prompts room
  have prepared := (Options.prepared_of_prepare made).1
  have ready := Options.ready_of_prepare made several unique
  rcases Options.openSession_eq made several ready opening with
    ⟨terminal, shown, follows, nothing, opened⟩
  have readyNow : ({ session with terminal } : Session).Ready session.store.nextId.toNat :=
    ⟨ready.phase, ready.several, ready.idle, ready.numbered, follows⟩
  have sameTest : goesOn = fun line => decide (line ≠ "/quit" ∧ line ≠ "/exit") := by
    funext line
    simp [goesOn, isFarewell]
  have served := served_rounds readyNow (read_of_typed typed) closing (by rw [sameTest]; exact room)
  rw [sameTest] at served
  have whole := served.after_opening nothing
  refine ⟨prepared, _, shown, opened, whole, ?_, ?_⟩
  · intro entry _
    have sameUrl : (session.request entry.1).url = Http.withoutCredentials session.endpoint := rfl
    rw [← sameUrl]
    constructor
    · intro opens
      rcases Http.Exchange.course_of_opens opens entry.2.batches with
        ⟨later, last, course, redirected⟩
      exact ⟨_, later, last, session.asks_routed entry.1, course, redirected⟩
    · intro closed
      exact Http.Exchange.course_of_not_opens closed entry.2.batches
  · intro path named someone
    have transcript : session.transcript = some path := prepared.transcript.trans named
    refine ⟨_, ?_, Transcript.read_write _⟩
    rw [whole.saved, if_neg someone, transcript]
    rfl

/-- Two prompts, a blank line and a farewell, after a conversation with one message. The first
prompt goes with an image and is answered, and the connection for the second one breaks. -/
theorem serves_typed_farewell :
    let options : Options :=
      { CommandLine.start with transcript := some "chat.json", images := ["cat.png"] }
    let surroundings : Surroundings := ⟨⟨[]⟩, "/home/ada"⟩
    let saved := "\x7b\"messages\":[\x7b\"id\":7,\"role\":\"user\",\"content\":\"Hey\"," ++
      "\"created_at\":\"2024-01-01T00:00:00Z\"\x7d]\x7d"
    let files : String → FileState := fun path =>
      if path = "chat.json" then .content saved.toUTF8.toList
      else if path = "cat.png" then .content [0x89, 0x50, 0x4E, 0x47]
      else .missing
    let text := " Hi \n\nHo\r\n/quit\nNo"
    let response : List Http.NetworkEvent :=
      [.received "HTTP/1.1 200 OK\r\n\r\ndata: \x7b\"type\":\"token\",".toUTF8.toList,
        .received "\"content\":\"Yo\"\x7d\ndata: [DONE]\n".toUTF8.toList]
    let rounds : List Round :=
      [⟨" Hi \n".toUTF8.toList, default, [response]⟩, ⟨"\n".toUTF8.toList, default, []⟩,
        ⟨"Ho\r\n".toUTF8.toList, default, [[.failed "reset"]]⟩,
        ⟨"/quit\n".toUTF8.toList, default, []⟩, ⟨"No".toUTF8.toList, default, []⟩]
    let place := "http://localhost:8000/api/v1/chat/send"
    let told (message : Message) :=
      (message.id.value, message.content, message.images, message.error)
    let asked (request : Http.Request) := (request.method, request.url.render, request.body)
    ∃ session opened shown,
      options.prepare surroundings .plain files = .ok session ∧
        (session.store.messages.map Message.id).Nodup ∧
        rounds.map Round.line = Text.byteLines text.toUTF8.toList ∧
        options.openSession surroundings .plain files default = .ok (opened, shown) ∧
        let run := machine.run opened (inputsOf rounds default)
        run.1.store.messages.map told =
          [(7, "Hey", [], false), (8, "Hi", [⟨"image/png", "iVBORw=="⟩], false),
            (9, "Yo", [], false), (10, "Ho", [], false), (11, "", [], true)] ∧
        ((shown ++ run.2).filterMap request?).map asked =
          [(.post, place, some "\x7b\"prompt\":\"Hi\",\"user_id\":\"anonymous\"\x7d"),
            (.post, place, some "\x7b\"prompt\":\"Ho\",\"user_id\":\"anonymous\"\x7d")] := by
  intro options surroundings saved files text response rounds place told asked
  have taken : (((Text.linesOf true text.toList).map Text.trimString).takeWhile fun line =>
      line ≠ "/quit" ∧ line ≠ "/exit") = ["Hi", "", "Ho"] := by decide +kernel
  have typed : rounds.map Round.line = Text.byteLines text.toUTF8.toList := by decide +kernel
  have resumed : (options.prepare surroundings .plain files).toOption.map
      (fun session => (session.store.messages.map Message.id, session.store.nextId)) =
        some ([⟨7⟩], 8) := by decide +kernel
  have messages : (options.prepare surroundings .plain files).toOption.map
      (fun session =>
        (session.store.messages ++ pairs session.sender.flushes session.reply
          session.store.nextId session.images (sent (["Hi", "", "Ho"].zip rounds))).map told) =
      some [(7, "Hey", [], false), (8, "Hi", [⟨"image/png", "iVBORw=="⟩], false),
        (9, "Yo", [], false), (10, "Ho", [], false), (11, "", [], true)] := by decide +kernel
  have requests : (options.prepare surroundings .plain files).toOption.map
      (fun session =>
        ((sent (["Hi", "", "Ho"].zip rounds)).flatMap fun entry =>
          (session.course entry.1 entry.2).filterMap Http.Report.request?).map asked) =
      some [(.post, place, some "\x7b\"prompt\":\"Hi\",\"user_id\":\"anonymous\"\x7d"),
        (.post, place, some "\x7b\"prompt\":\"Ho\",\"user_id\":\"anonymous\"\x7d")] := by
    decide +kernel
  cases made : options.prepare surroundings .plain files with
  | error ending =>
      rw [made] at resumed
      cases resumed
  | ok session =>
      rw [made] at resumed messages requests
      have ids := congrArg Prod.fst (Option.some.inj resumed)
      have nextId := congrArg Prod.snd (Option.some.inj resumed)
      have unique : (session.store.messages.map Message.id).Nodup := by
        rw [show session.store.messages.map Message.id = [⟨7⟩] from ids]
        exact List.nodup_singleton _
      have serves := serves_typed made rfl unique typed default default
      clear_value rounds text
      dsimp only at serves
      rw [taken] at serves
      have room : session.store.nextId.toNat +
          2 * (sent (["Hi", "", "Ho"].zip rounds)).length ≤ UInt64.size := by
        have few : (sent (["Hi", "", "Ho"].zip rounds)).length ≤ 3 := by
          have sentFewer := List.length_filter_le (fun entry : String × Round => entry.1 ≠ "")
            (["Hi", "", "Ho"].zip rounds)
          rw [List.length_zip] at sentFewer
          exact sentFewer.trans (Nat.min_le_left 3 rounds.length)
        have first : session.store.nextId.toNat = 8 := congrArg UInt64.toNat nextId
        have size : 14 ≤ UInt64.size := by decide
        omega
      rcases serves room with ⟨-, opened, shown, started, served, -⟩
      refine ⟨session, opened, shown, rfl, unique, typed, started, ?_, ?_⟩
      · rw [served.messages]
        exact Option.some.inj messages
      · rw [served.requests]
        exact Option.some.inj requests

end Session

end StreamingChat
