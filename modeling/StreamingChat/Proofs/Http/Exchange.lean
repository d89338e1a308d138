import StreamingChat.Send.Reply

/-!
# What an exchange reports

An exchange waits for its answer, perhaps over several connections, then streams a body, and is over
after the report that ends it. `Told` relates where an exchange stands before and after some
reports. Every step of an exchange keeps to it, so that the reports of an exchange that is over are
those of a `Reply` with the requests for connections before it. However an exchange goes, it is over
when its connection has been closed. `Redirected` relates the requests themselves: the first one is
the one that the exchange begins with, if it can be sent at all, and responses have asked for all
others.
-/

namespace StreamingChat.Http

/-- Where an exchange stands. -/
inductive Stage where
  | waiting
  | streaming
  | over
  deriving DecidableEq, Repr

def ExchangePhase.stage : ExchangePhase → Stage
  | .head _ => .waiting
  | .refusal _ _ _ _ => .waiting
  | .body _ => .streaming
  | .over => .over

/-- How some reports lead from one stage to another. -/
inductive Told : Stage → List Report → Stage → Prop where
  | nil (stage : Stage) : Told stage [] stage
  | connect {reports : List Report} {final : Stage} (request : Request)
      (rest : Told .waiting reports final) : Told .waiting (.connect request :: reports) final
  | refused {reports : List Report} {final : Stage} (failure : SendFailure)
      (rest : Told .over reports final) :
      Told .waiting (.answered (.error failure) :: reports) final
  | empty {reports : List Report} {final : Stage} (rest : Told .over reports final) :
      Told .waiting (.answered (.ok false) :: reports) final
  | opened {reports : List Report} {final : Stage} (rest : Told .streaming reports final) :
      Told .waiting (.answered (.ok true) :: reports) final
  | chunk {reports : List Report} {final : Stage} (bytes : List UInt8)
      (rest : Told .streaming reports final) :
      Told .streaming (.arrived (.chunk bytes) :: reports) final
  | broken {reports : List Report} {final : Stage} (failure : SendFailure)
      (rest : Told .over reports final) :
      Told .streaming (.arrived (.broken failure) :: reports) final
  | ended {reports : List Report} {final : Stage} (rest : Told .over reports final) :
      Told .streaming (.arrived .ended :: reports) final

namespace Told

variable {start middle final : Stage} {reports later : List Report}

theorem append (first : Told start reports middle) (second : Told middle later final) :
    Told start (reports ++ later) final := by
  induction first with
  | nil stage => exact second
  | connect request rest ih => exact .connect request (ih second)
  | refused failure rest ih => exact .refused failure (ih second)
  | empty rest ih => exact .empty (ih second)
  | opened rest ih => exact .opened (ih second)
  | chunk bytes rest ih => exact .chunk bytes (ih second)
  | broken failure rest ih => exact .broken failure (ih second)
  | ended rest ih => exact .ended (ih second)

theorem eq_nil_of_over (told : Told .over reports final) : reports = [] := by
  cases told
  rfl

/-- An exchange that still waits has asked for connections only. -/
theorem connects_of_waiting (told : Told start reports final) (waits : final = .waiting) :
    start = .waiting ∧ ∀ report ∈ reports, ∃ request, report = .connect request := by
  induction told with
  | nil stage => exact ⟨waits, by simp⟩
  | connect request rest ih =>
      refine ⟨rfl, ?_⟩
      intro report member
      rcases List.mem_cons.mp member with rfl | later
      · exact ⟨request, rfl⟩
      · exact (ih waits).2 report later
  | refused failure rest ih => cases (ih waits).1
  | empty rest ih => cases (ih waits).1
  | opened rest ih => cases (ih waits).1
  | chunk bytes rest ih => cases (ih waits).1
  | broken failure rest ih => cases (ih waits).1
  | ended rest ih => cases (ih waits).1

/-- Once it has been answered, an exchange asks for no more connections. -/
theorem requests_eq_nil (told : Told start reports final) (answered : start ≠ .waiting) :
    reports.filterMap Report.request? = [] := by
  induction told with
  | nil stage => rfl
  | connect request rest ih => exact absurd rfl answered
  | refused failure rest ih => exact absurd rfl answered
  | empty rest ih => exact absurd rfl answered
  | opened rest ih => exact absurd rfl answered
  | chunk bytes rest ih => exact ih (by simp)
  | broken failure rest ih => exact ih (by simp)
  | ended rest ih => exact ih (by simp)

end Told

namespace Exchange

/-! ## The requests of an exchange -/

/-- A request as an exchange sends it: through the proxy for its URL. -/
def routed (request : Request) (network : Network) : Request :=
  { request with proxy := network.proxies.for? request.url }

/-- How one request leads to the last of several others, each of which a response to the one before
it has asked for. -/
inductive Redirected (network : Network) : Request → List Request → Request → Prop where
  | nil (request : Request) : Redirected network request [] request
  | cons {previous request last : Request} {later : List Request} {head : Head}
      (asked : previous.redirected? head = some request)
      (rest : Redirected network (routed request network) later last) :
      Redirected network previous (routed request network :: later) last

theorem Redirected.append {network : Network} {first middle last : Request}
    {requests later : List Request} (before : Redirected network first requests middle)
    (after : Redirected network middle later last) :
    Redirected network first (requests ++ later) last := by
  induction before with
  | nil request => exact after
  | cons asked rest ih => exact .cons asked (ih after)

/-! ## Steps of an exchange -/

/-- Whether what comes of a step leads on from a stage. -/
def Leads (stage : Stage) (next : Exchange × List Report) : Prop :=
  Told stage next.2 next.1.phase.stage

/-- Whether what comes of a step goes on from an exchange at a stage: the reports lead on from
there, and responses have asked for the requests among them. -/
structure GoesOn (exchange : Exchange) (stage : Stage) (next : Exchange × List Report) : Prop where
  leads : Leads stage next
  network : next.1.network = exchange.network
  redirected : Redirected exchange.network exchange.request (next.2.filterMap Report.request?)
    next.1.request

theorem GoesOn.append {exchange : Exchange} {stage : Stage} {first later : Exchange × List Report}
    (before : exchange.GoesOn stage first) (after : first.1.GoesOn first.1.phase.stage later) :
    exchange.GoesOn stage (later.1, first.2 ++ later.2) where
  leads := Told.append before.leads after.leads
  network := after.network.trans before.network
  redirected := by
    rw [List.filterMap_append]
    exact before.redirected.append (before.network ▸ after.redirected)

/-- A body that begins to stream opens with the answer of the server. -/
theorem GoesOn.opened {exchange : Exchange} {next : Exchange × List Report}
    (streams : exchange.GoesOn .streaming next) :
    exchange.GoesOn .waiting (next.1, .answered (.ok true) :: next.2) where
  leads := .opened streams.leads
  network := streams.network
  redirected := streams.redirected

variable (exchange : Exchange)

/-- A step without requests. -/
theorem goesOn_of_told {stage : Stage} {phase : ExchangePhase} {reports : List Report}
    (told : Told stage reports phase.stage) (quiet : reports.filterMap Report.request? = []) :
    exchange.GoesOn stage ({ exchange with phase }, reports) where
  leads := told
  network := rfl
  redirected := quiet ▸ .nil _

theorem goesOn_nil : exchange.GoesOn exchange.phase.stage (exchange, []) :=
  exchange.goesOn_of_told (.nil _) rfl

theorem goesOn_refuse (failure : SendFailure) :
    exchange.GoesOn .waiting (exchange.refuse failure) :=
  exchange.goesOn_of_told (.refused failure (.nil _)) rfl

theorem goesOn_fail (reason : String) : exchange.GoesOn .waiting (exchange.fail reason) :=
  exchange.goesOn_refuse _

theorem goesOn_follow {request : Request} {head : Head}
    (asked : exchange.request.redirected? head = some request) :
    exchange.GoesOn .waiting (exchange.follow request) := by
  rw [follow]
  split
  · exact exchange.goesOn_fail _
  split
  · exact exchange.goesOn_refuse _
  · exact ⟨.connect _ (.nil _), rfl, .cons asked (.nil _)⟩

theorem goesOn_readBody (body : BodyState) (bytes : List UInt8) :
    exchange.GoesOn .streaming (exchange.readBody body bytes) := by
  have told (data : List UInt8) :
      Told .streaming (if data.isEmpty then [] else [.arrived (.chunk data)]) .streaming := by
    split
    · exact .nil _
    · exact .chunk data (.nil _)
  have goesOn {phase : ExchangePhase} {reports : List Report}
      (streamed : Told .streaming reports phase.stage) :
      exchange.GoesOn .streaming ({ exchange with phase }, reports) :=
    exchange.goesOn_of_told streamed (streamed.requests_eq_nil (by simp))
  rw [readBody]
  generalize bodyReader.run body bytes = read
  rcases read with ⟨state, data⟩
  cases state with
  | complete => exact goesOn ((told data).append (.ended (.nil _)))
  | broken => exact goesOn ((told data).append (.broken _ (.nil _)))
  | counted missing => exact goesOn (told data)
  | chunked chunking => exact goesOn (told data)
  | untilClose => exact goesOn (told data)

theorem goesOn_readRefusal (status : Nat) (charset : Text.Charset) (body : BodyState)
    (received : Array UInt8) (bytes : List UInt8) :
    exchange.GoesOn .waiting (exchange.readRefusal status charset body received bytes) := by
  rw [readRefusal]
  generalize bodyReader.run body bytes = read
  rcases read with ⟨state, data⟩
  cases state with
  | complete => exact exchange.goesOn_refuse _
  | broken => exact exchange.goesOn_refuse _
  | counted missing => exact exchange.goesOn_of_told (.nil _) rfl
  | chunked chunking => exact exchange.goesOn_of_told (.nil _) rfl
  | untilClose => exact exchange.goesOn_of_told (.nil _) rfl

theorem goesOn_readResponse (head : Head) (rest : List UInt8) :
    exchange.GoesOn .waiting (exchange.readResponse head rest) := by
  rw [readResponse]
  split
  · exact exchange.goesOn_fail _
  split
  · rename_i asked
    exact exchange.goesOn_follow asked
  split
  · exact exchange.goesOn_readRefusal _ _ _ _ _
  split
  · exact exchange.goesOn_of_told (.empty (.nil _)) rfl
  · exact (exchange.goesOn_readBody _ rest).opened

theorem goesOn_readHead (fuel : Nat) (bytes : List UInt8) :
    exchange.GoesOn .waiting (exchange.readHead fuel bytes) := by
  induction fuel generalizing bytes with
  | zero => exact exchange.goesOn_fail _
  | succ fuel ih =>
      rw [readHead]
      split
      · exact exchange.goesOn_of_told (.nil _) rfl
      · exact exchange.goesOn_fail _
      · split
        · exact ih _
        · exact exchange.goesOn_readResponse _ _

/-- Whatever happens on the connection, an exchange goes on from where it stands. -/
theorem goesOn_receive (event : NetworkEvent) :
    exchange.GoesOn exchange.phase.stage (exchange.receive event) := by
  rw [receive]
  cases stands : exchange.phase with
  | «over» =>
      have nothing := exchange.goesOn_nil
      rwa [stands] at nothing
  | head received =>
      cases event with
      | failed reason => exact exchange.goesOn_fail _
      | received bytes => exact exchange.goesOn_readHead _ _
      | closed => exact exchange.goesOn_fail _
  | refusal status charset body received =>
      cases event with
      | failed reason => exact exchange.goesOn_refuse _
      | received bytes => exact exchange.goesOn_readRefusal _ _ _ _ _
      | closed => exact exchange.goesOn_refuse _
  | body body =>
      cases event with
      | failed reason => exact exchange.goesOn_of_told (.broken _ (.nil _)) rfl
      | received bytes => exact exchange.goesOn_readBody _ _
      | closed => exact exchange.goesOn_readBody _ _

theorem stage_receive_closed : (exchange.receive .closed).1.phase.stage = .over := by
  rw [receive]
  cases stands : exchange.phase with
  | «over» => simp [stands, ExchangePhase.stage]
  | head received => rfl
  | refusal status charset body received => rfl
  | body body => cases body <;> rfl

/-! ## Batches of events -/

/-- Takes in events on one connection. What comes after a request for a new one is not told. -/
def receiveAll (exchange : Exchange) : List NetworkEvent → Exchange × List Report
  | [] => (exchange, [])
  | event :: rest =>
      let first := exchange.receive event
      if (first.2.filterMap Report.request?).isEmpty then
        let later := first.1.receiveAll rest
        (later.1, first.2 ++ later.2)
      else first

def machine : Transducer Exchange (List NetworkEvent) Report := ⟨receiveAll⟩

theorem goesOn_receiveAll (events : List NetworkEvent) :
    exchange.GoesOn exchange.phase.stage (exchange.receiveAll events) := by
  induction events generalizing exchange with
  | nil => exact exchange.goesOn_nil
  | cons event rest ih =>
      rw [receiveAll]
      dsimp only
      split
      · exact (exchange.goesOn_receive event).append (ih _)
      · exact exchange.goesOn_receive event

theorem goesOn_run_machine (batches : List (List NetworkEvent)) :
    exchange.GoesOn exchange.phase.stage (machine.run exchange batches) := by
  induction batches generalizing exchange with
  | nil =>
      rw [Transducer.run_nil]
      exact exchange.goesOn_nil
  | cons events rest ih =>
      rw [Transducer.run_cons]
      exact (exchange.goesOn_receiveAll events).append (ih _)

/-! ## Whole exchanges -/

/-- What must hold for a request to be sent to a place. -/
def Opens (url : Url) (network : Network) : Prop :=
  (url.scheme = "http" ∨ url.scheme = "https") ∧ isAddressable url = true ∧
    network.patience ≠ some 0

/-- An exchange begins with its request. -/
theorem start_of_opens {request : Request} {network : Network}
    (opens : Opens request.url network) :
    start request network =
      (⟨routed request network, 1, network, .head #[]⟩, [.connect (routed request network)]) := by
  rcases opens with ⟨scheme, addressable, patient⟩
  rw [start, if_neg (not_not_intro scheme), addressable, Bool.not_true, if_neg Bool.false_ne_true,
    if_neg patient]
  rfl

/-- A request that cannot be sent fails at once. -/
theorem start_of_not_opens {request : Request} {network : Network}
    (closed : ¬ Opens request.url network) :
    ∃ failure, start request network =
      (⟨request, 1, network, .over⟩, [.answered (.error failure)]) := by
  rw [start]
  split
  · exact ⟨_, rfl⟩
  rename_i scheme
  split
  · exact ⟨_, rfl⟩
  rename_i addressable
  split
  · exact ⟨_, rfl⟩
  rename_i patient
  exact absurd ⟨Decidable.not_not.mp scheme, by simpa using addressable, patient⟩ closed

theorem leads_start (request : Request) (network : Network) :
    Leads .waiting (start request network) := by
  by_cases opens : Opens request.url network
  · rw [start_of_opens opens]
    exact .connect _ (.nil _)
  · rcases start_of_not_opens opens with ⟨failure, started⟩
    rw [started]
    exact .refused failure (.nil _)

/-- All that is reported of a request when the connection is closed after some batches of events. -/
def course (request : Request) (network : Network) (batches : List (List NetworkEvent)) :
    List Report :=
  let first := start request network
  first.2 ++ (machine.run first.1 (batches ++ [[.closed]])).2

/-- A request comes to an end, however its exchange goes. -/
theorem told_course (request : Request) (network : Network) (batches : List (List NetworkEvent)) :
    Told .waiting (course request network batches) .over := by
  have first := leads_start request network
  have later := (goesOn_run_machine (start request network).1 (batches ++ [[.closed]])).leads
  have closed : (machine.run (start request network).1 (batches ++ [[.closed]])).1.phase.stage =
      .over := by
    rw [Transducer.run_append]
    -- Wherever the batches have led, the end of the connection is the end of the exchange.
    generalize (machine.run (start request network).1 batches).1 = last
    have ended := stage_receive_closed last
    have step : (machine.run last [[.closed]]).1 = (last.receive .closed).1 := by
      rw [Transducer.run_cons, Transducer.run_nil]
      simp only [machine, receiveAll]
      split <;> rfl
    rw [step, ended]
  rw [Leads, closed] at later
  exact first.append later

/-- What is reported of a request that can be sent begins with the request itself. All others that
follow are redirections. -/
theorem course_of_opens {request : Request} {network : Network}
    (opens : Opens request.url network) (batches : List (List NetworkEvent)) :
    ∃ later last, course request network batches = .connect (routed request network) :: later ∧
      Redirected network (routed request network) (later.filterMap Report.request?) last := by
  have goesOn := goesOn_run_machine ⟨routed request network, 1, network, .head #[]⟩
    (batches ++ [[.closed]])
  rw [course, start_of_opens opens]
  exact ⟨_, _, rfl, goesOn.redirected⟩

/-- Nothing but its failure is reported of a request that cannot be sent. -/
theorem course_of_not_opens {request : Request} {network : Network}
    (closed : ¬ Opens request.url network) (batches : List (List NetworkEvent)) :
    ∃ failure, course request network batches = [.answered (.error failure)] := by
  rcases start_of_not_opens closed with ⟨failure, started⟩
  have later := (goesOn_run_machine ⟨request, 1, network, .over⟩ (batches ++ [[.closed]])).leads
  refine ⟨failure, ?_⟩
  rw [course, started]
  exact congrArg _ later.eq_nil_of_over

end Exchange

end StreamingChat.Http
