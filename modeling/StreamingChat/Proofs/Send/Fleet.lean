import StreamingChat.Proofs.Send.Dates
import StreamingChat.Proofs.Send.Steps

/-!
# Sends of several drivers do not overlap

Drivers that share a conversation take their steps in any order. This file shows that the sends they
get accepted might as well have been made alone, one after the other, in the order in which they
began.

The invariant is `Serial`. Between sends, the conversation is the one that the accepted sends alone
lead to. While a send is under way, it is the only one; the conversation before it is the one that
the sends before lead to, and `Underway` says that what is left of the send leads from here to what
the send alone comes to. Other drivers cannot get in between, for the ticket is held until the step
that ends the send.
-/

namespace StreamingChat

/-! ## One send -/

/-- What is left of a send leads from here to what the send alone comes to. -/
structure Underway (order : Order) (earlier : Store) (now : SendTimes) (request : ChatRequest)
    (coming : List Http.Report) (send : Send) (store : Store) : Prop where
  unfinished : send.outcome? = none
  busy : store.loading = true
  ends : ∃ outcome, (send.takeInAll coming).1.outcome? = some outcome ∧ outcome ≠ .ignored
  requests : (order.send earlier now).requests = [request]
  answer : (order.send earlier now).answer = (send.takeInAll coming).1.outcome?.map .ok
  state : (order.send earlier now).store =
    Effect.performAll send.target store (send.takeInAll coming).2

namespace Underway

variable {order : Order} {earlier store : Store} {now : SendTimes} {request : ChatRequest}
  {report : Http.Report} {coming : List Http.Report} {send : Send} {outcome : SendOutcome}

theorem ofIdle (order : Order) {prompt : String}
    (given : Send.promptOf? order.call.text = some prompt) (idle : earlier.loading = false)
    (now : SendTimes) :
    Underway order earlier now ⟨prompt, order.sender.userId⟩ order.call.reply.reports
      ⟨⟨earlier.nextId + 1⟩, order.sender.flushes, .opening⟩
      (earlier.begun prompt order.call.images now) := by
  have begun := Sender.attempt_of_idle order.sender order.call.text order.call.images now given idle
  refine ⟨rfl, rfl, Send.exists_outcome_of_reports _ _ _, ?_, ?_, ?_⟩
  · simp only [Order.send, Sender.send, begun]
  · simp only [Order.send, Sender.send, begun]
  · simp only [Order.send, Sender.send, begun]

theorem coming_ne_nil (underway : Underway order earlier now request coming send store) :
    coming ≠ [] := by
  rintro rfl
  rcases underway.ends with ⟨outcome, isOver, -⟩
  rw [Send.takeInAll, underway.unfinished] at isOver
  cases isOver

theorem next (underway : Underway order earlier now request (report :: coming) send store)
    (unfinished : (send.takeIn report).1.outcome? = none) :
    Underway order earlier now request coming (send.takeIn report).1
      (Effect.performAll send.target store (send.takeIn report).2) where
  unfinished := unfinished
  busy := by
    have kept : .release ∉ (send.takeIn report).2 := by
      rw [Send.release_mem_takeIn_iff underway.unfinished, unfinished]
      simp
    rw [Effect.loading_performAll, underway.busy]
    simp [kept]
  ends := underway.ends
  requests := underway.requests
  answer := underway.answer
  state := by
    rw [underway.state, Send.takeInAll_cons, Send.target_takeIn]
    simp [Send.after, Effect.performAll]

/-- The report that ends a send brings about what the send alone comes to. -/
theorem finish (underway : Underway order earlier now request (report :: coming) send store)
    (isOver : (send.takeIn report).1.outcome? = some outcome) :
    let final := Effect.performAll send.target store (send.takeIn report).2
    (order.send earlier now).answer = some (.ok outcome) ∧ outcome ≠ .ignored ∧
      (order.send earlier now).store = final ∧ final.loading = false := by
  intro final
  have rest := Send.takeInAll_of_outcome? isOver coming
  have whole : send.takeInAll (report :: coming) = send.takeIn report := by
    rw [Send.takeInAll_cons, rest, Send.after, List.append_nil]
  have released : .release ∈ (send.takeIn report).2 := by
    rw [Send.release_mem_takeIn_iff underway.unfinished, isOver]
    rfl
  refine ⟨?_, ?_, ?_, ?_⟩
  · rw [underway.answer, whole, isOver]
    rfl
  · rcases underway.ends with ⟨last, lastIs, known⟩
    rw [whole, isOver] at lastIs
    cases lastIs
    exact known
  · rw [underway.state, whole]
  · simp only [final, Effect.loading_performAll]
    simp [released]

end Underway

/-! ## Drivers -/

/-- What has become of a call, if it was accepted. -/
def SendOutcome.ofAnswer? : Except Rejection SendOutcome → Option SendOutcome
  | .ok .ignored => none
  | .ok outcome => some outcome
  | .error _ => none

/-- What has become of the accepted calls of a driver. -/
def Driver.outcomes (driver : Driver) : List SendOutcome :=
  driver.answers.filterMap SendOutcome.ofAnswer?

namespace Fleet

/-- The send that the driver at a place has under way. -/
def flightAt (drivers : List Driver) (place : Nat) : Option Flight :=
  drivers[place]?.bind Driver.flight

/-- What has become of the accepted calls of the driver at a place. -/
def outcomesAt (drivers : List Driver) (place : Nat) : List SendOutcome :=
  (drivers[place]?.map Driver.outcomes).getD []

section Drivers

variable {drivers : List Driver} {place : Nat} {driver : Driver}

theorem flightAt_of_getElem? (there : drivers[place]? = some driver) :
    flightAt drivers place = driver.flight := by
  rw [flightAt, there]
  rfl

theorem outcomesAt_of_getElem? (there : drivers[place]? = some driver) :
    outcomesAt drivers place = driver.outcomes := by
  rw [outcomesAt, there]
  rfl

theorem flightAt_of_resting (resting : ∀ driver ∈ drivers, driver.flight = none) (place : Nat) :
    flightAt drivers place = none := by
  cases there : drivers[place]? with
  | none => rw [flightAt, there, Option.bind_none]
  | some driver =>
      rw [flightAt_of_getElem? there]
      exact resting driver (List.mem_of_getElem? there)

theorem eq_of_alone (alone : ∀ other ≠ place, flightAt drivers other = none) {other : Nat}
    {flight : Flight} (flies : flightAt drivers other = some flight) : other = place := by
  by_contra elsewhere
  rw [alone other elsewhere] at flies
  cases flies

theorem getElem?_set_self (there : drivers[place]? = some driver) (replaced : Driver) :
    (drivers.set place replaced)[place]? = some replaced :=
  List.getElem?_set_self (List.getElem?_eq_some_iff.mp there).1

theorem flightAt_set_self (there : drivers[place]? = some driver) (replaced : Driver) :
    flightAt (drivers.set place replaced) place = replaced.flight :=
  flightAt_of_getElem? (getElem?_set_self there replaced)

theorem flightAt_set_of_ne {other : Nat} (elsewhere : other ≠ place) (replaced : Driver) :
    flightAt (drivers.set place replaced) other = flightAt drivers other := by
  rw [flightAt, flightAt, List.getElem?_set_ne elsewhere.symm]

theorem outcomesAt_set_self (there : drivers[place]? = some driver) (replaced : Driver) :
    outcomesAt (drivers.set place replaced) place = replaced.outcomes :=
  outcomesAt_of_getElem? (getElem?_set_self there replaced)

theorem outcomesAt_set_of_ne {other : Nat} (elsewhere : other ≠ place) (replaced : Driver) :
    outcomesAt (drivers.set place replaced) other = outcomesAt drivers other := by
  rw [outcomesAt, outcomesAt, List.getElem?_set_ne elsewhere.symm]

/-- A driver that has nothing under way, before and after, makes no difference. -/
theorem flightAt_set_of_free (there : drivers[place]? = some driver) (free : driver.flight = none)
    {replaced : Driver} (still : replaced.flight = none) :
    flightAt (drivers.set place replaced) = flightAt drivers := by
  funext other
  by_cases same : other = place
  · subst same
    rw [flightAt_set_self there, flightAt_of_getElem? there, free, still]
  · exact flightAt_set_of_ne same replaced

theorem outcomesAt_set_of_same (there : drivers[place]? = some driver) {replaced : Driver}
    (same : replaced.outcomes = driver.outcomes) :
    outcomesAt (drivers.set place replaced) = outcomesAt drivers := by
  funext other
  by_cases here : other = place
  · subst here
    rw [outcomesAt_set_self there, outcomesAt_of_getElem? there, same]
  · exact outcomesAt_set_of_ne here replaced

end Drivers

/-! ## Sends one after the other -/

/-- What calls have returned to the driver at a place. -/
def returnedTo (place : Nat) (made : List (Order × SendResult)) :
    List (Option (Except Rejection SendOutcome)) :=
  (made.filter fun made => made.1.place = place).map fun made => made.2.answer

theorem returnedTo_map_dated (place : Nat) (time : Time.Timestamp)
    (made : List (Order × SendResult)) :
    returnedTo place (made.map fun made => (made.1, made.2.dated time)) =
      returnedTo place made := by
  rw [returnedTo, List.filter_map, List.map_map]
  rfl

theorem requests_map_dated (time : Time.Timestamp) (made : List (Order × SendResult)) :
    ((made.map fun made => (made.1, made.2.dated time)).map fun made => made.2.requests) =
      made.map fun made => made.2.requests := by
  rw [List.map_map]
  rfl

/-- The accepted calls alone, one after the other, lead from the start to this conversation, make
the same requests, and return the same to every driver. -/
structure Served (start : Store) (drivers : List Driver)
    (accepted : List (Order × SendTimes)) (requests : List ChatRequest) (store : Store) :
    Prop where
  idle : store.loading = false
  state : (Order.series.run start accepted).1 = store
  requests :
    ((Order.series.run start accepted).2.map fun made => made.2.requests).flatten = requests
  outcomes : ∀ place, (outcomesAt drivers place).map (fun outcome => some (.ok outcome)) =
    returnedTo place (Order.series.run start accepted).2

namespace Served

variable {start earlier : Store} {drivers : List Driver}
  {accepted : List (Order × SendTimes)} {requests : List ChatRequest} {order : Order}
  {driver : Driver}

theorem replace (served : Served start drivers accepted requests earlier) {place : Nat}
    (there : drivers[place]? = some driver) {replaced : Driver}
    (same : replaced.outcomes = driver.outcomes) :
    Served start (drivers.set place replaced) accepted requests earlier where
  idle := served.idle
  state := served.state
  requests := served.requests
  outcomes := by
    rw [outcomesAt_set_of_same there same]
    exact served.outcomes

theorem append (served : Served start drivers accepted requests earlier)
    (there : drivers[order.place]? = some driver) {now : SendTimes} {request : ChatRequest}
    {store : Store} {outcome : SendOutcome} (known : outcome ≠ .ignored)
    (requested : (order.send earlier now).requests = [request])
    (answer : (order.send earlier now).answer = some (.ok outcome))
    (state : (order.send earlier now).store = store) (idle : store.loading = false) :
    Served start (drivers.set order.place (driver.told (.ok outcome)))
      (accepted ++ [(order, now)]) (requests ++ [request]) store := by
  have grown : Order.series.run start (accepted ++ [(order, now)]) =
      (store, (Order.series.run start accepted).2 ++ [(order, order.send earlier now)]) := by
    rw [Transducer.run_append, served.state, Transducer.run_cons, Transducer.run_nil,
      Order.series_step, state, List.append_nil]
  have told : (driver.told (.ok outcome)).outcomes = driver.outcomes ++ [outcome] := by
    have last : SendOutcome.ofAnswer? (.ok outcome) = some outcome := by
      cases outcome with
      | ignored => exact absurd rfl known
      | completed message ending => rfl
      | failed message note => rfl
    simp [Driver.told, Driver.outcomes, last]
  refine ⟨idle, ?_, ?_, ?_⟩
  · rw [grown]
  · rw [grown, List.map_append, List.flatten_append, served.requests]
    simp [requested]
  · intro place
    have before := served.outcomes place
    rw [grown, returnedTo, List.filter_append, List.map_append, ← returnedTo, ← before]
    by_cases here : order.place = place
    · subst here
      rw [outcomesAt_set_self there, outcomesAt_of_getElem? there, told]
      simp [answer]
    · rw [outcomesAt_set_of_ne (Ne.symm here)]
      simp [here]

end Served

/-! ## The steps of a fleet -/

/-- The calls that were accepted so far might as well have been made one after the other. -/
inductive Serial (start : Store) : Fleet → Prop where
  | resting {fleet : Fleet}
      (served : Served start fleet.drivers fleet.accepted fleet.requests fleet.store)
      (grounded : ∀ place, flightAt fleet.drivers place = none) : Serial start fleet
  | flying {fleet : Fleet} {send : Send} {coming : List Http.Report} {earlier : Store}
      {before : List (Order × SendTimes)} {requests : List ChatRequest}
      {request : ChatRequest} {order : Order} {now : SendTimes}
      (served : Served start fleet.drivers before requests earlier)
      (accepted : fleet.accepted = before ++ [(order, now)])
      (requested : fleet.requests = requests ++ [request])
      (flown : flightAt fleet.drivers order.place = some ⟨send, coming⟩)
      (alone : ∀ other ≠ order.place, flightAt fleet.drivers other = none)
      (underway : Underway order earlier now request coming send fleet.store) :
      Serial start fleet

namespace Serial

variable {start : Store} {fleet : Fleet} {place : Nat} {driver : Driver}

theorem put (serial : Serial start fleet) (there : fleet.drivers[place]? = some driver)
    (free : driver.flight = none) {replaced : Driver} (still : replaced.flight = none)
    (same : replaced.outcomes = driver.outcomes) : Serial start (fleet.put place replaced) := by
  have flights := flightAt_set_of_free there free still
  cases serial with
  | resting served grounded =>
      rw [← flights] at grounded
      exact .resting (served.replace there same) grounded
  | flying served accepted requested flown alone underway =>
      rw [← flights] at flown alone
      exact .flying (served.replace there same) accepted requested flown alone underway

/-- A call is accepted only between sends. -/
theorem begin (serial : Serial start fleet) (there : fleet.drivers[place]? = some driver)
    (free : driver.flight = none) {caller : Driver} (same : caller.answers = driver.answers)
    (call : Call) (now : SendTimes) : Serial start (fleet.begin place caller call now) := by
  rw [Fleet.begin]
  have untold (answer : Except Rejection SendOutcome)
      (nothing : SendOutcome.ofAnswer? answer = none) :
      (caller.told answer).outcomes = driver.outcomes := by
    simp [Driver.told, Driver.outcomes, same, nothing]
  cases given : Send.promptOf? call.text with
  | none =>
      rw [Sender.attempt_of_blank _ _ _ _ given]
      exact serial.put there free rfl (untold _ rfl)
  | some prompt =>
      cases serial with
      | resting served grounded =>
          rw [Sender.attempt_of_idle _ _ _ _ given served.idle]
          have underway := Underway.ofIdle ⟨place, caller.sender, call⟩ given served.idle now
          refine .flying (served.replace there ?_) rfl rfl (flightAt_set_self there _) ?_ underway
          · rw [Driver.outcomes, same, Driver.outcomes]
          · intro other elsewhere
            exact (flightAt_set_of_ne elsewhere _).trans (grounded other)
      | flying served accepted requested flown alone underway =>
          rw [Sender.attempt_of_loading _ _ _ _ given underway.busy]
          have serial : Serial start fleet :=
            .flying served accepted requested flown alone underway
          exact serial.put there free rfl (untold _ rfl)

/-- The driver that has a send under way goes on with it. -/
theorem proceed (serial : Serial start fleet) (there : fleet.drivers[place]? = some driver)
    {send : Send} {report : Http.Report} {coming : List Http.Report}
    (flies : driver.flight = some ⟨send, report :: coming⟩) :
    Serial start (fleet.proceed place driver send report coming) := by
  have here := flightAt_of_getElem? there
  rw [flies] at here
  cases serial with
  | resting served grounded =>
      rw [grounded place] at here
      cases here
  | @flying _ _ earlier before requests request order now served accepted requested flown alone
      underway =>
      have same : place = order.place := eq_of_alone alone here
      subst same
      rw [here] at flown
      cases flown
      have others (replaced : Driver) (other : Nat) (elsewhere : other ≠ order.place) :
          flightAt (fleet.drivers.set order.place replaced) other = none :=
        (flightAt_set_of_ne elsewhere replaced).trans (alone other elsewhere)
      rw [Fleet.proceed]
      cases isOver : (send.takeIn report).1.outcome? with
      | none =>
          exact .flying (served.replace there rfl) accepted requested (flightAt_set_self there _)
            (others _) (underway.next isOver)
      | some outcome =>
          rcases underway.finish isOver with ⟨answer, known, state, idle⟩
          have more := served.append there known underway.requests answer state idle
          rw [← accepted, ← requested] at more
          refine .resting more ?_
          intro other
          by_cases elsewhere : other = order.place
          · subst elsewhere
            exact flightAt_set_self there _
          · exact others _ other elsewhere

theorem step (serial : Serial start fleet) (place : Nat) (now : SendTimes) :
    Serial start (fleet.step place now) := by
  rw [Fleet.step]
  cases there : fleet.drivers[place]? with
  | none => exact serial
  | some driver =>
      dsimp only
      cases flies : driver.flight with
      | none =>
          cases driver.calls with
          | nil => exact serial
          | cons call rest =>
              refine serial.begin there flies ?_ call now
              rfl
      | some flight =>
          rcases flight with ⟨send, coming⟩
          cases coming with
          | nil => exact serial
          | cons report coming => exact serial.proceed there flies

theorem run (serial : Serial start fleet) (schedule : List (Nat × SendTimes)) :
    Serial start (fleet.run schedule) := by
  induction schedule generalizing fleet with
  | nil => exact serial
  | cons turn rest ih => exact ih (serial.step turn.1 turn.2)

/-- No two sends are under way at once, and the one that is comes to its end. -/
theorem eq_of_flightAt (serial : Serial start fleet) {other : Nat} {flight otherFlight : Flight}
    (flies : flightAt fleet.drivers place = some flight)
    (otherFlies : flightAt fleet.drivers other = some otherFlight) :
    place = other ∧ flight.coming ≠ [] := by
  cases serial with
  | resting served grounded =>
      rw [grounded place] at flies
      cases flies
  | @flying _ _ _ _ _ _ order _ served accepted requested flown alone underway =>
      have here : place = order.place := eq_of_alone alone flies
      refine ⟨here.trans (eq_of_alone alone otherFlies).symm, ?_⟩
      rw [here, flown] at flies
      cases flies
      exact underway.coming_ne_nil

/-- A send that starts while another one is under way is rejected, and changes nothing but what its
driver has been told. -/
theorem step_of_busy (serial : Serial start fleet) (there : fleet.drivers[place]? = some driver)
    (free : driver.flight = none) {call : Call} {rest : List Call}
    (calls : driver.calls = call :: rest) (given : Text.trimString call.text ≠ "")
    {other : Nat} {flight : Flight} (flies : flightAt fleet.drivers other = some flight)
    (now : SendTimes) :
    fleet.step place now =
      fleet.put place ({ driver with calls := rest }.told (.error .busy)) := by
  cases serial with
  | resting served grounded =>
      rw [grounded other] at flies
      cases flies
  | flying served accepted requested flown alone underway =>
      rw [Fleet.step, there]
      dsimp only
      rw [free, calls]
      dsimp only
      rw [Fleet.begin, Sender.attempt_of_loading _ _ _ _ (Send.promptOf?_of_ne given) underway.busy]

/-- A send that starts while no other one is under way is accepted. -/
theorem accepted_step_of_grounded (serial : Serial start fleet)
    (grounded : ∀ place, flightAt fleet.drivers place = none)
    (there : fleet.drivers[place]? = some driver) {call : Call} {rest : List Call}
    (calls : driver.calls = call :: rest) (given : Text.trimString call.text ≠ "")
    (now : SendTimes) :
    (fleet.step place now).accepted =
      fleet.accepted ++ [(⟨place, driver.sender, call⟩, now)] := by
  have free := grounded place
  rw [flightAt_of_getElem? there] at free
  cases serial with
  | resting served grounded =>
      rw [Fleet.step, there]
      dsimp only
      rw [free, calls]
      dsimp only
      rw [Fleet.begin, Sender.attempt_of_idle _ _ _ _ (Send.promptOf?_of_ne given) served.idle]
  | flying served accepted requested flown alone underway =>
      rw [grounded] at flown
      cases flown

theorem series_of_grounded (serial : Serial start fleet)
    (grounded : ∀ place, flightAt fleet.drivers place = none) :
    Served start fleet.drivers fleet.accepted fleet.requests fleet.store := by
  cases serial with
  | resting served _ => exact served
  | flying served accepted requested flown alone underway =>
      rw [grounded] at flown
      cases flown

end Serial

theorem serial_start {store : Store} (idle : store.loading = false)
    (drivers : List (Sender × List Call)) : Serial store (start store drivers) := by
  have grounded (place : Nat) : flightAt (start store drivers).drivers place = none := by
    rw [flightAt, start, List.getElem?_map]
    cases drivers[place]? <;> rfl
  have untold (place : Nat) : outcomesAt (start store drivers).drivers place = [] := by
    rw [outcomesAt, start, List.getElem?_map]
    cases drivers[place]? <;> rfl
  refine .resting ⟨idle, ?_, ?_, ?_⟩ grounded
  · rw [start, Transducer.run_nil]
  · rw [start, Transducer.run_nil]
    rfl
  · intro place
    rw [untold, start, Transducer.run_nil]
    rfl

end Fleet

end StreamingChat
