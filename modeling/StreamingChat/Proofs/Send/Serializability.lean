import StreamingChat.Proofs.Send.Fleet

/-!
# Sends of several drivers are serializable

Whatever the order of their steps, drivers that share a conversation come to the end of their calls:
each step of a driver leaves it less to do, and a driver that has something to do can always take a
step. From this and the invariant of `Serial` it follows that sends are serializable.
-/

namespace StreamingChat

/-- How many steps a call takes at most. -/
def Call.work (call : Call) : Nat :=
  call.reply.reports.length + 1

/-- How many steps a driver has to take at most. -/
def Driver.work (driver : Driver) : Nat :=
  driver.calls.foldr (fun call left => call.work + left) 0 +
    match driver.flight with
    | none => 0
    | some flight => flight.coming.length

namespace Fleet

/-- How many steps drivers have to take at most. -/
def workOf (drivers : List Driver) : Nat :=
  drivers.foldr (fun driver left => driver.work + left) 0

theorem workOf_set_lt {drivers : List Driver} {place : Nat} {driver replaced : Driver}
    (there : drivers[place]? = some driver) (less : replaced.work < driver.work) :
    workOf (drivers.set place replaced) < workOf drivers := by
  induction drivers generalizing place with
  | nil => cases there
  | cons first rest ih =>
      cases place with
      | zero =>
          cases there
          rw [List.set_cons_zero, workOf, workOf, List.foldr_cons, List.foldr_cons]
          omega
      | succ place =>
          have thereRest : rest[place]? = some driver := there
          have later := ih thereRest
          rw [List.set_cons_succ, workOf, workOf, List.foldr_cons, List.foldr_cons]
          exact Nat.add_lt_add_left later _

namespace Serial

variable {start : Store} {fleet : Fleet} {place : Nat} {driver : Driver}

/-- A driver that has something to do can take a step, and has less to do after it. -/
theorem workOf_step_lt (serial : Serial start fleet) (there : fleet.drivers[place]? = some driver)
    (unfinished : ¬(driver.flight = none ∧ driver.calls = [])) (now : SendTimes) :
    workOf (fleet.step place now).drivers < workOf fleet.drivers := by
  have here := flightAt_of_getElem? there
  rw [Fleet.step, there]
  dsimp only
  cases flies : driver.flight with
  | none =>
      cases calls : driver.calls with
      | nil => exact absurd ⟨flies, calls⟩ unfinished
      | cons call rest =>
          dsimp only
          rw [Fleet.begin]
          split
          · refine workOf_set_lt there ?_
            simp [Driver.work, Driver.told, Call.work, flies, calls]
          · refine workOf_set_lt there ?_
            simp [Driver.work, Driver.told, Call.work, flies, calls]
          · refine workOf_set_lt there ?_
            simp [Driver.work, Call.work, flies, calls]
            omega
  | some flight =>
      rcases flight with ⟨send, coming⟩
      rw [flies] at here
      have waiting : coming ≠ [] := (serial.eq_of_flightAt here here).2
      cases coming with
      | nil => exact absurd rfl waiting
      | cons report coming =>
          refine workOf_set_lt there ?_
          cases (send.takeIn report).1.outcome? with
          | none => simp [Driver.work, flies]
          | some outcome => simp [Driver.work, Driver.told, flies]

/-- Every run can be completed. -/
theorem exists_run_done (serial : Serial start fleet) :
    ∃ schedule, ∀ driver ∈ (fleet.run schedule).drivers,
      driver.flight = none ∧ driver.calls = [] := by
  generalize left : workOf fleet.drivers = work
  induction work using Nat.strongRecOn generalizing fleet with
  | ind work ih =>
      by_cases done : ∀ driver ∈ fleet.drivers, driver.flight = none ∧ driver.calls = []
      · exact ⟨[], done⟩
      · rcases Classical.not_forall.mp done with ⟨driver, notDone⟩
        rcases Classical.not_imp.mp notDone with ⟨member, unfinished⟩
        rcases List.getElem?_of_mem member with ⟨place, there⟩
        have less := serial.workOf_step_lt there unfinished default
        rw [left] at less
        rcases ih _ less (serial.step place default) rfl with ⟨schedule, doneLater⟩
        exact ⟨(place, default) :: schedule, doneLater⟩

end Serial

/-- However the steps of several drivers are interleaved, their accepted sends never overlap: a
send that starts while no other one is under way is accepted, and one that starts while another one
is under way is rejected without a trace. Once no send is under way, everything is as if the
accepted calls had been made alone, one after the other, at whatever times. Every run can be
completed. -/
theorem sends_serializable {store : Store} (idle : store.loading = false)
    (drivers : List (Sender × List Call)) (schedule : List (Nat × SendTimes)) :
    let fleet := (start store drivers).run schedule
    (∀ place other flight otherFlight, flightAt fleet.drivers place = some flight →
      flightAt fleet.drivers other = some otherFlight → place = other) ∧
    (∀ place driver call rest now, fleet.drivers[place]? = some driver →
      driver.flight = none → driver.calls = call :: rest → Text.trimString call.text ≠ "" →
        ((∀ other, flightAt fleet.drivers other = none) →
          (fleet.step place now).accepted =
            fleet.accepted ++ [(⟨place, driver.sender, call⟩, now)]) ∧
        ∀ other flight, flightAt fleet.drivers other = some flight →
          fleet.step place now =
            fleet.put place ({ driver with calls := rest }.told (.error .busy))) ∧
    ((∀ driver ∈ fleet.drivers, driver.flight = none) →
      ∀ orders, orders.map Prod.fst = fleet.accepted.map Prod.fst →
        let alone := Order.series.run store orders
        (∀ time, fleet.store.dated time = alone.1.dated time) ∧
        fleet.requests = (alone.2.map fun made => made.2.requests).flatten ∧
        ∀ place, (outcomesAt fleet.drivers place).map (fun outcome => some (.ok outcome)) =
          returnedTo place alone.2) ∧
    ∃ later, ∀ driver ∈ (fleet.run later).drivers, driver.flight = none ∧ driver.calls = [] := by
  intro fleet
  have serial : Serial store fleet := (serial_start idle drivers).run schedule
  clear_value fleet
  refine ⟨?_, ?_, ?_, serial.exists_run_done⟩
  · intro place other flight otherFlight flies otherFlies
    exact (serial.eq_of_flightAt flies otherFlies).1
  · intro place driver call rest now there free calls given
    refine ⟨?_, ?_⟩
    · intro grounded
      exact serial.accepted_step_of_grounded grounded there calls given now
    · intro other flight flies
      exact serial.step_of_busy there free calls given flies now
  · intro resting orders same alone
    have served := serial.series_of_grounded (flightAt_of_resting resting)
    have state (time : Time.Timestamp) := (Order.series_of_same_orders time store same).1
    have made := (Order.series_of_same_orders default store same).2.symm
    refine ⟨?_, ?_, ?_⟩
    · intro time
      rw [← served.state]
      exact (state time).symm
    · rw [← served.requests, ← requests_map_dated default, made, requests_map_dated]
    · intro place
      rw [served.outcomes, ← returnedTo_map_dated place default, made, returnedTo_map_dated]

/-- Two drivers call at once, and the server cannot be reached. -/
theorem sends_serializable_two_drivers :
    let call : Call := ⟨"Hi", [], .failed (.http "unreachable")⟩
    let drivers : List (Sender × List Call) :=
      [(⟨"first", false⟩, [call]), (⟨"second", false⟩, [call])]
    let fleet := (start Store.empty drivers).run [(0, default), (1, default), (0, default)]
    Store.empty.loading = false ∧ fleet.accepted.map Prod.fst = [⟨0, ⟨"first", false⟩, call⟩] ∧
      ∀ time, fleet.store.dated time =
        (Order.series.run Store.empty [(⟨0, ⟨"first", false⟩, call⟩, time)]).1.dated time := by
  intro call drivers fleet
  have idle : Store.empty.loading = false := rfl
  have accepted : fleet.accepted.map Prod.fst = [⟨0, ⟨"first", false⟩, call⟩] := by decide +kernel
  have resting : ∀ driver ∈ fleet.drivers, driver.flight = none := by decide +kernel
  refine ⟨idle, accepted, ?_⟩
  intro time
  rcases sends_serializable idle drivers [(0, default), (1, default), (0, default)] with
    ⟨-, -, alone, -⟩
  exact (alone resting [(⟨0, ⟨"first", false⟩, call⟩, time)] accepted.symm).1 time

end Fleet

end StreamingChat
