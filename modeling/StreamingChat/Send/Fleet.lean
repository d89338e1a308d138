import StreamingChat.Send.Reply
import StreamingChat.Transducer

/-!
# Several drivers over one conversation

A driver makes its calls to send one after the other; several drivers share one conversation. A send
gives way to the other drivers wherever it waits: for the answer of the server, and for each arrival
on the response. Between two such points it runs undisturbed, so that a run of the whole fleet is
determined by the order in which the drivers take their steps.

A fleet remembers which calls were accepted, in the order in which their sends began. `Order.series`
makes the same calls alone, one after the other.
-/

namespace StreamingChat

/-- A call to send, and what the server does about it. -/
structure Call where
  text : String
  images : List Image
  reply : Reply
  deriving DecidableEq, Repr

/-- A send that waits for its reply. -/
structure Flight where
  send : Send
  /-- What the send is still to be told. -/
  coming : List Http.Report

/-- Someone who sends, call by call. -/
structure Driver where
  sender : Sender
  /-- The calls that are still to be made. -/
  calls : List Call
  /-- The send that is under way, if any. -/
  flight : Option Flight
  /-- What the calls have returned. -/
  answers : List (Except Rejection SendOutcome)

namespace Driver

/-- A driver that has made no call. -/
def start (sender : Sender) (calls : List Call) : Driver := ⟨sender, calls, none, []⟩

/-- Returns from a call. -/
def told (driver : Driver) (answer : Except Rejection SendOutcome) : Driver :=
  { driver with flight := none, answers := driver.answers ++ [answer] }

end Driver

/-- A call of the driver at a place. -/
structure Order where
  place : Nat
  sender : Sender
  call : Call
  deriving DecidableEq, Repr

namespace Order

/-- Sends, and takes in the whole reply. -/
def send (order : Order) (store : Store) (now : SendTimes) : SendResult :=
  order.sender.send store order.call.text order.call.images now order.call.reply

/-- Calls made alone, each at its time, one after the other. -/
def series : Transducer Store (Order × SendTimes) (Order × SendResult) where
  step store timed :=
    let result := timed.1.send store timed.2
    (result.store, [(timed.1, result)])

end Order

/-- Drivers that share a conversation. -/
structure Fleet where
  store : Store
  drivers : List Driver
  /-- The requests that were made. -/
  requests : List ChatRequest
  /-- The calls that were accepted and their times, in the order in which their sends began. -/
  accepted : List (Order × SendTimes)

namespace Fleet

/-- Drivers that have made no call. -/
def start (store : Store) (drivers : List (Sender × List Call)) : Fleet where
  store := store
  drivers := drivers.map fun driver => Driver.start driver.1 driver.2
  requests := []
  accepted := []

/-- Replaces a driver. -/
def put (fleet : Fleet) (place : Nat) (driver : Driver) : Fleet :=
  { fleet with drivers := fleet.drivers.set place driver }

/-- A driver makes a call, up to the point where it waits for the answer of the server. -/
def begin (fleet : Fleet) (place : Nat) (driver : Driver) (call : Call) (now : SendTimes) :
    Fleet :=
  match driver.sender.attempt fleet.store call.text call.images now with
  | .ignored => fleet.put place (driver.told (.ok .ignored))
  | .rejected rejection => fleet.put place (driver.told (.error rejection))
  | .begun send request store =>
      { fleet.put place { driver with flight := some ⟨send, call.reply.reports⟩ } with
        store := store
        requests := fleet.requests ++ [request]
        accepted := fleet.accepted ++ [(⟨place, driver.sender, call⟩, now)] }

/-- A driver takes in a report, up to the point where it waits for the next one or returns. -/
def proceed (fleet : Fleet) (place : Nat) (driver : Driver) (send : Send) (report : Http.Report)
    (coming : List Http.Report) : Fleet :=
  let next := send.takeIn report
  let driver :=
    match next.1.outcome? with
    | none => { driver with flight := some ⟨next.1, coming⟩ }
    | some outcome => driver.told (.ok outcome)
  { fleet.put place driver with store := Effect.performAll send.target fleet.store next.2 }

/-- A driver takes a step, if it has one to take. -/
def step (fleet : Fleet) (place : Nat) (now : SendTimes) : Fleet :=
  match fleet.drivers[place]? with
  | none => fleet
  | some driver =>
      match driver.flight with
      | none =>
          match driver.calls with
          | [] => fleet
          | call :: rest => fleet.begin place { driver with calls := rest } call now
      | some ⟨_, []⟩ => fleet
      | some ⟨send, report :: coming⟩ => fleet.proceed place driver send report coming

/-- The drivers take their steps in some order. -/
def run (fleet : Fleet) (schedule : List (Nat × SendTimes)) : Fleet :=
  schedule.foldl (fun fleet turn => fleet.step turn.1 turn.2) fleet

end Fleet

end StreamingChat
