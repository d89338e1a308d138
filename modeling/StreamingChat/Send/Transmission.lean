import StreamingChat.Http.Exchange

/-!
# Transmissions

A transmission is a send together with its exchange with the server: what happens on the network
moves the exchange, and what the exchange reports moves the send.
-/

namespace StreamingChat

/-- Takes in a report of the exchange with the server. -/
def Send.takeIn (send : Send) : Http.Report → Send × List Effect
  | .connect _ => (send, [])
  | .answered answer => send.answered answer
  | .arrived arrival => send.receive arrival

/-- Takes in several reports. -/
def Send.takeInAll (send : Send) : List Http.Report → Send × List Effect
  | [] => (send, [])
  | report :: rest =>
      let (next, effects) := send.takeIn report
      Send.after effects (next.takeInAll rest)

/-- The request that a report asks to be sent. -/
def Http.Report.request? : Http.Report → Option Http.Request
  | .connect request => some request
  | _ => none

/-- A send and its exchange with the server. -/
structure Transmission where
  send : Send
  exchange : Http.Exchange
  deriving Repr

/-- What comes of a step of a transmission. -/
structure Advance where
  transmission : Transmission
  effects : List Effect
  /-- The requests to be sent, each over a new connection. -/
  requests : List Http.Request
  deriving Repr

namespace Transmission

/-- Passes the reports of an exchange on to the send. -/
def advance (send : Send) (next : Http.Exchange × List Http.Report) : Advance :=
  let (send, effects) := send.takeInAll next.2
  ⟨⟨send, next.1⟩, effects, next.2.filterMap Http.Report.request?⟩

/-- Begins to transmit the request of a send. -/
def start (send : Send) (endpoint : Url) (request : ChatRequest) (network : Http.Network) :
    Advance :=
  advance send (Http.Exchange.start (Http.Request.post endpoint request.body) network)

/-- Takes in what happens on the connection. -/
def receive (transmission : Transmission) (event : Http.NetworkEvent) : Advance :=
  advance transmission.send (transmission.exchange.receive event)

/-- Takes in several events on the same connection. -/
def receiveAll (transmission : Transmission) : List Http.NetworkEvent → Advance
  | [] => ⟨transmission, [], []⟩
  | event :: rest =>
      let first := transmission.receive event
      if first.requests.isEmpty then
        let later := first.transmission.receiveAll rest
        ⟨later.transmission, first.effects ++ later.effects, later.requests⟩
      else first

end Transmission

end StreamingChat
