import StreamingChat.Http.Body
import StreamingChat.Http.MediaType
import StreamingChat.Http.Redirect
import StreamingChat.Send.Basic

/-!
# Exchanges with the server

An exchange is one prompt's way to the server and back: a request, perhaps requests to the places
that responses send it to, and the response that counts. It is told what happens on its connection
and reports what is to be done and what has come of it. It touches no network itself.
Main functions: `Exchange.start`, `Exchange.receive`.
-/

namespace StreamingChat.Http

/-- What happens on a connection. -/
inductive NetworkEvent where
  /-- The connection cannot be made, or breaks. -/
  | failed (reason : String)
  | received (bytes : List UInt8)
  /-- The server has closed the connection. -/
  | closed
  deriving DecidableEq, Repr

/-- What an exchange reports. -/
inductive Report where
  /-- A request is to be sent over a new connection, which replaces the one before. -/
  | connect (request : Request)
  /-- The server has answered: with a failure, or with or without a body. -/
  | answered (answer : Except SendFailure Bool)
  /-- Something has arrived on the body. -/
  | arrived (arrival : Arrival)

/-- How far an exchange has come. -/
inductive ExchangePhase where
  /-- The head of the response is missing. -/
  | head (received : Array UInt8)
  /-- The text of a refusal is arriving. -/
  | refusal (status : Nat) (charset : Text.Charset) (body : BodyState) (received : Array UInt8)
  /-- The body of the response is arriving. -/
  | body (body : BodyState)
  | over
  deriving Repr

/-- How connections are made. -/
structure Network where
  /-- How many seconds a connection may take to be made. -/
  patience : Option UInt64
  proxies : Proxies
  deriving Repr

/-- An exchange. -/
structure Exchange where
  /-- The present request. -/
  request : Request
  /-- How many requests have been made for the prompt, the present one among them. -/
  requests : Nat
  network : Network
  phase : ExchangePhase
  deriving Repr

/-- The reader of bodies. -/
def bodyReader : Transducer BodyState UInt8 UInt8 := ⟨BodyState.step⟩

/-- The greatest number of requests for one prompt. -/
def maxRequests : Nat := 10

/-- The failure of a request that cannot be made at all. -/
def Request.misbuilt (request : Request) (reason : String) : SendFailure :=
  .http s!"builder error for url ({request.url.render}): {reason}"

/-- The failure of a request. -/
def Request.failure (request : Request) (reason : String) : SendFailure :=
  .http s!"error sending request for url ({request.url.render}): {reason}"

namespace Exchange

/-- Ends an exchange that has not been answered. -/
def refuse (exchange : Exchange) (failure : SendFailure) : Exchange × List Report :=
  ({ exchange with phase := .over }, [.answered (.error failure)])

/-- Ends an exchange whose request fails. -/
def fail (exchange : Exchange) (reason : String) : Exchange × List Report :=
  exchange.refuse (exchange.request.failure reason)

/-- Sends the present request over a new connection, perhaps through a proxy. -/
def connect (exchange : Exchange) : Exchange × List Report :=
  let proxy := exchange.network.proxies.for? exchange.request.url
  let request := { exchange.request with proxy }
  ({ exchange with request, phase := .head #[] }, [.connect request])

/-- Begins an exchange. A connection that may take no time is never made. -/
def start (request : Request) (network : Network) : Exchange × List Report :=
  let exchange : Exchange := ⟨request, 1, network, .head #[]⟩
  if ¬(request.url.scheme = "http" ∨ request.url.scheme = "https") then
    exchange.refuse (request.misbuilt "URL scheme is not allowed")
  else if !isAddressable request.url then
    exchange.refuse (request.misbuilt "Parsed Url is not a valid Uri")
  else if network.patience = some 0 then exchange.fail "operation timed out"
  else exchange.connect

/-- Goes on at the place that a response sends to, which may be of any scheme. -/
def follow (exchange : Exchange) (request : Request) : Exchange × List Report :=
  if maxRequests ≤ exchange.requests then exchange.fail "too many redirects"
  else if request.url.authority.isNone then
    exchange.refuse (request.failure "client requires absolute-form URIs")
  else connect { exchange with request, requests := exchange.requests + 1 }

/-- Takes in bytes of a body. -/
def readBody (exchange : Exchange) (body : BodyState) (bytes : List UInt8) :
    Exchange × List Report :=
  let (body, data) := bodyReader.run body bytes
  let chunk := if data.isEmpty then [] else [.arrived (.chunk data)]
  match body with
  | .complete => ({ exchange with phase := .over }, chunk ++ [.arrived .ended])
  | .broken =>
      ({ exchange with phase := .over },
        chunk ++ [.arrived (.broken (.http "error decoding response body"))])
  | _ => ({ exchange with phase := .body body }, chunk)

/-- Ends the text of a refusal. A text that breaks off is not told. -/
def endRefusal (exchange : Exchange) (status : Nat) (charset : Text.Charset) (whole : Bool)
    (received : Array UInt8) : Exchange × List Report :=
  let text := if whole then charset.decodeMarked received.toList else "Unknown error"
  exchange.refuse (.status status text)

/-- Takes in bytes of the text of a refusal. -/
def readRefusal (exchange : Exchange) (status : Nat) (charset : Text.Charset) (body : BodyState)
    (received : Array UInt8) (bytes : List UInt8) : Exchange × List Report :=
  let (body, data) := bodyReader.run body bytes
  let received := received ++ data
  match body with
  | .complete => exchange.endRefusal status charset true received
  | .broken => exchange.endRefusal status charset false received
  | _ => ({ exchange with phase := .refusal status charset body received }, [])

/-- Takes in the head of a response and the bytes after it. -/
def readResponse (exchange : Exchange) (head : Head) (rest : List UInt8) :
    Exchange × List Report :=
  match head.bodyStart? with
  | none => exchange.fail "invalid content-length or transfer-encoding"
  | some body =>
      match exchange.request.redirected? head with
      | some request => exchange.follow request
      | none =>
          if !head.isSuccess then
            let charset := MediaType.charsetOf (head.value? "content-type")
            exchange.readRefusal head.status charset body #[] rest
          else if body = .complete then
            ({ exchange with phase := .over }, [.answered (.ok false)])
          else
            let (exchange, reports) := exchange.readBody body rest
            (exchange, .answered (.ok true) :: reports)

/-- Takes in bytes up to the end of a head. At most `fuel` heads come before the one that counts. -/
def readHead (exchange : Exchange) : Nat → List UInt8 → Exchange × List Report
  | 0, _ => exchange.fail "too many interim responses"
  | fuel + 1, bytes =>
      match Head.read bytes with
      | .incomplete => ({ exchange with phase := .head bytes.toArray }, [])
      | .invalid => exchange.fail "invalid HTTP response"
      | .complete head rest =>
          if head.isInterim then exchange.readHead fuel rest
          else exchange.readResponse head rest

/-- Takes in what happens on the connection. -/
def receive (exchange : Exchange) (event : NetworkEvent) : Exchange × List Report :=
  match exchange.phase with
  | .over => (exchange, [])
  | .head received =>
      match event with
      | .failed reason => exchange.fail reason
      | .received bytes =>
          let all := received.toList ++ bytes
          exchange.readHead (all.length + 1) all
      | .closed => exchange.fail "connection closed before message completed"
  | .refusal status charset body received =>
      match event with
      | .failed _ => exchange.endRefusal status charset false received
      | .received bytes => exchange.readRefusal status charset body received bytes
      | .closed => exchange.endRefusal status charset (body.close = .complete) received
  | .body body =>
      match event with
      | .failed reason =>
          ({ exchange with phase := .over }, [.arrived (.broken (.http reason))])
      | .received bytes => exchange.readBody body bytes
      | .closed => exchange.readBody body.close []

end Exchange

end StreamingChat.Http
