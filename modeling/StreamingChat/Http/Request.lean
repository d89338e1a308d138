import StreamingChat.Http.Proxy

/-!
# HTTP requests

A request asks the host of a URL for what the URL names and may carry a JSON text. All requests say
that they accept a stream of events. A request for an `https` URL is sent over an encrypted
connection, in a tunnel if it goes through a proxy; every other one is sent as it is. Main function:
`Request.bytes`, the request as it is sent.
-/

namespace StreamingChat.Http

/-- What a request does. -/
inductive Method where
  | get
  | post
  deriving DecidableEq, Repr

/-- The name of a method. -/
def Method.name : Method → String
  | .get => "GET"
  | .post => "POST"

/-- A request. -/
structure Request where
  method : Method
  url : Url
  /-- The JSON text that is sent along. -/
  body : Option String
  /-- The credentials of the user, as Base64 text. -/
  credentials : Option String
  /-- The page that has led here. -/
  referer : Option String
  /-- The server that the request goes through. -/
  proxy : Option Proxy
  deriving DecidableEq, Repr

namespace Request

/-- The media type that the answer should have. -/
def accept : String := "text/event-stream"

/-- The media type of the body. -/
def contentType (request : Request) : Option String :=
  request.body.map fun _ => "application/json"

/-- The credentials that a URL holds. -/
def credentialsOf (url : Url) : Option String :=
  url.authority.bind fun authority =>
    if authority.username.isEmpty && authority.password.isEmpty then none
    else
      some (basicCredentials (Url.percentDecode authority.username.toList)
        (Url.percentDecode authority.password.toList))

/-- The request that sends a JSON text. Credentials are taken out of the URL. -/
def post (url : Url) (body : String) : Request :=
  ⟨.post, withoutCredentials url, some body, credentialsOf url, none, none⟩

/-- The URL of the server that is connected to. -/
def server (request : Request) : Url :=
  (request.proxy.map Proxy.url).getD request.url

/-- The port of the server that is connected to. -/
def port (request : Request) : Nat :=
  match request.server.authority.bind Url.Authority.port with
  | some port => port
  | none => if request.server.scheme = "https" then 443 else 80

/-- Whether the connection is encrypted on its way to the host or to the proxy. -/
def isEncrypted (request : Request) : Bool :=
  request.url.scheme = "https" || request.server.scheme = "https"

/-- What the request names as its target: the path and the query, and all of the URL where a plain
request goes through a proxy. -/
def target (request : Request) : String :=
  if request.proxy.isSome && request.url.scheme = "http" then
    { request.url with fragment := none }.render
  else request.url.requestTarget

/-- The credentials that a proxy is told with a plain request. -/
def proxyCredentials (request : Request) : Option String :=
  if request.url.scheme = "http" then request.proxy.bind Proxy.credentials else none

/-- The host that a request names, with the port unless it is the one of plain requests. -/
def host (request : Request) : String :=
  let isSecure := request.url.scheme = "https" || request.url.scheme = "wss"
  match request.url.authority with
  | some authority =>
      let port := authority.port.filter fun port => port ≠ 80 || isSecure
      String.ofList { authority with username := "", password := "", port }.render
  | none => ""

/-- The header fields of a request. -/
def fields (request : Request) : List (String × String) :=
  let optional (name : String) (value : Option String) : List (String × String) :=
    value.toList.map fun value => (name, value)
  [("accept", accept)] ++ optional "content-type" request.contentType ++
    optional "authorization" (request.credentials.map fun credentials => s!"Basic {credentials}") ++
    optional "proxy-authorization"
      (request.proxyCredentials.map fun credentials => s!"Basic {credentials}") ++
    optional "referer" request.referer ++ [("host", request.host)] ++
    optional "content-length" (request.body.map fun body => toString body.utf8ByteSize)

/-- A request as it is sent. The server is to close the connection after its answer. -/
def bytes (request : Request) : List UInt8 :=
  let lines := request.fields.map fun (name, value) => s!"{name}: {value}\r\n"
  let head :=
    s!"{request.method.name} {request.target} HTTP/1.1\r\n" ++ String.join lines ++
      "connection: close\r\n\r\n"
  (head ++ request.body.getD "").toUTF8.toList

end Request

end StreamingChat.Http
