import StreamingChat.Http.Head
import StreamingChat.Http.Request
import StreamingChat.Text.Utf8.Strict

/-!
# Redirects

A response may name another place where the request is to be made. Some statuses ask for the place
only to be looked at, so that the request loses its body; others ask for the whole request again.
A place to which no request can be addressed is not followed. Main function: `Request.redirected?`.
-/

namespace StreamingChat.Http

/-- The page that a request from one URL to another one says that it comes from. -/
def refererOf (previous next : Url) : Option String :=
  if previous.scheme = "https" && next.scheme = "http" then none
  else some { withoutCredentials previous with fragment := none }.render

/-- Whether the place that a status sends to is asked with the whole request. There is no answer
for statuses that send nowhere. -/
def keepsBody? (status : Nat) : Option Bool :=
  if status = 301 || status = 302 || status = 303 then some false
  else if status = 307 || status = 308 then some true
  else none

/-- The request that a response sends to another place. -/
def Request.redirected? (request : Request) (head : Head) : Option Request := do
  let keepsBody ← keepsBody? head.status
  let location ← (Text.Utf8.decodeStrict (← head.value? "location")).toOption
  let url ← (request.url.join location).toOption
  let sameHost := url.host? = request.url.host? && portOf? url = portOf? request.url
  if isAddressable url then
    some
      { method := if keepsBody then request.method else .get
        url
        body := if keepsBody then request.body else none
        credentials := if sameHost then request.credentials else none
        referer := refererOf request.url url
        proxy := none }
  else none

end StreamingChat.Http
