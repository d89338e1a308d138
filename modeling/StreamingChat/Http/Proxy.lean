import StreamingChat.Http.Address
import StreamingChat.Settings.Environment
import StreamingChat.Text.Base64
import StreamingChat.Text.Blank

/-!
# Proxies

Variables of the environment may name servers that requests go through, one for each scheme, and
hosts that are reached without them. A value that names no such server is as good as none. Main
functions: `Proxies.ofEnvironment`, `Proxies.for?`.
-/

namespace StreamingChat.Http

/-- The credentials that a user name and a password make, as Base64 text. -/
def basicCredentials (username password : List UInt8) : String :=
  Text.Base64.encode (username ++ 0x3A :: password)

/-- A URL without credentials. -/
def withoutCredentials (url : Url) : Url :=
  { url with
    authority := url.authority.map fun authority =>
      { authority with username := "", password := "" } }

/-- A server that requests go through. -/
structure Proxy where
  url : Url
  /-- The credentials that the server is told, as Base64 text. -/
  credentials : Option String
  deriving DecidableEq, Repr

namespace Proxy

/-- The URL that a text names. A text without a scheme or a host is taken for a host. -/
def readUrl (text : String) : Except Url.Flaw Url :=
  let asHost := Url.read ("http://" ++ text)
  match Url.read text with
  | .ok url => if url.host?.isSome then .ok url else asHost
  | .error .relativeWithoutBase => asHost
  | .error flaw => .error flaw

/-- The credentials of a proxy, which count only if there is a password. -/
def credentialsOf (authority : Url.Authority) : Option String :=
  let decoded (part : String) : List UInt8 :=
    (String.ofList (Text.Utf8.characters (Url.percentDecode part.toList))).toUTF8.toList
  if authority.password.isEmpty then none
  else some (basicCredentials (decoded authority.username) (decoded authority.password))

/-- The proxy that a text names, if any. -/
def read (text : String) : Option Proxy := do
  let url ← (readUrl text).toOption
  let authority ← (withoutCredentials url).authority
  if (url.scheme = "http" || url.scheme = "https") && isAuthority authority.render then
    some ⟨withoutCredentials url, url.authority.bind credentialsOf⟩
  else none

end Proxy

/-! ## Hosts without a proxy -/

/-- What names the hosts that are reached without a proxy. -/
inductive Exemption where
  /-- Addresses of so many bits that begin with the same bits as the given one. -/
  | network (bits length address : Nat)
  /-- A domain and those below it, or all domains for an asterisk. -/
  | domain (name : String)
  deriving DecidableEq, Repr

namespace Exemption

/-- The number of an address of version 6. -/
def ofPieces (pieces : List Nat) : Nat := Url.Host.numberIn 65536 pieces

/-- The bits of an address, and the address as a number. -/
def readAddress (text : List Char) : Option (Nat × Nat) :=
  match Url.Host.dottedEnd text with
  | some pieces => some (32, ofPieces pieces)
  | none =>
      (Url.Host.readIpv6 text).toOption.map fun pieces => (128, ofPieces pieces)

/-- An exemption from its text: a network with the length of its common part, an address, or else
a domain. -/
def read (text : List Char) : Exemption :=
  let address := text.takeWhile (· ≠ '/')
  let network? : Option Exemption := do
    let (bits, number) ← readAddress address
    match text.drop address.length with
    | [] => some (.network bits bits number)
    | _ :: digits =>
        let length := Url.Host.numberIn 10 (digits.map fun digit => digit.toNat - 0x30)
        let width := if bits = 32 then 2 else 3
        if digits.isEmpty || width < digits.length || !digits.all Char.isDigit || bits < length then
          none
        else some (.network bits length number)
  network?.getD (.domain (String.ofList text))

/-- Whether a domain is exempt under a name. -/
def coversDomain (name domain : List Char) : Bool :=
  if name = domain || name = '.' :: domain then true
  else if name.isSuffixOf domain then
    name.head? = some '.' || (domain.take (domain.length - name.length)).getLast? = some '.'
  else name = ['*']

/-- Whether an exemption covers an address. -/
def coversAddress (exemption : Exemption) (bits number : Nat) : Bool :=
  match exemption with
  | .network width length address =>
      let rest := Nat.pow 2 (bits - length)
      width = bits && number / rest = address / rest
  | .domain _ => false

/-- Whether a host is exempt. Addresses are covered by networks and names by domains. -/
def covers (exemption : Exemption) (host : Url.Host) : Bool :=
  match host with
  | .ipv4 address => exemption.coversAddress 32 address
  | .ipv6 pieces => exemption.coversAddress 128 (ofPieces pieces)
  | .domain name =>
      match exemption with
      | .domain exempt => coversDomain exempt.toList name.toList
      | .network .. => false

/-- The exemptions of a list with commas. -/
def readList (text : String) : List Exemption :=
  if text.isEmpty then []
  else (Url.Host.splitAt ',' text.toList).map fun part => read (Text.trim part)

end Exemption

/-! ## Proxies by scheme -/

/-- The proxies of a program. -/
structure Proxies where
  http : Option Proxy
  https : Option Proxy
  exemptions : List Exemption
  deriving DecidableEq, Repr

namespace Proxies

/-- No proxies. -/
def none : Proxies := ⟨.none, .none, []⟩

/-- The names of the variables that say which proxies there are. -/
def consulted : List String :=
  ["ALL_PROXY", "all_proxy", "HTTP_PROXY", "http_proxy", "HTTPS_PROXY", "https_proxy", "NO_PROXY",
    "no_proxy", "REQUEST_METHOD"]

/-- The proxy that the first of some variables names whose value names one. -/
def named (environment : Environment) (names : List String) : Option Proxy :=
  names.findSome? fun name => (environment.get? name).bind Proxy.read

/-- The proxies that the environment names. A variable for one scheme counts more than one for all.
Where the program answers a request itself, its headers may have become variables, so that the one
for plain HTTP does not count. -/
def ofEnvironment (environment : Environment) : Proxies :=
  let all := named environment ["ALL_PROXY", "all_proxy"]
  let http :=
    if (environment.get? "REQUEST_METHOD").isSome then .none
    else named environment ["HTTP_PROXY", "http_proxy"]
  let https := named environment ["HTTPS_PROXY", "https_proxy"]
  let exempt := (environment.get? "NO_PROXY").or (environment.get? "no_proxy")
  ⟨http.or all, https.or all, Exemption.readList (exempt.getD "")⟩

/-- The proxy that requests for a URL go through. -/
def for? (proxies : Proxies) (url : Url) : Option Proxy :=
  let isExempt :=
    (url.host?.map fun host => proxies.exemptions.any fun exemption =>
      exemption.covers host).getD false
  if isExempt then .none
  else if url.scheme = "http" then proxies.http
  else if url.scheme = "https" then proxies.https
  else .none

end Proxies

end StreamingChat.Http
