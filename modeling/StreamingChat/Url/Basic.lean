import StreamingChat.Url.Host

/-!
# URLs

A URL has a scheme, perhaps an authority, a path, perhaps a query and perhaps a fragment, all in
their normal form. The path is a list of segments, or an opaque text to which nothing is relative.
-/

namespace StreamingChat.Url

/-- What is known about a scheme. -/
inductive SchemeKind where
  /-- Files, whose host may be missing. -/
  | file
  /-- A scheme that always has a host, and in which a backslash is a slash. -/
  | special
  | other
  deriving DecidableEq, Repr

/-- The kind of a scheme. -/
def SchemeKind.ofName (name : String) : SchemeKind :=
  if name = "file" then .file
  else if ["http", "https", "ws", "wss", "ftp"].contains name then .special
  else .other

/-- Whether a backslash is a slash. -/
def SchemeKind.isSpecial (kind : SchemeKind) : Bool :=
  kind ≠ .other

/-- The port that a scheme uses unless another one is named. -/
def defaultPort? (scheme : String) : Option Nat :=
  if scheme = "http" ∨ scheme = "ws" then some 80
  else if scheme = "https" ∨ scheme = "wss" then some 443
  else if scheme = "ftp" then some 21
  else none

/-- The path of a URL. -/
inductive Path where
  /-- A path of segments, each of which follows a slash. -/
  | segments (segments : List String)
  | opaqueText (text : String)
  deriving DecidableEq, Repr

/-- Who and where: the part of a URL after two slashes. -/
structure Authority where
  username : String
  /-- Empty when there is none. -/
  password : String
  /-- Missing when nothing is named. -/
  host : Option Host
  port : Option Nat
  deriving DecidableEq, Repr

end StreamingChat.Url

namespace StreamingChat

/-- A URL. -/
structure Url where
  scheme : String
  authority : Option Url.Authority
  path : Url.Path
  query : Option String
  fragment : Option String
  deriving DecidableEq, Repr

namespace Url

/-- The written form of a path. -/
def Path.render : Path → List Char
  | .segments parts => parts.flatMap fun part => '/' :: part.toList
  | .opaqueText text => text.toList

/-- The written form of an authority. -/
def Authority.render (authority : Authority) : List Char :=
  let password :=
    if authority.password.isEmpty then [] else ':' :: authority.password.toList
  let userinfo := authority.username.toList ++ password
  let port :=
    match authority.port with
    | some port => ':' :: Nat.toDigits 10 port
    | none => []
  userinfo ++ (if userinfo.isEmpty then [] else ['@']) ++
    (authority.host.map Host.render).getD [] ++ port

/-- The kind of the scheme. -/
def kind (url : Url) : SchemeKind := SchemeKind.ofName url.scheme

/-- The host. -/
def host? (url : Url) : Option Host := url.authority.bind Authority.host

/-- Whether nothing can be relative to the URL. -/
def isOpaque (url : Url) : Bool :=
  match url.path with
  | .opaqueText _ => true
  | .segments _ => false

/-- The segments of the path. -/
def segments (url : Url) : List String :=
  match url.path with
  | .segments parts => parts
  | .opaqueText _ => []

/-- A part after its mark. -/
def renderPart (mark : Char) : Option String → List Char
  | some text => mark :: text.toList
  | none => []

/-- The characters of a URL. A path that could be taken for an authority has a dot in front. -/
def renderChars (url : Url) : List Char :=
  let path := url.path.render
  let front :=
    match url.authority with
    | some authority => '/' :: '/' :: authority.render
    | none => if ['/', '/'].isPrefixOf path then ['/', '.'] else []
  url.scheme.toList ++ ':' :: (front ++ path ++ renderPart '?' url.query ++
    renderPart '#' url.fragment)

/-- The written form of a URL. -/
def render (url : Url) : String :=
  String.ofList url.renderChars

/-- What a request for the URL names as its target: the path and the query. -/
def requestTarget (url : Url) : String :=
  String.ofList (url.path.render ++ renderPart '?' url.query)

end Url

end StreamingChat
