import StreamingChat.Url.Reading

/-!
# Addresses of requests

Not every URL can be the address of a request: it has to name an authority of the stricter form that
a request line allows, and it may not be too long. Main function: `isAddressable`.
-/

namespace StreamingChat.Http

/-- What is known of an authority while its characters are read one after the other. -/
structure AuthorityScan where
  /-- The colons that may stand before a port. -/
  colons : Nat
  opened : Bool
  closed : Bool
  /-- Whether an encoded byte stands outside the user information. -/
  encoded : Bool
  /-- Whether nothing follows the user information yet. -/
  bare : Bool
  deriving DecidableEq, Repr

namespace AuthorityScan

/-- Nothing has been read. -/
def start : AuthorityScan := ⟨0, false, false, false, false⟩

/-- Whether a character may stand in an authority without being encoded. -/
def allows (character : Char) : Bool :=
  character.isAlphanum || "!$&'()*+,-.;=_~".toList.contains character

/-- Reads one character. -/
def step (scan : AuthorityScan) (character : Char) : Option AuthorityScan :=
  let next := { scan with bare := false }
  if character = ':' then
    if 8 ≤ scan.colons then none else some { next with colons := scan.colons + 1 }
  else if character = '[' then
    if scan.encoded || scan.opened then none else some { next with opened := true }
  else if character = ']' then
    if !scan.opened || scan.closed then none
    else some { next with closed := true, colons := 0, encoded := false }
  else if character = '@' then some { next with colons := 0, encoded := false, bare := true }
  else if character = '%' then some { next with encoded := true }
  else if allows character then some next
  else none

/-- Whether what has been read is a whole authority. -/
def isWhole (scan : AuthorityScan) : Bool :=
  scan.opened == scan.closed && scan.colons ≤ 1 && !scan.encoded && !scan.bare

end AuthorityScan

/-- Whether a text is an authority to which requests can be addressed. -/
def isAuthority (text : List Char) : Bool :=
  match text.foldlM AuthorityScan.step AuthorityScan.start with
  | some scan => scan.isWhole
  | none => false

/-- The greatest number of bytes of a URL to which a request can be addressed. -/
def maxUrlBytes : Nat := 65534

/-- The greatest length of the scheme of a URL to which a request can be addressed. -/
def maxScheme : Nat := 64

/-- Whether a request can be addressed to a URL: it has an authority, or it could be one. -/
def isAddressable (url : Url) : Bool :=
  let text := url.renderChars
  let isInside (character : Char) : Bool :=
    character ≠ '/' && character ≠ '?' && character ≠ '#'
  let named :=
    match text.drop (url.scheme.length + 1) with
    | '/' :: '/' :: rest =>
        let authority := rest.takeWhile isInside
        !authority.isEmpty && url.scheme.length ≤ maxScheme && isAuthority authority
    | _ => text.all isInside && isAuthority text
  named && url.render.utf8ByteSize ≤ maxUrlBytes

/-- The port that a URL names, or that of its scheme. -/
def portOf? (url : Url) : Option Nat :=
  match url.authority.bind Url.Authority.port with
  | some port => some port
  | none => Url.defaultPort? url.scheme

end StreamingChat.Http
