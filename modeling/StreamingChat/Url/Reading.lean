import StreamingChat.Url.Basic

/-!
# Reading URLs

A text is read as a URL on its own or relative to another one. Spaces and controls at its ends, and
tabs and line ends anywhere, do not count. Main functions: `Url.read` and `Url.join`.
-/

namespace StreamingChat.Url

/-- Whether a character is a line end or a tab. -/
def isIgnored (character : Char) : Bool :=
  character = '\t' || character = '\n' || character = '\r'

/-- Whether a character is a space or a control. -/
def isC0OrSpace (character : Char) : Bool :=
  character.toNat ≤ 0x20

/-- The characters of a text that count. -/
def significant (text : String) : List Char :=
  let front := text.toList.dropWhile isC0OrSpace
  let trimmed := (front.reverse.dropWhile isC0OrSpace).reverse
  trimmed.filter fun character => !isIgnored character

/-- Whether a character may stand in a scheme after its first letter. -/
def isSchemeChar (character : Char) : Bool :=
  character.isAlphanum || character = '+' || character = '-' || character = '.'

/-- The scheme of a text and what follows its colon. -/
def splitScheme? (text : List Char) : Option (String × List Char) :=
  match text.head?, text.dropWhile isSchemeChar with
  | some first, ':' :: rest =>
      if first.isAlpha then
        some (String.ofList ((text.takeWhile isSchemeChar).map Char.toLower), rest)
      else none
  | _, _ => none

/-- Whether a character is a slash in a scheme. -/
def isSlash (kind : SchemeKind) (character : Char) : Bool :=
  character = '/' || (kind.isSpecial && character = '\\')

/-- Whether a character ends an authority. -/
def endsAuthority (kind : SchemeKind) (character : Char) : Bool :=
  isSlash kind character || character = '?' || character = '#'

/-- Whether a character ends a path. -/
def endsPath (character : Char) : Bool :=
  character = '?' || character = '#'

/-! ## Paths -/

/-- Whether a segment stands for the one above. -/
def isDoubleDot (segment : List Char) : Bool :=
  let lower := String.ofList (segment.map Char.toLower)
  ["..", "%2e.", ".%2e", "%2e%2e"].contains lower

/-- Whether a segment stands for the present one. -/
def isSingleDot (segment : List Char) : Bool :=
  let lower := String.ofList (segment.map Char.toLower)
  [".", "%2e"].contains lower

/-- Whether a segment is a letter of a drive. -/
def isDriveLetter (segment : List Char) : Bool :=
  match segment with
  | [letter, mark] => letter.isAlpha && (mark = ':' || mark = '|')
  | _ => false

/-- Whether a segment is a letter of a drive in its normal form. -/
def isNormalDriveLetter (segment : List Char) : Bool :=
  isDriveLetter segment && segment.getLast? = some ':'

/-- Whether a segment begins as a letter of a drive, up to its end or a backslash. Nothing goes
above such a segment. -/
def beginsAsDrive (segment : List Char) : Bool :=
  isDriveLetter (segment.take 2) && (segment.length = 2 || segment[2]? = some '\\')

/-- Whether a reference begins with a letter of a drive as its first segment. -/
def beginsWithDriveLetter (text : List Char) : Bool :=
  isDriveLetter (text.take 2) &&
    (text[2]?.map fun mark => ['/', '\\', '?', '#'].contains mark).getD true

/-- The segments without the last one, unless nothing goes above it. -/
def shorten (done : List String) : List String :=
  match done.getLast? with
  | some last => if beginsAsDrive last.toList then done else done.dropLast
  | none => []

/-- A segment in its normal form, given whether it is the first one. -/
def normalSegment (kind : SchemeKind) (isFirst : Bool) (segment : List Char) : List Char :=
  match segment with
  | [letter, '|'] =>
      if kind = .file && isFirst && letter.isAlpha then [letter, ':'] else segment
  | _ => segment

/-- Adds a segment to those already `done`. Dot segments are resolved; at the end of the path they
leave an empty segment. -/
def addSegment (kind : SchemeKind) (done : List String) (segment : List Char) (isLast : Bool) :
    List String :=
  let encoded := percentEncode pathSet segment
  if isDoubleDot encoded then shorten done ++ if isLast then [""] else []
  else if isSingleDot encoded then done ++ if isLast then [""] else []
  else done ++ [String.ofList (normalSegment kind done.isEmpty encoded)]

/-- Adds the segments of a path whose present segment has the characters `current`, last first. -/
def addSegments (kind : SchemeKind) (done : List String) (current : List Char) :
    List Char → List String
  | [] => addSegment kind done current.reverse true
  | character :: rest =>
      if isSlash kind character then
        addSegments kind (addSegment kind done current.reverse false) [] rest
      else addSegments kind done (character :: current) rest

/-- The segments without empty ones in front of others. -/
def dropEmpty : List String → List String
  | first :: second :: rest =>
      if first.isEmpty then dropEmpty (second :: rest) else first :: second :: rest
  | short => short

/-- The path that continues some segments, the last of which may have begun already, and what
follows it. -/
def continuePath (kind : SchemeKind) (done : List String) (begun : List Char)
    (text : List Char) : List String × List Char :=
  let path := text.takeWhile fun character => !endsPath character
  let rest := text.dropWhile fun character => !endsPath character
  (addSegments kind done begun.reverse path, rest)

/-- The path after an authority. Only a scheme that is not special may have none. -/
def pathAfterAuthority (kind : SchemeKind) (text : List Char) : List String × List Char :=
  match text with
  | [] => if kind.isSpecial then ([""], []) else ([], [])
  | first :: rest =>
      if isSlash kind first then continuePath kind [] [] rest
      else if endsPath first && !kind.isSpecial then ([], text)
      else continuePath kind [] [] text

/-! ## Queries and fragments -/

/-- Completes a URL with the query and the fragment that follow its path. -/
def withEnd (url : Url) (text : List Char) : Url :=
  let isMark (character : Char) : Bool := character = '#'
  let query := text.takeWhile fun character => !isMark character
  let fragment := text.dropWhile fun character => !isMark character
  let set := if url.kind.isSpecial then specialQuerySet else querySet
  { url with
    query :=
      match query with
      | '?' :: rest => some (String.ofList (percentEncode set rest))
      | _ => none
    fragment :=
      match fragment with
      | _ :: rest => some (String.ofList (percentEncode fragmentSet rest))
      | [] => none }

/-! ## Authorities -/

/-- The user name and the password of a text, each in its normal form. -/
def userinfo (text : List Char) : String × String :=
  let isColon (character : Char) : Bool := character = ':'
  let name := text.takeWhile fun character => !isColon character
  let password := (text.dropWhile fun character => !isColon character).drop 1
  let encoded (part : List Char) : String := String.ofList (percentEncode userinfoSet part)
  (encoded name, encoded password)

/-- Cuts a text at its last at sign. -/
def splitUserinfo? (authority : List Char) : Option (List Char × List Char) :=
  let isSign (character : Char) : Bool := character = '@'
  let after := (authority.reverse.takeWhile fun character => !isSign character).reverse
  if after.length = authority.length then none
  else some (authority.take (authority.length - after.length - 1), after)

/-- Cuts a text where its host ends: at a colon outside brackets, or where the authority ends. -/
def splitHost (kind : SchemeKind) (bracket : Bool) : List Char → List Char × List Char
  | [] => ([], [])
  | character :: rest =>
      if endsAuthority kind character || (character = ':' && !bracket) then ([], character :: rest)
      else
        let inside := if character = '[' then true else if character = ']' then false else bracket
        let (host, after) := splitHost kind inside rest
        (character :: host, after)

/-- The port after a colon, if it is not the default one, and what follows it. -/
def readPort (scheme : String) (text : List Char) : Except Flaw (Option Nat × List Char) :=
  let digits := text.takeWhile Char.isDigit
  let rest := text.dropWhile Char.isDigit
  let value := digits.foldl (fun value digit => value * 10 + (digit.toNat - 0x30)) 0
  let ended :=
    match rest with
    | [] => true
    | character :: _ => character = '/' || character = '\\' || endsPath character
  if 65535 < value || !ended then .error .invalidPort
  else .ok (if digits.isEmpty || defaultPort? scheme = some value then none else some value, rest)

/-- Reads a host and a port. -/
def readHostAndPort (scheme : String) (kind : SchemeKind) (text : List Char) :
    Except Flaw (Option Host × Option Nat × List Char) := do
  let (hostText, rest) := splitHost kind false text
  if hostText.isEmpty then
    if kind.isSpecial || rest.head? = some ':' then .error .emptyHost else .ok (none, none, rest)
  else
    let host ← if kind.isSpecial then Host.read hostText else Host.readOpaque hostText
    match rest with
    | ':' :: afterColon =>
        let (port, rest) ← readPort scheme afterColon
        .ok (some host, port, rest)
    | _ => .ok (some host, none, rest)

/-- Reads a URL after its scheme and two slashes. -/
def readAfterSlashes (scheme : String) (text : List Char) : Except Flaw Url := do
  let kind := SchemeKind.ofName scheme
  let authority := text.takeWhile fun character => !endsAuthority kind character
  let rest := text.dropWhile fun character => !endsAuthority kind character
  let (info, hostText) ←
    match splitUserinfo? authority with
    | none => .ok ([], text)
    | some (info, after) =>
        if info.isEmpty && after.isEmpty && !rest.isEmpty then .error .emptyHost
        else .ok (info, after ++ rest)
  let (username, password) := userinfo info
  let (host, port, rest) ← readHostAndPort scheme kind hostText
  if host.isNone && !(username.isEmpty && password.isEmpty) then .error .emptyHost
  else
    let (path, rest) := pathAfterAuthority kind rest
    .ok (withEnd ⟨scheme, some ⟨username, password, host, port⟩, .segments path, none, none⟩ rest)

/-! ## Files -/

/-- The URL of a file, completed with what follows its path. -/
def fileUrl (host : Option Host) (path : List String) (text : List Char) : Url :=
  withEnd ⟨"file", some ⟨"", "", host, none⟩, .segments (dropEmpty path), none, none⟩ text

/-- The host of a file. The local host is not named. -/
def fileHost (text : List Char) : Except Flaw (Option Host) := do
  if text.isEmpty then .ok none
  else
    let host ← Host.read text
    .ok (if host = .domain "localhost" then none else some host)

/-- Reads the URL of a file after two slashes. A letter of a drive is no host, and where the path on
a named host begins with one, the host does not count. -/
def readFileAfterSlashes (text : List Char) : Except Flaw Url := do
  let hostText := text.takeWhile fun character => !endsAuthority .file character
  if isDriveLetter hostText then
    let (path, after) := continuePath .file [] [] text
    .ok (fileUrl none path after)
  else
    let pathText := text.dropWhile fun character => !endsAuthority .file character
    match ← fileHost hostText with
    | none =>
        let (path, after) := continuePath .file [] [] pathText
        .ok (fileUrl none path after)
    | some host =>
        let (path, after) := pathAfterAuthority .file pathText
        let onDrive := (path.head?.map fun first => isNormalDriveLetter first.toList).getD false
        .ok (fileUrl (if onDrive then none else some host) path after)

/-- Reads the URL of a file after one slash. Unless a drive is named, it is on the drive or the host
of the base. -/
def readFileAfterSlash (base : Option Url) (text : List Char) : Url :=
  let base := base.filter fun _ => !beginsWithDriveLetter text
  let drive := (base.bind fun base => base.segments.head?).filter fun first =>
    isNormalDriveLetter first.toList
  let (path, after) := continuePath .file drive.toList [] text
  fileUrl (if drive.isSome then none else base.bind host?) path after

/-- Reads a path relative to that of a file. A letter of a drive stays: the path goes on below it
when it is the only segment, and right after it when it is the last of more. -/
def readFileRelative (base : Url) (text : List Char) : Url :=
  let last := (base.segments.getLast?.getD "").toList
  let (path, after) :=
    if !isNormalDriveLetter last then continuePath .file base.segments.dropLast [] text
    else if base.segments.length = 1 then continuePath .file base.segments [] text
    else continuePath .file base.segments.dropLast last text
  withEnd { base with path := .segments (dropEmpty path) } after

/-- Reads a file URL after its scheme, relative to another one if there is one. -/
def readFile (base : Option Url) (text : List Char) : Except Flaw Url :=
  match text with
  | first :: rest =>
      if isSlash .file first then
        match rest with
        | second :: afterSlashes =>
            if isSlash .file second then readFileAfterSlashes afterSlashes
            else .ok (readFileAfterSlash base rest)
        | [] => .ok (readFileAfterSlash base [])
      else
        match base.filter fun _ => !beginsWithDriveLetter text with
        | none =>
            let (path, after) := continuePath .file [] [] text
            .ok (fileUrl none path after)
        | some base =>
            if first = '#' then .ok { withEnd base text with query := base.query }
            else if first = '?' then .ok (withEnd base text)
            else .ok (readFileRelative base text)
  | [] =>
      match base with
      | some base => .ok { base with fragment := none }
      | none => .ok (fileUrl none [""] [])

/-! ## Relative references -/

/-- Reads a reference relative to a base with segments. -/
def readRelative (base : Url) (text : List Char) : Except Flaw Url :=
  match text with
  | [] => .ok { base with fragment := none }
  | first :: rest =>
      if first = '#' then .ok { withEnd base text with query := base.query }
      else if first = '?' then .ok (withEnd base text)
      else if first = '/' || first = '\\' then
        match rest with
        | second :: _ =>
            if second = '/' || second = '\\' then
              let isAnySlash (character : Char) : Bool := character = '/' || character = '\\'
              if first = '/' && second = '/' then readAfterSlashes base.scheme (rest.drop 1)
              else readAfterSlashes base.scheme (rest.dropWhile isAnySlash)
            else
              let (path, after) := continuePath base.kind [] [] rest
              .ok (withEnd { base with path := .segments path } after)
        | [] => .ok (withEnd { base with path := .segments [""] } [])
      else
        let (path, after) := continuePath base.kind base.segments.dropLast [] text
        .ok (withEnd { base with path := .segments path } after)

/-- Reads a URL after its scheme. -/
def readAfterScheme (base : Option Url) (scheme : String) (text : List Char) :
    Except Flaw Url :=
  let isAnySlash (character : Char) : Bool := character = '/' || character = '\\'
  match SchemeKind.ofName scheme with
  | .file => readFile (base.filter fun base => base.scheme = "file") text
  | .special =>
      let slashes := (text.takeWhile isAnySlash).length
      match base.filter fun base => base.scheme = scheme && slashes < 2 with
      | some base => readRelative base text
      | none => readAfterSlashes scheme (text.dropWhile isAnySlash)
  | .other =>
      match text with
      | '/' :: '/' :: rest => readAfterSlashes scheme rest
      | '/' :: rest =>
          let (path, after) := continuePath .other [] [] rest
          .ok (withEnd ⟨scheme, none, .segments path, none, none⟩ after)
      | _ =>
          let path := text.takeWhile fun character => !endsPath character
          let after := text.dropWhile fun character => !endsPath character
          let encoded := String.ofList (percentEncode isControl path)
          .ok (withEnd ⟨scheme, none, .opaqueText encoded, none, none⟩ after)

/-- Reads a URL on its own. -/
def read (text : String) : Except Flaw Url :=
  match splitScheme? (significant text) with
  | some (scheme, rest) => readAfterScheme none scheme rest
  | none => .error .relativeWithoutBase

/-- Reads a URL that may be relative to a base. -/
def join (base : Url) (text : String) : Except Flaw Url :=
  let characters := significant text
  match splitScheme? characters with
  | some (scheme, rest) => readAfterScheme (some base) scheme rest
  | none =>
      if characters.head? = some '#' then
        .ok { withEnd base characters with query := base.query }
      else if base.isOpaque then .error .relativeToOpaque
      else if base.kind = .file then readFile (some base) characters
      else readRelative base characters

end StreamingChat.Url
