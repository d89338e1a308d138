import StreamingChat.Url.Label
import StreamingChat.Url.Percent
import StreamingChat.Text.Utf8.Strict

/-!
# Hosts

The host of a URL is a domain name, an address of version 4 written in one of many number formats,
or an address of version 6 between brackets. Schemes that are not special have opaque hosts.
-/

namespace StreamingChat.Url

/-- Why a URL is refused. -/
inductive Flaw where
  | emptyHost
  | invalidDomainName
  | invalidPort
  | invalidIpv4
  | invalidIpv6
  | invalidDomainCharacter
  | relativeWithoutBase
  /-- The base has an opaque path, to which nothing can be relative. -/
  | relativeToOpaque
  deriving DecidableEq, Repr

/-- How a refused URL is told. -/
def Flaw.message : Flaw → String
  | .emptyHost => "empty host"
  | .invalidDomainName => "invalid international domain name"
  | .invalidPort => "invalid port number"
  | .invalidIpv4 => "invalid IPv4 address"
  | .invalidIpv6 => "invalid IPv6 address"
  | .invalidDomainCharacter => "invalid domain character"
  | .relativeWithoutBase => "relative URL without a base"
  | .relativeToOpaque => "relative URL with a cannot-be-a-base base"

/-- The host of a URL. -/
inductive Host where
  /-- A domain name in lower case, or an opaque host as it is written. -/
  | domain (name : String)
  /-- An address of thirty-two bits. -/
  | ipv4 (address : Nat)
  /-- An address of eight pieces of sixteen bits. -/
  | ipv6 (pieces : List Nat)
  deriving DecidableEq, Repr

namespace Host

/-- A text cut at a character. -/
def splitAt (separator : Char) (text : List Char) : List (List Char) :=
  text.foldr
    (fun character parts =>
      if character = separator then [] :: parts
      else
        match parts with
        | part :: rest => (character :: part) :: rest
        | [] => [[character]])
    [[]]

/-- The value of digits in a base, each of which has the given values. -/
def numberIn (base : Nat) (digits : List Nat) : Nat :=
  digits.foldl (fun value digit => value * base + digit) 0

/-- A part of an address of version 4: decimal, hexadecimal after `0x`, or octal after `0`. -/
def ipv4Number (part : List Char) : Option Nat :=
  let (base, digits) :=
    match part with
    | '0' :: 'x' :: rest => (16, rest)
    | '0' :: 'X' :: rest => (16, rest)
    | '0' :: digit :: rest => (8, digit :: rest)
    | _ => (10, part)
  match digits.mapM Text.hexValue with
  | some values =>
      if part.isEmpty || values.any (base ≤ ·) then none else some (numberIn base values)
  | none => none

/-- Whether the last label of a domain is a number, so that the domain must be an address. -/
def endsInNumber (domain : List Char) : Bool :=
  let labels := (splitAt '.' domain).reverse
  let last? :=
    match labels with
    | [] :: rest => rest.head?
    | _ => labels.head?
  match last? with
  | some last => (!last.isEmpty && last.all Char.isDigit) || (ipv4Number last).isSome
  | none => false

/-- The address of version 4 that a domain stands for. The last part fills all that remains. -/
def readIpv4 (domain : List Char) : Except Flaw Nat :=
  let labels := splitAt '.' domain
  let parts := if labels.getLast? = some [] then labels.dropLast else labels
  match parts.mapM ipv4Number with
  | none => .error .invalidIpv4
  | some numbers =>
      let upper := numbers.dropLast
      let last := numbers.getLastD 0
      if 4 < numbers.length || upper.any (255 < ·) || Nat.pow 256 (4 - upper.length) ≤ last then
        .error .invalidIpv4
      else .ok (numberIn 256 upper * Nat.pow 256 (4 - upper.length) + last)

/-- The four parts of the dotted end of an address of version 6: decimal without leading zeros. -/
def dottedEnd (text : List Char) : Option (List Nat) :=
  let parts := splitAt '.' text
  let part (digits : List Char) : Option Nat :=
    if digits.isEmpty || !digits.all Char.isDigit then none
    else if digits.head? = some '0' && 1 < digits.length then none
    else
      let value := numberIn 10 (digits.map fun digit => digit.toNat - 0x30)
      if 255 < value then none else some value
  if parts.length = 4 then
    match parts.mapM part with
    | some [first, second, third, fourth] => some [first * 256 + second, third * 256 + fourth]
    | _ => none
  else none

/-- A piece of an address of version 6. -/
def ipv6Piece (text : List Char) : Option Nat :=
  if text.isEmpty || 4 < text.length then none
  else (text.mapM Text.hexValue).map (numberIn 16)

/-- The pieces between colons. A dotted end stands for two pieces, and only at the end. -/
def ipv6Pieces : List (List Char) → Option (List Nat)
  | [] => some []
  | [last] =>
      if last.contains '.' then dottedEnd last else (ipv6Piece last).map fun piece => [piece]
  | part :: rest => do
      let piece ← ipv6Piece part
      let pieces ← ipv6Pieces rest
      some (piece :: pieces)

/-- The place of the first two colons in a row. -/
def doubleColon? : List Char → Option (List Char × List Char)
  | ':' :: ':' :: rest => some ([], rest)
  | character :: rest =>
      (doubleColon? rest).map fun (before, after) => (character :: before, after)
  | [] => none

/-- The pieces of a text without two colons in a row, which may be empty. -/
def ipv6Side (text : List Char) : Option (List Nat) :=
  if text.isEmpty then some [] else ipv6Pieces (splitAt ':' text)

/-- The eight pieces of an address of version 6. Two colons stand for at least one zero piece. -/
def readIpv6 (text : List Char) : Except Flaw (List Nat) :=
  match doubleColon? text with
  | none =>
      match ipv6Pieces (splitAt ':' text) with
      | some pieces => if pieces.length = 8 then .ok pieces else .error .invalidIpv6
      | none => .error .invalidIpv6
  | some (before, after) =>
      match ipv6Side before, ipv6Side after with
      | some first, some last =>
          let zeros := 8 - (first.length + last.length)
          if zeros = 0 || before.contains '.' then .error .invalidIpv6
          else .ok (first ++ List.replicate zeros 0 ++ last)
      | _, _ => .error .invalidIpv6

/-- The characters that no domain may hold. -/
def isForbidden (character : Char) : Bool :=
  isControl character ||
    [' ', '#', '%', '/', ':', '<', '>', '?', '@', '[', '\\', ']', '^', '|'].contains character

/-- The characters that no opaque host may hold. -/
def isForbiddenOpaque (character : Char) : Bool :=
  ['\x00', '\t', '\n', '\r', ' ', '#', '/', ':', '<', '>', '?', '@', '[', '\\', ']', '^',
    '|'].contains character

/-- The domain name of a host. Names past ASCII are refused. -/
def domainName (text : List Char) : Except Flaw (List Char) :=
  match Text.Utf8.decodeStrict (percentDecode text) with
  | .error _ => .error .invalidDomainName
  | .ok name =>
      let characters := name.toList.map Char.toLower
      if characters.any fun character => isForbidden character || 0x80 ≤ character.toNat then
        .error .invalidDomainName
      else if !areValidLabels (splitAt '.' characters) then .error .invalidDomainName
      else if characters.isEmpty then .error .emptyHost
      else .ok characters

/-- The address between brackets. -/
def bracketed (text : List Char) : Except Flaw Host :=
  if text.getLast? = some ']' then (readIpv6 text.dropLast).map .ipv6 else .error .invalidIpv6

/-- Reads the host of a special scheme. -/
def read (text : List Char) : Except Flaw Host :=
  match text with
  | '[' :: rest => bracketed rest
  | _ => do
      let name ← domainName text
      if endsInNumber name then .ok (.ipv4 (← readIpv4 name))
      else .ok (.domain (String.ofList name))

/-- Reads the host of a scheme that is not special. -/
def readOpaque (text : List Char) : Except Flaw Host :=
  match text with
  | '[' :: rest => bracketed rest
  | _ =>
      if text.any isForbiddenOpaque then .error .invalidDomainCharacter
      else .ok (.domain (String.ofList (percentEncode isControl text)))

/-- The number of zero pieces at the front. -/
def zeroRun (pieces : List Nat) : Nat :=
  (pieces.takeWhile (· = 0)).length

/-- The start and the length of the first longest run of zero pieces. -/
def longestZeros : Nat → List Nat → Nat × Nat
  | _, [] => (0, 0)
  | start, piece :: rest =>
      let here := zeroRun (piece :: rest)
      let (laterStart, later) := longestZeros (start + 1) rest
      if later ≤ here then (start, here) else (laterStart, later)

/-- The pieces of an address between colons. -/
def renderPieces (pieces : List Nat) : List Char :=
  ((pieces.map (Nat.toDigits 16)).intersperse [':']).flatten

/-- An address of version 6 in its shortest form. -/
def renderIpv6 (pieces : List Nat) : List Char :=
  let (start, length) := longestZeros 0 pieces
  if length < 2 then renderPieces pieces
  else renderPieces (pieces.take start) ++ [':', ':'] ++ renderPieces (pieces.drop (start + length))

/-- The written form of a host. -/
def render : Host → List Char
  | .domain name => name.toList
  | .ipv4 address =>
      (([address / 16777216, address / 65536 % 256, address / 256 % 256, address % 256].map
        (Nat.toDigits 10)).intersperse ['.']).flatten
  | .ipv6 pieces => '[' :: (renderIpv6 pieces ++ [']'])

/-- The name or the address under which the host is looked up. -/
def lookupName : Host → String
  | .ipv6 pieces => String.ofList (renderIpv6 pieces)
  | host => String.ofList host.render

end Host

end StreamingChat.Url
