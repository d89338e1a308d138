import StreamingChat.Http.Head
import StreamingChat.Text.Hex

/-!
# Bodies of HTTP responses

The head of a response says how its body is framed: by a length, in chunks that each name their
own, or by the end of the connection. A `BodyState` follows a body while its bytes arrive.
-/

namespace StreamingChat.Http

/-- How far the reading of a body in chunks has come. -/
inductive ChunkPart where
  /-- Before the size of a chunk, where a digit must come. -/
  | start
  | size (value : Nat)
  /-- After the space that follows a size. -/
  | space (value : Nat)
  /-- In an extension, which is ignored. -/
  | extension (value : Nat)
  /-- Before the line feed that ends the line with a size. -/
  | sizeEnd (value : Nat)
  /-- In the data of a chunk, of which so many bytes are missing. -/
  | data (missing : Nat)
  | dataReturn
  | dataEnd
  /-- At the start of a line after the last chunk. -/
  | trailerStart
  | trailer
  | trailerEnd
  | finalEnd
  | over
  deriving DecidableEq, Repr

/-- A body in chunks. -/
structure Chunking where
  part : ChunkPart
  /-- How many bytes have stood in extensions. -/
  extension : Nat
  deriving DecidableEq, Repr

/-- How far the reading of a body has come. -/
inductive BodyState where
  /-- So many bytes are missing. -/
  | counted (missing : Nat)
  | chunked (chunking : Chunking)
  /-- The body lasts as long as the connection. -/
  | untilClose
  | complete
  /-- The framing of the body is broken. -/
  | broken
  deriving DecidableEq, Repr

namespace Head

/-- The least length that a body cannot have. -/
def lengthLimit : Nat := UInt64.size - 2

/-- Some bytes cut at commas. -/
def splitCommas (bytes : List UInt8) : List (List UInt8) :=
  bytes.foldr
    (fun byte parts =>
      if byte = 0x2C then [] :: parts
      else
        match parts with
        | part :: rest => (byte :: part) :: rest
        | [] => [[byte]])
    [[]]

/-- The number that digits write. -/
def readLength (bytes : List UInt8) : Option Nat :=
  if bytes.isEmpty then none
  else (bytes.mapM digit?).map (List.foldl (fun value digit => value * 10 + digit) 0)

/-- The length that a head names, however often. -/
def contentLength? (head : Head) : Option Nat :=
  let parts := (head.values "content-length").flatMap splitCommas
  match parts.mapM fun part => readLength (trimSpace part) with
  | some (first :: rest) =>
      if rest.all (· = first) && first < lengthLimit then some first else none
  | _ => none

/-- Whether the last coding of the body is the one in chunks. -/
def isChunked (head : Head) : Bool :=
  match (head.values "transfer-encoding").getLast? with
  | some value => ((splitCommas value).getLast?.map fun part => lowerAscii (trimSpace part)) =
      some "chunked"
  | none => false

/-- How the body begins. There is none when the head contradicts itself. -/
def bodyStart? (head : Head) : Option BodyState :=
  if head.status = 101 || head.status = 204 || head.status = 304 then some .complete
  else if !(head.values "transfer-encoding").isEmpty then
    if head.minorVersion = 0 then none
    else if head.isChunked then some (.chunked ⟨.start, 0⟩)
    else some .untilClose
  else if (head.values "content-length").isEmpty then some .untilClose
  else
    match head.contentLength? with
    | some 0 => some .complete
    | some length => some (.counted length)
    | none => none

end Head

namespace ChunkPart

/-- The value of a hexadecimal digit. -/
def hexDigit? (byte : UInt8) : Option Nat :=
  Text.hexValue (Char.ofNat byte.toNat)

/-- The part after the line with the size of a chunk. A chunk of size zero is the last one. -/
def afterSize (value : Nat) : ChunkPart :=
  if value = 0 then .trailerStart else .data value

/-- The part after the byte that follows a size, perhaps after space. -/
def stepAfterSize (value : Nat) (byte : UInt8) : Option ChunkPart :=
  if Head.isSpace byte then some (.space value)
  else if byte = 0x3B then some (.extension value)
  else if byte = 0x0D then some (.sizeEnd value)
  else none

/-- The given part after a byte, or none after any other. -/
def expect (wanted byte : UInt8) (next : ChunkPart) : Option ChunkPart :=
  if byte = wanted then some next else none

/-- The part after a byte that is not part of the data, if the byte may stand there. -/
def step (part : ChunkPart) (byte : UInt8) : Option ChunkPart :=
  match part with
  | .start => (hexDigit? byte).map .size
  | .size value =>
      match hexDigit? byte with
      | some digit =>
          if value * 16 + digit < UInt64.size then some (.size (value * 16 + digit)) else none
      | none => stepAfterSize value byte
  | .space value => stepAfterSize value byte
  | .extension value =>
      if byte = 0x0D then some (.sizeEnd value)
      else if byte = 0x0A then none
      else some (.extension value)
  | .sizeEnd value => expect 0x0A byte (afterSize value)
  | .data missing => some (.data missing)
  | .dataReturn => expect 0x0D byte .dataEnd
  | .dataEnd => expect 0x0A byte .start
  | .trailerStart => some (if byte = 0x0D then .finalEnd else .trailer)
  | .trailer => some (if byte = 0x0D then .trailerEnd else .trailer)
  | .trailerEnd => expect 0x0A byte .trailerStart
  | .finalEnd => expect 0x0A byte .over
  | .over => some .over

end ChunkPart

namespace Chunking

/-- The number of bytes in extensions that a body must not reach. -/
def extensionLimit : Nat := 16384

/-- The body after a byte that is not part of the data. Extensions may not grow without limit. -/
def step (chunking : Chunking) (byte : UInt8) : BodyState :=
  let extension :=
    match chunking.part with
    | .extension _ => if byte = 0x0D then chunking.extension else chunking.extension + 1
    | _ => chunking.extension
  match chunking.part.step byte with
  | none => .broken
  | some .over => .complete
  | some part => if extension < extensionLimit then .chunked ⟨part, extension⟩ else .broken

/-- The body after a byte of the data of a chunk, of which `missing` bytes are missing. -/
def stepData (chunking : Chunking) (missing : Nat) : BodyState :=
  .chunked { chunking with part := if missing ≤ 1 then .dataReturn else .data (missing - 1) }

end Chunking

namespace BodyState

/-- Reads one byte, and tells whether it is part of the data. -/
def step (state : BodyState) (byte : UInt8) : BodyState × List UInt8 :=
  match state with
  | .counted missing => (if missing ≤ 1 then .complete else .counted (missing - 1), [byte])
  | .chunked chunking =>
      match chunking.part with
      | .data missing => (chunking.stepData missing, [byte])
      | _ => (chunking.step byte, [])
  | .untilClose => (.untilClose, [byte])
  | .complete => (.complete, [])
  | .broken => (.broken, [])

/-- The state after the connection has been closed. -/
def close : BodyState → BodyState
  | .untilClose => .complete
  | .complete => .complete
  | _ => .broken

end BodyState

end StreamingChat.Http
