import StreamingChat.Transducer

/-!
# Incremental decoding of UTF-8

Response bodies arrive in chunks that may end inside a character. A `Decoder` holds back the bytes
of an unfinished character, replaces each maximal ill-formed piece by one U+FFFD, and drops one
byte order mark at the front. `decode` is the same reading of a whole byte sequence at once.
-/

namespace StreamingChat.Text.Utf8

/-- A sequence that has begun and needs at least one more byte. -/
structure Unfinished where
  /-- The bits of the code point gathered so far. -/
  bits : Nat
  /-- The least byte that may come next. -/
  low : UInt8
  /-- The greatest byte that may come next. -/
  high : UInt8
  /-- How many continuation bytes follow the next one. -/
  more : Nat
  deriving DecidableEq, Repr

/-- The character that stands for an ill-formed piece. -/
def replacement : Char := '\uFFFD'

/-- The character that is dropped at the front of a text. -/
def byteOrderMark : Char := '\uFEFF'

/-- What a byte says at a character boundary. -/
inductive Lead where
  /-- It is a character of its own. -/
  | whole (character : Char)
  /-- It begins a longer sequence. -/
  | begins (sequence : Unfinished)
  /-- It cannot stand here. -/
  | wrong
  deriving DecidableEq, Repr

/-- Reads a byte at a character boundary. The ranges of second bytes leave out overlong forms,
surrogates and code points past U+10FFFF. -/
def lead (byte : UInt8) : Lead :=
  let value := byte.toNat
  if byte < 0x80 then .whole (Char.ofNat value)
  else if byte < 0xC2 then .wrong
  else if byte < 0xE0 then .begins ⟨value - 0xC0, 0x80, 0xBF, 0⟩
  else if byte == 0xE0 then .begins ⟨0, 0xA0, 0xBF, 1⟩
  else if byte == 0xED then .begins ⟨0xD, 0x80, 0x9F, 1⟩
  else if byte < 0xF0 then .begins ⟨value - 0xE0, 0x80, 0xBF, 1⟩
  else if byte == 0xF0 then .begins ⟨0, 0x90, 0xBF, 2⟩
  else if byte < 0xF4 then .begins ⟨value - 0xF0, 0x80, 0xBF, 2⟩
  else if byte == 0xF4 then .begins ⟨4, 0x80, 0x8F, 2⟩
  else .wrong

/-- Whether a byte may be the next one of an unfinished sequence. -/
def Unfinished.accepts (sequence : Unfinished) (byte : UInt8) : Bool :=
  sequence.low ≤ byte && byte ≤ sequence.high

/-- The bits of a sequence after one accepted byte. -/
def Unfinished.extend (sequence : Unfinished) (byte : UInt8) : Nat :=
  sequence.bits * 64 + (byte.toNat - 0x80)

/-- Reads one byte at a character boundary. -/
def begin (byte : UInt8) : Option Unfinished × List Char :=
  match lead byte with
  | .whole character => (none, [character])
  | .begins sequence => (some sequence, [])
  | .wrong => (none, [replacement])

/-- Reads one byte. A byte that does not continue an unfinished sequence ends it as one
ill-formed piece and is read again at the boundary. -/
def step (state : Option Unfinished) (byte : UInt8) : Option Unfinished × List Char :=
  match state with
  | none => begin byte
  | some sequence =>
      if sequence.accepts byte then
        match sequence.more with
        | 0 => (none, [Char.ofNat (sequence.extend byte)])
        | more + 1 => (some ⟨sequence.extend byte, 0x80, 0xBF, more⟩, [])
      else
        let next := begin byte
        (next.1, replacement :: next.2)

/-- The reader of bytes, before any byte order mark is dropped. -/
def reader : Transducer (Option Unfinished) UInt8 Char := ⟨step⟩

/-- What the end of the input adds: an unfinished sequence is one ill-formed piece. -/
def flush (state : Option Unfinished) : List Char :=
  if state.isSome then [replacement] else []

/-- Drops one byte order mark at the front. -/
def dropMark : List Char → List Char
  | [] => []
  | first :: rest => if first = byteOrderMark then rest else first :: rest

/-- The characters of a whole byte sequence, with any byte order mark. -/
def characters (bytes : List UInt8) : List Char :=
  let (state, characters) := reader.run none bytes
  characters ++ flush state

/-- The text of a whole byte sequence. -/
def decode (bytes : List UInt8) : String :=
  String.ofList (dropMark (characters bytes))

/-- A decoder between two chunks. -/
structure Decoder where
  /-- The unfinished sequence that is held back. -/
  held : Option Unfinished
  /-- Whether a first character has been read, so that no byte order mark can follow. -/
  begun : Bool
  /-- Whether the input has ended. -/
  ended : Bool
  deriving DecidableEq, Repr

/-- A decoder that has read nothing. -/
def Decoder.start : Decoder := ⟨none, false, false⟩

/-- Hands out characters, without a byte order mark when they are the first. -/
def Decoder.deliver (decoder : Decoder) (characters : List Char) : Decoder × String :=
  if decoder.begun then (decoder, String.ofList characters)
  else ({ decoder with begun := !characters.isEmpty }, String.ofList (dropMark characters))

/-- Decodes the next chunk. Nothing comes out once the input has ended. -/
def Decoder.feed (decoder : Decoder) (chunk : List UInt8) : Decoder × String :=
  if decoder.ended then (decoder, "")
  else
    let (held, characters) := reader.run decoder.held chunk
    { decoder with held }.deliver characters

/-- Ends the input and hands out what was held back. -/
def Decoder.finish (decoder : Decoder) : Decoder × String :=
  if decoder.ended then (decoder, "")
  else { decoder with held := none, ended := true }.deliver (flush decoder.held)

theorem Decoder.feed_of_ended {decoder : Decoder} (ended : decoder.ended = true)
    (chunk : List UInt8) : decoder.feed chunk = (decoder, "") := by
  simp [feed, ended]

theorem Decoder.finish_of_ended {decoder : Decoder} (ended : decoder.ended = true) :
    decoder.finish = (decoder, "") := by
  simp [finish, ended]

end StreamingChat.Text.Utf8
