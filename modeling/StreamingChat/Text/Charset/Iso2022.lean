import StreamingChat.Text.Charset.EastAsian

/-!
# ISO-2022-JP

A charset of seven bits in which escape sequences switch between sets of characters. Two switches
with nothing between them are ill-formed, and so is an escape that begins no sequence, whose bytes
are then read in the present set.
-/

namespace StreamingChat.Text.Charset.Iso2022

/-- A set of characters. -/
inductive CharacterSet where
  | ascii
  /-- ASCII with a yen sign and an overline. -/
  | roman
  /-- Kana of half width. -/
  | kana
  /-- The characters of JIS X 0208, which have two bytes. -/
  | kanji
  deriving DecidableEq, Repr

/-- The set that an escape sequence switches to, given its last two bytes. -/
def CharacterSet.ofSequence? (first second : UInt8) : Option CharacterSet :=
  if first = 0x28 then
    if second = 0x42 then some .ascii
    else if second = 0x4A then some .roman
    else if second = 0x49 then some .kana
    else none
  else if second = 0x40 || second = 0x42 then some .kanji
  else none

/-- How much of an escape sequence has been read. -/
inductive Escape where
  | none
  | begun
  | marked (mark : UInt8)
  deriving DecidableEq, Repr

/-- What is known between two bytes. -/
structure State where
  set : CharacterSet
  escape : Escape
  /-- The first byte of a pair. -/
  first : Option UInt8
  /-- Whether nothing has been read since the last switch. -/
  switched : Bool
  deriving DecidableEq, Repr

/-- Where every text begins. -/
def State.start : State := ⟨.ascii, .none, none, false⟩

/-- Reads a byte of a set in which characters have one byte. -/
def single? (set : CharacterSet) (byte : UInt8) : Option Char :=
  match set with
  | .kana => if within 0x21 0x5F byte then some (halfWidthKana 0x21 byte) else none
  | .roman =>
      if byte = 0x5C then some '¥'
      else if byte = 0x7E then some '‾'
      else if byte < 0x80 && byte ≠ 0x0E && byte ≠ 0x0F then some (Char.ofNat byte.toNat)
      else none
  | _ =>
      if byte < 0x80 && byte ≠ 0x0E && byte ≠ 0x0F then some (Char.ofNat byte.toNat) else none

/-- The character of a pair of bytes. -/
def pair? (first second : UInt8) : Option Char :=
  if within 0x21 0x7E second then
    JisX0208.char? ((first.toNat - 0x21) * 94 + (second.toNat - 0x21))
  else none

/-- What stands for a byte or a pair: its character, or the sign of an ill-formed piece. -/
def shown (character : Option Char) : List Char :=
  [character.getD Utf8.replacement]

/-- Reads a byte outside escape sequences. -/
def State.read (state : State) (byte : UInt8) : State × List Char :=
  if byte = 0x1B then
    ({ state with escape := .begun, first := none },
      if state.first.isSome then [Utf8.replacement] else [])
  else
    match state.first, state.set with
    | some first, _ => ({ state with first := none }, shown (pair? first byte))
    | none, .kanji =>
        if within 0x21 0x7E byte then ({ state with first := some byte, switched := false }, [])
        else ({ state with switched := false }, [Utf8.replacement])
    | none, set => ({ state with switched := false }, shown (single? set byte))

/-- Gives up an escape sequence: it is ill-formed, and the bytes after the escape are read in the
present set. -/
def State.giveUp (state : State) (bytes : List UInt8) : State × List Char :=
  bytes.foldl
    (fun (result : State × List Char) byte =>
      let next := result.1.read byte
      (next.1, result.2 ++ next.2))
    ({ state with escape := .none, switched := false }, [Utf8.replacement])

/-- Reads a byte. -/
def State.step (state : State) (byte : UInt8) : State × List Char :=
  match state.escape with
  | .none => state.read byte
  | .begun =>
      if byte = 0x24 || byte = 0x28 then ({ state with escape := .marked byte }, [])
      else state.giveUp [byte]
  | .marked mark =>
      match CharacterSet.ofSequence? mark byte with
      | some set => (⟨set, .none, none, true⟩, if state.switched then [Utf8.replacement] else [])
      | none => state.giveUp [mark, byte]

/-- What the end of the text adds. -/
def State.flush (state : State) : List Char :=
  let (final, characters) :=
    match state.escape with
    | .none => (state, [])
    | .begun => state.giveUp []
    | .marked mark => state.giveUp [mark]
  characters ++ if final.first.isSome then [Utf8.replacement] else []

/-- The reader of bytes. -/
def reader : Transducer State UInt8 Char := ⟨State.step⟩

/-- The text of some bytes. -/
def decode (bytes : List UInt8) : String :=
  let (final, characters) := reader.run State.start bytes
  String.ofList (characters ++ final.flush)

end StreamingChat.Text.Charset.Iso2022
