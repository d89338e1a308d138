import StreamingChat.Text.Charset.Big5
import StreamingChat.Text.Charset.Gb18030
import StreamingChat.Text.Charset.JisX0208
import StreamingChat.Text.Charset.JisX0212
import StreamingChat.Text.Charset.KsX1001
import StreamingChat.Text.Charset.MultiByte

/-!
# Charsets of East Asia

Each of these charsets agrees with ASCII below 0x80. Two or more bytes name a place in a table of
characters; where they name none, they are ill-formed.
-/

namespace StreamingChat.Text.Charset

/-- Whether a byte lies in a range. -/
def within (low high : UInt8) (byte : UInt8) : Bool :=
  low ≤ byte && byte ≤ high

/-- The character of a byte that stands for itself. -/
def plain (byte : UInt8) : Meaning := .characters [Char.ofNat byte.toNat]

/-- The half-width kana of a byte, the first one of which is given. -/
def halfWidthKana (first byte : UInt8) : Char :=
  Char.ofNat (0xFF61 + (byte.toNat - first.toNat))

/-- The place of a second byte in its row. The second bytes lie in two ranges, of which the lower
one ends at 0x7E and the upper one begins at `upper`. -/
def secondPlace (upper : UInt8) (byte : UInt8) : Nat :=
  if byte < 0x7F then byte.toNat - 0x40 else byte.toNat - upper.toNat + 63

/-! ## Shift_JIS -/

/-- The character of a pair of bytes in Shift_JIS. Some rows are for private use. -/
def shiftJisPair (first second : UInt8) : Option Char :=
  if within 0x40 0x7E second || within 0x80 0xFC second then
    let row := first.toNat - if first < 0xA0 then 0x81 else 0xC1
    let place := row * 188 + secondPlace 0x80 second
    if 8836 ≤ place && place ≤ 10715 then some (Char.ofNat (0xE000 + (place - 8836)))
    else JisX0208.char? place
  else none

/-- Shift_JIS, in which kana of half width have one byte. -/
def MultiByte.shiftJis : MultiByte where
  meaning
    | [byte] =>
        if byte ≤ 0x80 then plain byte
        else if within 0xA1 0xDF byte then .characters [halfWidthKana 0xA1 byte]
        else if within 0x81 0x9F byte || within 0xE0 0xFC byte then .unfinished
        else .illFormed 0
    | [first, second] => .ofPair ((shiftJisPair first second).map fun pair => [pair]) second
    | _ => .illFormed 0

/-! ## EUC-JP -/

/-- The place of two bytes that lie in the upper half, counted through rows of 94. -/
def upperPlace? (first second : UInt8) : Option Nat :=
  if within 0xA1 0xFE first && within 0xA1 0xFE second then
    some ((first.toNat - 0xA1) * 94 + (second.toNat - 0xA1))
  else none

/-- The character of a pair of bytes in EUC-JP. -/
def eucJpPair (first second : UInt8) : Option Char :=
  if first = 0x8E then
    if within 0xA1 0xDF second then some (halfWidthKana 0xA1 second) else none
  else (upperPlace? first second).bind JisX0208.char?

/-- EUC-JP, in which characters of JIS X 0212 have a third byte in front. -/
def MultiByte.eucJp : MultiByte where
  meaning
    | [byte] =>
        if byte < 0x80 then plain byte
        else if byte = 0x8E || byte = 0x8F || within 0xA1 0xFE byte then .unfinished
        else .illFormed 0
    | [first, second] =>
        if first = 0x8F && within 0xA1 0xFE second then .unfinished
        else .ofPair ((eucJpPair first second).map fun pair => [pair]) second
    | [_, second, third] =>
        match (upperPlace? second third).bind JisX0212.char? with
        | some character => .characters [character]
        | none => .illFormed (if third < 0x80 then 1 else 2)
    | _ => .illFormed 0

/-! ## EUC-KR -/

/-- The place of a pair of bytes among the pairs for further syllables. The first 32 rows hold 178
of them, in three ranges of second bytes; the others hold 84. -/
def furtherPlace? (first second : UInt8) : Option Nat :=
  let cell? :=
    if within 0x41 0x5A second then some (second.toNat - 0x41)
    else if within 0x61 0x7A second then some (second.toNat - 0x61 + 26)
    else if within 0x81 0xFE second then some (second.toNat - 0x81 + 52)
    else none
  let row := first.toNat - 0x81
  cell?.bind fun cell =>
    if row < 32 then some (row * 178 + cell)
    else if cell < 84 then some (32 * 178 + (row - 32) * 84 + cell)
    else none

/-- The character of a pair of bytes in EUC-KR. -/
def eucKrPair (first second : UInt8) : Option Char :=
  match upperPlace? first second with
  | some place => KsX1001.char? place
  | none => (furtherPlace? first second).bind fun place => KsX1001.furtherSyllables[place]?

/-- EUC-KR, with all syllables. -/
def MultiByte.eucKr : MultiByte where
  meaning
    | [byte] =>
        if byte < 0x80 then plain byte
        else if within 0x81 0xFE byte then .unfinished
        else .illFormed 0
    | [first, second] => .ofPair ((eucKrPair first second).map fun pair => [pair]) second
    | _ => .illFormed 0

/-! ## Big5 -/

/-- The characters of a pair of bytes in Big5. -/
def big5Pair (first second : UInt8) : Option (List Char) :=
  if within 0x40 0x7E second || within 0xA1 0xFE second then
    Big5.chars? ((first.toNat - 0x81) * 157 + secondPlace 0xA1 second)
  else none

/-- Big5. -/
def MultiByte.big5 : MultiByte where
  meaning
    | [byte] =>
        if byte < 0x80 then plain byte
        else if within 0x81 0xFE byte then .unfinished
        else .illFormed 0
    | [first, second] => .ofPair (big5Pair first second) second
    | _ => .illFormed 0

/-! ## GB 18030 -/

/-- The character of a pair of bytes in GB 18030. -/
def gb18030Pair (first second : UInt8) : Option Char :=
  if within 0x40 0x7E second || within 0x80 0xFE second then
    Gb18030.char? ((first.toNat - 0x81) * 190 + secondPlace 0x80 second)
  else none

/-- The character of four bytes in GB 18030, which count in turns of 126 and of ten. -/
def gb18030Four (first second third fourth : UInt8) : Option Char :=
  let pair (high low : UInt8) : Nat := (high.toNat - 0x81) * 10 + (low.toNat - 0x30)
  if within 0x30 0x39 fourth then
    Gb18030.rangeChar? (pair first second * 1260 + pair third fourth)
  else none

/-- GB 18030, whose characters have one, two or four bytes. -/
def MultiByte.gb18030 : MultiByte where
  meaning
    | [byte] =>
        if byte < 0x80 then plain byte
        else if byte = 0x80 then .characters ['€']
        else if within 0x81 0xFE byte then .unfinished
        else .illFormed 0
    | [first, second] =>
        if within 0x30 0x39 second then .unfinished
        else .ofPair ((gb18030Pair first second).map fun pair => [pair]) second
    | [_, _, third] => if within 0x81 0xFE third then .unfinished else .illFormed 0
    | [first, second, third, fourth] =>
        match gb18030Four first second third fourth with
        | some character => .characters [character]
        | none =>
            if within 0x30 0x39 fourth then .illFormed 3 else .illFormed 0
    | _ => .illFormed 0

end StreamingChat.Text.Charset
