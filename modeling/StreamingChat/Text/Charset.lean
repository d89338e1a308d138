import StreamingChat.Text.Charset.Iso2022
import StreamingChat.Text.Charset.Tables
import StreamingChat.Text.Utf8

/-!
# Charsets

A text that comes with the name of a charset is decoded by it, unless it begins with a byte order
mark, which says more than any name. What cannot be decoded becomes U+FFFD. Main functions:
`Charset.ofLabel?`, `Charset.decodeMarked`.
-/

namespace StreamingChat.Text

/-- How characters are written as bytes. -/
inductive Charset where
  | utf8
  | utf16 (bigEndian : Bool)
  /-- ASCII below 0x80, and the characters of a text above. -/
  | singleByte (upper : String)
  /-- ASCII below 0x80, and characters for private use above. -/
  | userDefined
  | shiftJis
  | eucJp
  | iso2022Jp
  | eucKr
  | big5
  | gb18030
  /-- A charset whose texts are not decoded at all. -/
  | replacement
  deriving DecidableEq, Repr

namespace Charset

/-- The names of each charset, in lower case. -/
def labels : List (List String × Charset) := [
  (["unicode-1-1-utf-8", "unicode11utf8", "unicode20utf8", "utf-8", "utf8",
    "x-unicode20utf8"], .utf8),
  (["866", "cp866", "csibm866", "ibm866"], .singleByte ibm866),
  (["csisolatin2", "iso-8859-2", "iso-ir-101", "iso8859-2", "iso88592", "iso_8859-2",
    "iso_8859-2:1987", "l2", "latin2"], .singleByte iso8859Part2),
  (["csisolatin3", "iso-8859-3", "iso-ir-109", "iso8859-3", "iso88593", "iso_8859-3",
    "iso_8859-3:1988", "l3", "latin3"], .singleByte iso8859Part3),
  (["csisolatin4", "iso-8859-4", "iso-ir-110", "iso8859-4", "iso88594", "iso_8859-4",
    "iso_8859-4:1988", "l4", "latin4"], .singleByte iso8859Part4),
  (["csisolatincyrillic", "cyrillic", "iso-8859-5", "iso-ir-144", "iso8859-5", "iso88595",
    "iso_8859-5", "iso_8859-5:1988"], .singleByte iso8859Part5),
  (["arabic", "asmo-708", "csiso88596e", "csiso88596i", "csisolatinarabic", "ecma-114",
    "iso-8859-6", "iso-8859-6-e", "iso-8859-6-i", "iso-ir-127", "iso8859-6", "iso88596",
    "iso_8859-6", "iso_8859-6:1987"], .singleByte iso8859Part6),
  (["csisolatingreek", "ecma-118", "elot_928", "greek", "greek8", "iso-8859-7", "iso-ir-126",
    "iso8859-7", "iso88597", "iso_8859-7", "iso_8859-7:1987",
    "sun_eu_greek"], .singleByte iso8859Part7),
  (["csiso88598e", "csiso88598i", "csisolatinhebrew", "hebrew", "iso-8859-8", "iso-8859-8-e",
    "iso-8859-8-i", "iso-ir-138", "iso8859-8", "iso88598", "iso_8859-8", "iso_8859-8:1988",
    "logical", "visual"], .singleByte iso8859Part8),
  (["csisolatin6", "iso-8859-10", "iso-ir-157", "iso8859-10", "iso885910", "l6",
    "latin6"], .singleByte iso8859Part10),
  (["iso-8859-13", "iso8859-13", "iso885913"], .singleByte iso8859Part13),
  (["iso-8859-14", "iso8859-14", "iso885914"], .singleByte iso8859Part14),
  (["csisolatin9", "iso-8859-15", "iso8859-15", "iso885915", "iso_8859-15",
    "l9"], .singleByte iso8859Part15),
  (["iso-8859-16"], .singleByte iso8859Part16),
  (["cskoi8r", "koi", "koi8", "koi8-r", "koi8_r"], .singleByte koi8R),
  (["koi8-ru", "koi8-u"], .singleByte koi8U),
  (["csmacintosh", "mac", "macintosh", "x-mac-roman"], .singleByte macintosh),
  (["dos-874", "iso-8859-11", "iso8859-11", "iso885911", "tis-620",
    "windows-874"], .singleByte windows874),
  (["cp1250", "windows-1250", "x-cp1250"], .singleByte windows1250),
  (["cp1251", "windows-1251", "x-cp1251"], .singleByte windows1251),
  (["ansi_x3.4-1968", "ascii", "cp1252", "cp819", "csisolatin1", "ibm819", "iso-8859-1",
    "iso-ir-100", "iso8859-1", "iso88591", "iso_8859-1", "iso_8859-1:1987", "l1", "latin1",
    "us-ascii", "windows-1252", "x-cp1252"], .singleByte windows1252),
  (["cp1253", "windows-1253", "x-cp1253"], .singleByte windows1253),
  (["cp1254", "csisolatin5", "iso-8859-9", "iso-ir-148", "iso8859-9", "iso88599", "iso_8859-9",
    "iso_8859-9:1989", "l5", "latin5", "windows-1254", "x-cp1254"], .singleByte windows1254),
  (["cp1255", "windows-1255", "x-cp1255"], .singleByte windows1255),
  (["cp1256", "windows-1256", "x-cp1256"], .singleByte windows1256),
  (["cp1257", "windows-1257", "x-cp1257"], .singleByte windows1257),
  (["cp1258", "windows-1258", "x-cp1258"], .singleByte windows1258),
  (["x-mac-cyrillic", "x-mac-ukrainian"], .singleByte macCyrillic),
  (["csshiftjis", "ms_kanji", "shift-jis", "shift_jis", "sjis", "windows-31j", "x-sjis",
    "ms932"], .shiftJis),
  (["cseucpkdfmtjapanese", "euc-jp", "x-euc-jp"], .eucJp),
  (["csiso2022jp", "iso-2022-jp"], .iso2022Jp),
  (["cseuckr", "csksc56011987", "euc-kr", "iso-ir-149", "korean", "ks_c_5601-1987",
    "ks_c_5601-1989", "ksc5601", "ksc_5601", "windows-949"], .eucKr),
  (["big5", "big5-hkscs", "cn-big5", "csbig5", "x-x-big5"], .big5),
  (["chinese", "csgb2312", "csiso58gb231280", "gb18030", "gb2312", "gb_2312", "gb_2312-80", "gbk",
    "iso-ir-58", "x-gbk"], .gb18030),
  (["csunicode", "iso-10646-ucs-2", "ucs-2", "unicode", "unicodefeff", "utf-16",
    "utf-16le"], .utf16 false),
  (["unicodefffe", "utf-16be"], .utf16 true),
  (["x-user-defined"], .userDefined),
  (["csiso2022kr", "hz-gb-2312", "iso-2022-cn", "iso-2022-cn-ext", "iso-2022-kr",
    "replacement"], .replacement)]

/-- The charset with a name. Case and space around the name do not count. -/
def ofLabel? (label : String) : Option Charset :=
  let isSpace (character : Char) : Bool := [' ', '\t', '\n', '\x0c', '\r'].contains character
  let trimmed := ((label.toList.dropWhile isSpace).reverse.dropWhile isSpace).reverse
  let name := String.ofList (trimmed.map Char.toLower)
  (labels.find? fun entry => entry.1.contains name).map Prod.snd

/-! ## Sixteen-bit units -/

/-- Reads a byte of units: the first one of a unit is kept, the second one completes it. -/
def unitStep (bigEndian : Bool) (first : Option UInt8) (byte : UInt8) : Option UInt8 × List Nat :=
  match first with
  | none => (some byte, [])
  | some first =>
      (none, [if bigEndian then first.toNat * 256 + byte.toNat
        else byte.toNat * 256 + first.toNat])

/-- The units of some bytes, and whether a byte is left over. -/
def units (bigEndian : Bool) (bytes : List UInt8) : List Nat × Bool :=
  let (first, units) := Transducer.run ⟨unitStep bigEndian⟩ none bytes
  (units, first.isSome)

/-- Whether a unit is the first half of a surrogate pair. -/
def isLeading (unit : Nat) : Bool := 0xD800 ≤ unit && unit < 0xDC00

/-- Whether a unit is the second half of a surrogate pair. -/
def isTrailing (unit : Nat) : Bool := 0xDC00 ≤ unit && unit < 0xE000

/-- Reads a unit after a complete character. -/
def beginUnit (unit : Nat) : Option Nat × List Char :=
  if isLeading unit then (some unit, [])
  else if isTrailing unit then (none, [Utf8.replacement])
  else (none, [Char.ofNat unit])

/-- Reads a unit. A first half that no second half follows is ill-formed. -/
def stepUnit (leading : Option Nat) (unit : Nat) : Option Nat × List Char :=
  match leading with
  | none => beginUnit unit
  | some first =>
      if isTrailing unit then
        (none, [Char.ofNat (0x10000 + (first - 0xD800) * 0x400 + (unit - 0xDC00))])
      else
        let next := beginUnit unit
        (next.1, Utf8.replacement :: next.2)

/-- The reader of units. -/
def unitReader : Transducer (Option Nat) Nat Char := ⟨stepUnit⟩

/-- The text of sixteen-bit units. What the end cuts off is one ill-formed piece. -/
def decodeUnits (bigEndian : Bool) (bytes : List UInt8) : String :=
  let (whole, odd) := units bigEndian bytes
  let (leading, characters) := unitReader.run none whole
  String.ofList (characters ++ if odd || leading.isSome then [Utf8.replacement] else [])

/-! ## Decoding -/

/-- The text of bytes that are a character each. -/
def decodeBytes (upper : Nat → Char) (bytes : List UInt8) : String :=
  String.ofList (bytes.map fun byte =>
    if byte < 0x80 then Char.ofNat byte.toNat else upper (byte.toNat - 0x80))

/-- The text of some bytes in a charset. -/
def decode (charset : Charset) (bytes : List UInt8) : String :=
  match charset with
  | .utf8 => Utf8.decode bytes
  | .utf16 bigEndian => decodeUnits bigEndian bytes
  | .singleByte upper =>
      let characters := upper.toList.toArray
      decodeBytes (fun index => characters.getD index Utf8.replacement) bytes
  | .userDefined => decodeBytes (fun index => Char.ofNat (0xF780 + index)) bytes
  | .shiftJis => MultiByte.shiftJis.decode bytes
  | .eucJp => MultiByte.eucJp.decode bytes
  | .iso2022Jp => Iso2022.decode bytes
  | .eucKr => MultiByte.eucKr.decode bytes
  | .big5 => MultiByte.big5.decode bytes
  | .gb18030 => MultiByte.gb18030.decode bytes
  | .replacement => if bytes.isEmpty then "" else String.singleton Utf8.replacement

/-- The text of some bytes, in the charset that a byte order mark in front of them names, or else
in the given one. -/
def decodeMarked (charset : Charset) (bytes : List UInt8) : String :=
  match bytes with
  | 0xFE :: 0xFF :: rest => decodeUnits true rest
  | 0xFF :: 0xFE :: rest => decodeUnits false rest
  | 0xEF :: 0xBB :: 0xBF :: _ => Utf8.decode bytes
  | _ => charset.decode bytes

end Charset

end StreamingChat.Text
