import StreamingChat.Text.Blank
import StreamingChat.Time.Calendar

/-!
# Written timestamps

A timestamp is written as `YYYY-MM-DDTHH:MM:SS`, a fraction of three, six or nine digits when there
is one, and `Z`. Reading is more generous: blank characters may stand around each part, numbers may
be shorter, and the zone may be any offset from Coordinated Universal Time.
-/

namespace StreamingChat.Time

/-- Why a written timestamp is refused. -/
inductive StampFlaw where
  /-- A character stands where it cannot. -/
  | invalid
  /-- A number is none of the calendar or the clock. -/
  | outOfRange
  /-- The text ends too early. -/
  | tooShort
  /-- Something follows the timestamp. -/
  | tooLong
  /-- The time lies before the first or after the last day. -/
  | impossible
  deriving DecidableEq, Repr

/-- How a refused timestamp is told. -/
def StampFlaw.message : StampFlaw → String
  | .invalid => "input contains invalid characters"
  | .outOfRange => "input is out of range"
  | .tooShort => "premature end of input"
  | .tooLong => "trailing input"
  | .impossible => "no possible date and time matching input"

/-- Reads a part of a timestamp and gives the text after it. -/
abbrev StampReader (α : Type) := StateT (List Char) (Except StampFlaw) α

namespace Stamp

/-- Refuses the text. -/
def refuse {α : Type} (flaw : StampFlaw) : StampReader α := fun _ => .error flaw

/-- Drops blank characters. -/
def blanks : StampReader Unit := modify Text.trimStart

/-- Reads one given character. -/
def mark (character : Char) : StampReader Unit := fun text =>
  match text with
  | [] => .error .tooShort
  | first :: rest => if first = character then .ok ((), rest) else .error .invalid

/-- The value of decimal digits. -/
def valueOf (digits : List Char) : Nat :=
  digits.foldl (fun value digit => value * 10 + (digit.toNat - '0'.toNat)) 0

/-- The greatest number that is read. -/
def maxNumber : Nat := 0x7FFFFFFFFFFFFFFF

/-- Reads a number of at least one digit and at most `width` digits, if a width is given. -/
def number (width : Option Nat) : StampReader Nat := fun text =>
  let all := text.takeWhile Char.isDigit
  let digits := match width with
    | some width => all.take width
    | none => all
  if text.isEmpty then .error .tooShort
  else if digits.isEmpty then .error .invalid
  else if maxNumber < valueOf digits then .error .outOfRange
  else .ok (valueOf digits, text.drop digits.length)

/-- Reads a number of one or two digits between two bounds, after blank characters. -/
def bounded (low high : Nat) : StampReader Nat := do
  blanks
  let value ← number (some 2)
  if low ≤ value ∧ value ≤ high then pure value else refuse .outOfRange

/-- Reads a year. A sign lifts the limit of four digits. -/
def year : StampReader Int := do
  blanks
  let value : Int ← fun text =>
    match text with
    | '-' :: rest => (number none rest).map fun (value, after) => (-(value : Int), after)
    | '+' :: rest => (number none rest).map fun (value, after) => ((value : Int), after)
    | _ => (number (some 4) text).map fun (value, after) => ((value : Int), after)
  if -0x80000000 ≤ value ∧ value < 0x80000000 then pure value else refuse .outOfRange

/-- Reads a fraction of a second after its point, in nanoseconds. Further digits are dropped. -/
def fraction : StampReader Nat := fun text =>
  match text with
  | '.' :: rest => do
      let (value, after) ← number (some 9) rest
      let scale := 9 - (rest.takeWhile Char.isDigit).length
      .ok (value * Nat.pow 10 scale, after.dropWhile Char.isDigit)
  | _ => .ok (0, text)

/-- Reads the character between date and time. -/
def separator : StampReader Unit := fun text =>
  match text with
  | [] => .error .tooShort
  | first :: rest =>
      if first = 'T' ∨ first = 't' ∨ first = ' ' then .ok ((), rest) else .error .invalid

/-- Whether two characters at the front would be too few: a character past ASCII counts for two. -/
def lacksPair (text : List Char) : Bool :=
  match text with
  | [] => true
  | [only] => only.toNat < 0x80
  | _ => false

/-- Reads exactly two digits. -/
def pair : StampReader Nat := fun text =>
  if lacksPair text then .error .tooShort
  else
    match text with
    | first :: second :: rest =>
        if first.isDigit && second.isDigit then .ok (valueOf [first, second], rest)
        else .error .invalid
    | _ => .error .invalid

/-- Reads hours and minutes of an offset after its sign, in minutes. -/
def offsetSize : StampReader Nat := do
  let hours ← pair
  modify (List.dropWhile fun character => character = ':' || Text.isBlank character)
  let minutes ← pair
  if minutes < 60 then pure (hours * 60 + minutes) else refuse .outOfRange

/-- Reads a zone, in minutes ahead of Coordinated Universal Time. -/
def zone : StampReader Int := fun text =>
  match text with
  | [] => .error .tooShort
  | first :: rest =>
      if (text.take 3).map Char.toUpper = ['U', 'T', 'C'] then .ok (0, text.drop 3)
      else if first = 'Z' ∨ first = 'z' then .ok (0, rest)
      else if first = '+' then (offsetSize rest).map fun (size, after) => ((size : Int), after)
      else if first = '-' ∨ first = '\u2212' then
        (offsetSize rest).map fun (size, after) => (-(size : Int), after)
      else .error .invalid

/-- The numbers of a timestamp as they were read. -/
structure Parts where
  year : Int
  month : Nat
  day : Nat
  hour : Nat
  minute : Nat
  second : Nat
  nanosecond : Nat
  /-- Minutes ahead of Coordinated Universal Time. -/
  offset : Int
  deriving DecidableEq, Repr

/-- Reads the numbers of a timestamp. -/
def parts : StampReader Parts := do
  let year ← year
  blanks
  mark '-'
  let month ← bounded 1 12
  blanks
  mark '-'
  let day ← bounded 1 31
  separator
  let hour ← bounded 0 23
  blanks
  mark ':'
  let minute ← bounded 0 59
  blanks
  mark ':'
  let second ← bounded 0 60
  let nanosecond ← fraction
  blanks
  let offset ← zone
  pure { year, month, day, hour, minute, second, nanosecond, offset }

/-- The time of day of the numbers. -/
def Parts.time? (parts : Parts) : Option TimeOfDay :=
  if bounds : parts.hour < 24 ∧ parts.minute < 60 ∧ parts.second ≤ 60 ∧
      parts.nanosecond < 1000000000 then
    some
      { hour := parts.hour
        minute := parts.minute
        second := parts.second
        nanosecond := parts.nanosecond
        hour_lt := bounds.1
        minute_lt := bounds.2.1
        second_le := bounds.2.2.1
        nanosecond_lt := bounds.2.2.2 }
  else none

/-- The timestamp of the numbers. An offset is less than a day. -/
def Parts.toTimestamp (parts : Parts) : Except StampFlaw Timestamp :=
  match Date.ofNumbers? parts.year parts.month parts.day, parts.time? with
  | some date, some time =>
      if parts.offset.natAbs < 1440 then
        match Timestamp.ofLocal? date time parts.offset with
        | some timestamp => .ok timestamp
        | none => .error .impossible
      else .error .outOfRange
  | _, _ => .error .outOfRange

end Stamp

/-- Reads a written timestamp. -/
def Timestamp.read (text : String) : Except StampFlaw Timestamp := do
  let (parts, rest) ← Stamp.parts.run text.toList
  if (Text.trimStart rest).isEmpty then parts.toTimestamp else .error .tooLong

/-- The digits of a number, filled up with zeros to a width. -/
def padded (width value : Nat) : List Char :=
  let digits := Nat.toDigits 10 value
  List.replicate (width - digits.length) '0' ++ digits

/-- A written year. Years that four digits cannot hold have a sign. -/
def writeYear (year : Int) : List Char :=
  if 0 ≤ year ∧ year ≤ 9999 then padded 4 year.toNat
  else (if year < 0 then '-' else '+') :: padded 4 year.natAbs

/-- A written fraction of a second, of as few groups of three digits as hold it. -/
def writeFraction (nanosecond : Nat) : List Char :=
  if nanosecond = 0 then []
  else if nanosecond % 1000000 = 0 then '.' :: padded 3 (nanosecond / 1000000)
  else if nanosecond % 1000 = 0 then '.' :: padded 6 (nanosecond / 1000)
  else '.' :: padded 9 nanosecond

/-- The written form of a timestamp. -/
def Timestamp.write (timestamp : Timestamp) : String :=
  let date := timestamp.date
  let time := timestamp.time
  String.ofList (writeYear date.year ++ ['-'] ++ padded 2 date.month ++ ['-'] ++
    padded 2 date.day ++ ['T'] ++ padded 2 time.hour ++ [':'] ++ padded 2 time.minute ++ [':'] ++
    padded 2 time.second ++ writeFraction time.nanosecond ++ ['Z'])

end StreamingChat.Time
