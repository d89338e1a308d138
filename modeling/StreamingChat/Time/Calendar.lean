/-!
# Dates and times

A `Timestamp` is a date of the proleptic Gregorian calendar together with a time of day, both in
Coordinated Universal Time. The sixtieth second of a minute is a leap second. Years are bounded, so
a day before the first or after the last one does not exist.
-/

namespace StreamingChat.Time

/-- Whether a year has a twenty-ninth of February. -/
def isLeapYear (year : Int) : Bool :=
  year % 4 = 0 && (year % 100 ≠ 0 || year % 400 = 0)

/-- The number of days of a month. -/
def daysInMonth (year : Int) (month : Nat) : Nat :=
  if month = 2 then if isLeapYear year then 29 else 28
  else if month = 4 ∨ month = 6 ∨ month = 9 ∨ month = 11 then 30
  else 31

/-- The first year. -/
def firstYear : Int := -262143

/-- The last year. -/
def lastYear : Int := 262142

/-- Whether numbers are a date. -/
def isDate (year : Int) (month day : Nat) : Bool :=
  firstYear ≤ year && year ≤ lastYear && 1 ≤ month && month ≤ 12 && 1 ≤ day &&
    day ≤ daysInMonth year month

/-- A date. -/
structure Date where
  year : Int
  month : Nat
  day : Nat
  valid : isDate year month day = true
  deriving DecidableEq, Repr

/-- The date with the given numbers. -/
def Date.ofNumbers? (year : Int) (month day : Nat) : Option Date :=
  if valid : isDate year month day = true then some ⟨year, month, day, valid⟩ else none

/-- The day after. -/
def Date.next? (date : Date) : Option Date :=
  if date.day < daysInMonth date.year date.month then
    ofNumbers? date.year date.month (date.day + 1)
  else if date.month < 12 then ofNumbers? date.year (date.month + 1) 1
  else ofNumbers? (date.year + 1) 1 1

/-- The day before. -/
def Date.previous? (date : Date) : Option Date :=
  if 1 < date.day then ofNumbers? date.year date.month (date.day - 1)
  else if 1 < date.month then
    ofNumbers? date.year (date.month - 1) (daysInMonth date.year (date.month - 1))
  else ofNumbers? (date.year - 1) 12 31

/-- A time of day. -/
structure TimeOfDay where
  hour : Nat
  minute : Nat
  /-- Sixty for a leap second. -/
  second : Nat
  nanosecond : Nat
  hour_lt : hour < 24
  minute_lt : minute < 60
  second_le : second ≤ 60
  nanosecond_lt : nanosecond < 1000000000
  deriving DecidableEq, Repr

/-- A date and a time of day in Coordinated Universal Time. -/
structure Timestamp where
  date : Date
  time : TimeOfDay
  deriving DecidableEq, Repr

/-- The beginning of 1970. -/
instance : Inhabited Timestamp where
  default :=
    ⟨⟨1970, 1, 1, by decide⟩, ⟨0, 0, 0, 0, by decide, by decide, by decide, by decide⟩⟩

/-- The time that a clock running `offset` minutes ahead shows as the given date and time. -/
def Timestamp.ofLocal? (date : Date) (time : TimeOfDay) (offset : Int) : Option Timestamp :=
  let minutes : Int := time.hour * 60 + time.minute - offset
  let minuteOfDay := (minutes % 1440).toNat
  have minuteOfDay_lt : minuteOfDay < 1440 := by omega
  let date? :=
    if minutes < 0 then date.previous? else if minutes < 1440 then some date else date.next?
  date?.map fun date =>
    { date
      time :=
        { time with
          hour := minuteOfDay / 60
          minute := minuteOfDay % 60
          hour_lt := by omega
          minute_lt := by omega } }

end StreamingChat.Time
