import StreamingChat.Decimal.Shortest
import StreamingChat.Json.Fault

/-!
# Numbers in JSON texts

A number is read digit by digit. Digits that would take the significand past sixty-four bits only
count towards the exponent. `scanNumber` gives the value, `skipNumber` only checks the form; both
begin after a minus sign.
-/

namespace StreamingChat.Json

/-- A number that was read. -/
inductive Number where
  | natural (value : Nat)
  /-- The negative of a positive number. -/
  | negative (value : Nat)
  | decimal (value : Float)

/-- The greatest significand. -/
def maxSignificand : Nat := UInt64.size - 1

/-- What a number is when it is shown inside a message. -/
def Number.found : Number → Found
  | .natural value => .integer value
  | .negative value => .integer (-value)
  | .decimal value => .decimal (Decimal.renderFloat value)

/-- The value of a decimal digit. -/
def digitValue (digit : Char) : Nat :=
  digit.toNat - '0'.toNat

/-- The digits at the front of a text, and what follows them. -/
def spanDigits (text : List Char) : List Char × List Char :=
  (text.takeWhile Char.isDigit, text.dropWhile Char.isDigit)

/-- A number in the making: `significand * 10 ^ exponent`. -/
structure Magnitude where
  significand : Nat
  exponent : Int
  /-- Whether a digit has been dropped. -/
  full : Bool
  deriving DecidableEq, Repr

/-- Takes in a digit before the point. -/
def Magnitude.wholeDigit (magnitude : Magnitude) (digit : Char) : Magnitude :=
  let grown := magnitude.significand * 10 + digitValue digit
  if magnitude.full || maxSignificand < grown then
    { magnitude with exponent := magnitude.exponent + 1, full := true }
  else { magnitude with significand := grown }

/-- Takes in a digit after the point. -/
def Magnitude.fractionDigit (magnitude : Magnitude) (digit : Char) : Magnitude :=
  let grown := magnitude.significand * 10 + digitValue digit
  if magnitude.full || maxSignificand < grown then { magnitude with full := true }
  else { magnitude with significand := grown, exponent := magnitude.exponent - 1 }

/-- `value * 10 ^ exponent`, in at most `fuel + 1` divisions, or nothing when it is infinite. -/
def scaleFloat : Nat → Float → Int → Option Float
  | 0, _, _ => some 0
  | fuel + 1, value, exponent =>
      if exponent.natAbs ≤ 308 then
        let power := Float.ofScientific 1 false exponent.natAbs
        if 0 ≤ exponent then
          let product := value * power
          if product.isInf then none else some product
        else some (value / power)
      else if value == 0 then some 0
      else if 0 ≤ exponent then none
      else scaleFloat fuel (value / Float.ofScientific 1 false 308) (exponent + 308)

/-- The number of a sign and a magnitude, which may be out of range. -/
def Magnitude.toNumber (magnitude : Magnitude) (minus : Bool) (rest : List Char) :
    Except Fault (Number × List Char) :=
  match scaleFloat 4 (Float.ofNat magnitude.significand) magnitude.exponent with
  | some value => .ok (.decimal (if minus then -value else value), rest)
  | none => .error (.after .numberOutOfRange rest)

/-- The greatest exponent that is read. -/
def maxExponent : Nat := 0x7FFFFFFF

/-- Reads the digits of an exponent after the first one. A significant number with too great an
exponent is refused at the digit that makes it so. -/
def scanExponentDigits (magnitude : Magnitude) (minus down : Bool) (exponent : Nat) :
    List Char → Except Fault (Number × List Char)
  | [] => finish []
  | digit :: rest =>
      if digit.isDigit then
        let grown := exponent * 10 + digitValue digit
        if maxExponent < grown then
          if magnitude.significand ≠ 0 && !down then .error (.after .numberOutOfRange rest)
          else .ok (.decimal (if minus then -0.0 else 0.0), (spanDigits rest).2)
        else scanExponentDigits magnitude minus down grown rest
      else finish (digit :: rest)
where
  /-- The number when the exponent is complete. -/
  finish (rest : List Char) : Except Fault (Number × List Char) :=
    let shift : Int := if down then -exponent else exponent
    { magnitude with exponent := magnitude.exponent + shift }.toNumber minus rest

/-- Reads an exponent after its letter. -/
def scanExponent (magnitude : Magnitude) (minus : Bool) (text : List Char) :
    Except Fault (Number × List Char) :=
  let (down, digits) :=
    match text with
    | '+' :: rest => (false, rest)
    | '-' :: rest => (true, rest)
    | _ => (false, text)
  match digits with
  | [] => .error (.after .endInValue [])
  | digit :: rest =>
      if digit.isDigit then scanExponentDigits magnitude minus down (digitValue digit) rest
      else .error (.upon .invalidNumber (digit :: rest))

/-- Reads a fraction after its point, and an exponent if one follows. -/
def scanFraction (magnitude : Magnitude) (minus : Bool) (text : List Char) :
    Except Fault (Number × List Char) :=
  let (digits, rest) := spanDigits text
  if digits.isEmpty then
    .error (.upon (if rest.isEmpty then .endInValue else .invalidNumber) rest)
  else
    let magnitude := digits.foldl Magnitude.fractionDigit { magnitude with full := false }
    match rest with
    | 'e' :: rest => scanExponent magnitude minus rest
    | 'E' :: rest => scanExponent magnitude minus rest
    | _ => magnitude.toNumber minus rest

/-- The number of a sign and digits alone. Zero has no negative integer, and neither has a number
below the least signed one. -/
def Magnitude.toInteger (magnitude : Magnitude) (minus : Bool) (rest : List Char) :
    Except Fault (Number × List Char) :=
  if magnitude.full then magnitude.toNumber minus rest
  else if !minus then .ok (.natural magnitude.significand, rest)
  else if 0 < magnitude.significand && magnitude.significand ≤ 0x8000000000000000 then
    .ok (.negative magnitude.significand, rest)
  else .ok (.decimal (-Float.ofNat magnitude.significand), rest)

/-- Reads a number after its sign. -/
def scanNumber (minus : Bool) (text : List Char) : Except Fault (Number × List Char) :=
  match text with
  | [] => .error (.after .endInValue [])
  | digit :: rest =>
      if !digit.isDigit then .error (.upon .invalidNumber (digit :: rest))
      else
        let (digits, after) := if digit = '0' then ([], rest) else spanDigits rest
        if digit = '0' && after.head?.any Char.isDigit then .error (.upon .invalidNumber after)
        else complete ((digit :: digits).foldl Magnitude.wholeDigit ⟨0, 0, false⟩) after
where
  /-- Reads what follows the digits before the point. -/
  complete (magnitude : Magnitude) (text : List Char) : Except Fault (Number × List Char) :=
    match text with
    | '.' :: rest => scanFraction magnitude minus rest
    | 'e' :: rest => scanExponent magnitude minus rest
    | 'E' :: rest => scanExponent magnitude minus rest
    | _ => magnitude.toInteger minus text

/-- Drops digits of which there must be one. -/
def skipDigits (text : List Char) : Except Fault (List Char) :=
  match text with
  | digit :: rest =>
      if digit.isDigit then .ok (spanDigits rest).2
      else .error (.upon .invalidNumber (digit :: rest))
  | [] => .error (.upon .invalidNumber [])

/-- Drops an exponent if one follows. -/
def skipExponent (text : List Char) : Except Fault (List Char) :=
  match text with
  | letter :: rest =>
      if letter = 'e' || letter = 'E' then
        match rest with
        | sign :: digits => skipDigits (if sign = '+' || sign = '-' then digits else rest)
        | [] => skipDigits []
      else .ok text
  | [] => .ok []

/-- Drops the digits before the point: a zero stands alone. -/
def skipWhole (text : List Char) : Except Fault (List Char) :=
  match text with
  | '0' :: rest =>
      if rest.head?.any Char.isDigit then .error (.upon .invalidNumber rest) else .ok rest
  | _ => skipDigits text

/-- Drops a fraction if one follows. -/
def skipFraction (text : List Char) : Except Fault (List Char) :=
  match text with
  | '.' :: rest => skipDigits rest
  | _ => .ok text

/-- Drops a number after its sign. -/
def skipNumber (text : List Char) : Except Fault (List Char) := do
  skipExponent (← skipFraction (← skipWhole text))

end StreamingChat.Json
