/-!
# Shortest decimals

A binary floating-point number is written with the fewest decimal digits that read back as the same
number, and among those with the digits nearest to it. All arithmetic is on natural numbers.
-/

namespace StreamingChat

/-- A decimal number `digits * 10 ^ exponent`. -/
structure Decimal where
  digits : Nat
  exponent : Int
  deriving DecidableEq, Repr

namespace Decimal

/-- The reals that round to one binary number, as multiples of `2 ^ scale`. -/
structure Interval where
  low : Nat
  value : Nat
  high : Nat
  /-- Whether the ends round to the number, too. -/
  closed : Bool
  scale : Int
  deriving DecidableEq, Repr

/-- The interval of a positive finite number given by its bits. Below a power of two the
neighbouring number is only half as far away. -/
def Interval.ofBits (bits : UInt64) : Interval :=
  let fraction : Nat := bits.toNat % Nat.pow 2 52
  let exponent : Nat := bits.toNat / Nat.pow 2 52 % Nat.pow 2 11
  let mantissa := if exponent = 0 then fraction else fraction + Nat.pow 2 52
  let scale : Int := (if exponent = 0 then 1 else (exponent : Int)) - 1077
  let below := if fraction = 0 ∧ 1 < exponent then 1 else 2
  ⟨4 * mantissa - below, 4 * mantissa, 4 * mantissa + 2, mantissa % 2 = 0, scale⟩

/-- A fraction `numerator / denominator` for `factor * 2 ^ scale / 10 ^ exponent`. -/
def ratio (factor : Nat) (scale exponent : Int) : Nat × Nat :=
  (factor * Nat.pow 2 scale.toNat * Nat.pow 10 (-exponent).toNat,
    Nat.pow 2 (-scale).toNat * Nat.pow 10 exponent.toNat)

/-- Whether `digits * 10 ^ exponent` lies in the interval. -/
def Interval.holds (interval : Interval) (digits : Nat) (exponent : Int) : Bool :=
  let (low, lowUnit) := ratio interval.low interval.scale exponent
  let (high, highUnit) := ratio interval.high interval.scale exponent
  if interval.closed then low ≤ digits * lowUnit && digits * highUnit ≤ high
  else low < digits * lowUnit && digits * highUnit < high

/-- The decimal of the grid `10 ^ exponent` that reads back, the nearer of the two neighbours of
the number when both do, and of two equally near ones the even one. -/
def Interval.onGrid (interval : Interval) (exponent : Int) : Option Nat :=
  let (value, unit) := ratio interval.value interval.scale exponent
  let below := value / unit
  let belowHolds := 0 < below && interval.holds below exponent
  let aboveHolds := interval.holds (below + 1) exponent
  let twice := 2 * (value % unit)
  if belowHolds && aboveHolds then
    if twice < unit then some below
    else if unit < twice then some (below + 1)
    else some (if below % 2 = 0 then below else below + 1)
  else if belowHolds then some below
  else if aboveHolds then some (below + 1)
  else none

/-- The exponent of the leading digit, found by trying `fuel` grids downwards from `start`. -/
def leadingExponent (interval : Interval) : Nat → Int → Int
  | 0, start => start
  | fuel + 1, start =>
      let (value, unit) := ratio interval.value interval.scale start
      if unit ≤ value then start else leadingExponent interval fuel (start - 1)

/-- Tries grids of more and more digits. -/
def refine (interval : Interval) : Nat → Int → Decimal
  | 0, exponent => ⟨0, exponent⟩
  | fuel + 1, exponent =>
      match interval.onGrid exponent with
      | some digits => ⟨digits, exponent⟩
      | none => refine interval fuel (exponent - 1)

/-- Moves trailing zeros of the digits to the exponent. -/
def normalize : Nat → Decimal → Decimal
  | 0, decimal => decimal
  | fuel + 1, decimal =>
      if decimal.digits ≠ 0 ∧ decimal.digits % 10 = 0 then
        normalize fuel ⟨decimal.digits / 10, decimal.exponent + 1⟩
      else decimal

/-- The shortest decimal of a positive finite number given by its bits. -/
def shortest (bits : UInt64) : Decimal :=
  let interval := Interval.ofBits bits
  normalize 20 (refine interval 20 (leadingExponent interval 700 310))

/-- The least exponent of a leading digit that is written positionally. -/
def leastPositional : Int := -5

/-- The greatest exponent of a leading digit that is written positionally. -/
def greatestPositional : Int := 15

/-- The text of a positive decimal. A whole number ends in `.0`; outside the positional range one
digit stands before the point and the exponent is signed. -/
def render (decimal : Decimal) : String :=
  let digits := Nat.toDigits 10 decimal.digits
  let leading := decimal.exponent + digits.length - 1
  let zeros (count : Int) := List.replicate count.toNat '0'
  let characters :=
    if leading < leastPositional || greatestPositional < leading then
      let point := if digits.length = 1 then [] else ['.']
      let sign := if leading < 0 then '-' else '+'
      digits.take 1 ++ point ++ digits.drop 1 ++ ['e', sign] ++ Nat.toDigits 10 leading.natAbs
    else if 0 ≤ decimal.exponent then digits ++ zeros decimal.exponent ++ ['.', '0']
    else if 0 ≤ leading then
      let whole := (leading + 1).toNat
      digits.take whole ++ ['.'] ++ digits.drop whole
    else ['0', '.'] ++ zeros (-leading - 1) ++ digits
  String.ofList characters

/-- The shortest text of a finite number. -/
def renderFloat (value : Float) : String :=
  let bits := value.toBits
  let sign := if bits.toNat < Nat.pow 2 63 then "" else "-"
  let size := UInt64.ofNat (bits.toNat % Nat.pow 2 63)
  if size = 0 then sign ++ "0.0" else sign ++ (shortest size).render

end Decimal

end StreamingChat
