/-!
# Punycode

A text past ASCII is written in letters, digits and hyphens: first its ASCII characters, then, after
the last hyphen, where the other characters are to be inserted. They come in ascending order, each
as the distance from the one before, in digits to the base 36 whose weights adapt to the text.
Main function: `Punycode.decode`.
-/

namespace StreamingChat.Url.Punycode

/-- The value of a digit: letters come before decimal digits. -/
def digitValue (digit : Char) : Option Nat :=
  if 'a' ≤ digit ∧ digit ≤ 'z' then some (digit.toNat - 'a'.toNat)
  else if 'A' ≤ digit ∧ digit ≤ 'Z' then some (digit.toNat - 'A'.toNat)
  else if digit.isDigit then some (digit.toNat - '0'.toNat + 26)
  else none

/-- The least number that no distance, weight or code point may reach. -/
def limit : Nat := 0x100000000

/-- A number that is not too great. -/
def bounded (value : Nat) : Option Nat :=
  if value < limit then some value else none

/-- The digit from which on a further one follows, given the place of the digit. -/
def threshold (place bias : Nat) : Nat :=
  if place ≤ bias then 1 else min (place - bias) 26

/-- How often a distance has to be divided until it is small, and what is left of it. -/
def shrink (distance count : Nat) : Nat × Nat :=
  if 455 < distance then shrink (distance / 35) (count + 1) else (distance, count)
termination_by distance
decreasing_by exact Nat.div_lt_self (by omega) (by omega)

/-- The bias after a distance, given the length of the text with the new character. -/
def adapt (distance length : Nat) (isFirst : Bool) : Nat :=
  let damped := if isFirst then distance / 700 else distance / 2
  let (rest, count) := shrink (damped + damped / length) 0
  count * 36 + 36 * rest / (rest + 38)

/-- Reads a distance, which is added to a value, and tells what follows it. -/
def readDistance (bias : Nat) : (place weight value : Nat) → List Char → Option (Nat × List Char)
  | _, _, _, [] => none
  | place, weight, value, character :: rest => do
      let digit ← digitValue character
      let added ← bounded (digit * weight)
      let value ← bounded (value + added)
      let least := threshold place bias
      if digit < least then some (value, rest)
      else readDistance bias (place + 36) (← bounded (weight * (36 - least))) value rest

theorem length_of_readDistance {bias place weight value : Nat} {text rest : List Char}
    {result : Nat} (read : readDistance bias place weight value text = some (result, rest)) :
    rest.length < text.length := by
  induction text generalizing place weight value with
  | nil => simp [readDistance] at read
  | cons character tail ih =>
      simp only [readDistance, Option.bind_eq_bind, Option.bind_eq_some_iff] at read
      obtain ⟨digit, _, added, _, sum, _, read⟩ := read
      split at read
      · simp only [Option.some.injEq, Prod.mk.injEq] at read
        simp [← read.2]
      · obtain ⟨next, _, read⟩ := Option.bind_eq_some_iff.1 read
        exact Nat.lt_succ_of_lt (ih read)

/-- Inserts the characters that a text tells into those already `done`. The last one had the given
code point, and the next one goes to the given index or comes after it. -/
def insertAll (bias code index : Nat) (done text : List Char) : Option (List Char) :=
  if text.isEmpty then some done
  else
    match _found : readDistance bias 36 1 index text with
    | none => none
    | some (value, rest) =>
        let length := done.length + 1
        let next := code + value / length
        if next.isValidChar then
          insertAll (adapt (value - index) length (index = 0)) next (value % length + 1)
            (done.insertIdx (value % length) (Char.ofNat next)) rest
        else none
termination_by text.length
decreasing_by exact length_of_readDistance (by assumption)

/-- The text that is written, or none if the writing is not valid. -/
def decode (text : List Char) : Option (List Char) :=
  let tail := (text.reverse.takeWhile (· ≠ '-')).reverse
  let front := text.take (text.length - tail.length)
  if front.length = 1 then none
  else insertAll 72 128 0 front.dropLast tail

end StreamingChat.Url.Punycode
