import StreamingChat.Text.Utf8

/-!
# Strict UTF-8

Files and prompts must be UTF-8 throughout. A byte sequence that is not is refused with the place
of its first flaw: either a piece of some bytes that cannot stand there, or a sequence that the
end of the input cuts off.
-/

namespace StreamingChat.Text.Utf8

/-- Where a byte sequence stops being UTF-8. -/
inductive Flaw where
  /-- `length` bytes from `index` on cannot stand there. -/
  | invalid (length index : Nat)
  /-- The sequence that begins at `index` is cut off by the end. -/
  | incomplete (index : Nat)
  deriving DecidableEq, Repr

/-- How a flaw is told. -/
def Flaw.message : Flaw → String
  | .invalid length index =>
      s!"invalid utf-8 sequence of {length} bytes from index {index}"
  | .incomplete index => s!"incomplete utf-8 byte sequence from index {index}"

/-- A strict reading between two bytes. -/
structure Reading where
  /-- The unfinished sequence, if any. -/
  held : Option Unfinished
  /-- The index at which the unfinished sequence begins, or the next byte otherwise. -/
  index : Nat
  /-- How many bytes of the unfinished sequence have been read. -/
  taken : Nat
  /-- The characters read so far, the last one first. -/
  characters : List Char
  deriving DecidableEq, Repr

/-- Reads one byte strictly. -/
def Reading.step (reading : Reading) (byte : UInt8) : Except Flaw Reading :=
  match reading.held with
  | none =>
      match lead byte with
      | .whole character =>
          .ok ⟨none, reading.index + 1, 0, character :: reading.characters⟩
      | .begins sequence => .ok ⟨some sequence, reading.index, 1, reading.characters⟩
      | .wrong => .error (.invalid 1 reading.index)
  | some sequence =>
      if sequence.accepts byte then
        match sequence.more with
        | 0 =>
            .ok ⟨none, reading.index + reading.taken + 1, 0,
              Char.ofNat (sequence.extend byte) :: reading.characters⟩
        | more + 1 =>
            .ok ⟨some ⟨sequence.extend byte, 0x80, 0xBF, more⟩, reading.index,
              reading.taken + 1, reading.characters⟩
      else .error (.invalid reading.taken reading.index)

/-- The text of a byte sequence that is UTF-8 throughout. -/
def decodeStrict (bytes : List UInt8) : Except Flaw String := do
  let final ← bytes.foldlM Reading.step ⟨none, 0, 0, []⟩
  match final.held with
  | none => .ok (String.ofList final.characters.reverse)
  | some _ => .error (.incomplete final.index)

end StreamingChat.Text.Utf8
