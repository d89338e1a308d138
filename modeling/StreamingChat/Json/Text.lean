import StreamingChat.Json.Fault
import StreamingChat.Text.Hex

/-!
# Strings in JSON texts

`scanString` reads a string after its opening quote and gives its characters; surrogate escapes
must come in pairs. `skipString` checks the form of a string whose value nobody asks for and lets
surrogates stand alone. `writeString` is the printer: it escapes only what must be escaped.
-/

namespace StreamingChat.Json

/-- The refusal of four bytes that are not hexadecimal digits, or of fewer than four bytes. -/
def hexFault (text : List Char) : Fault :=
  if byteCount text < 4 then .after .endInString [] else ⟨.invalidEscape, text, 4⟩

/-- Reads a sixteen-bit unit written as four hexadecimal digits. -/
def scanHexUnit (text : List Char) : Except Fault (Nat × List Char) :=
  match text with
  | first :: second :: third :: fourth :: rest =>
      match Text.hexValue first, Text.hexValue second, Text.hexValue third,
        Text.hexValue fourth with
      | some a, some b, some c, some d => .ok (((a * 16 + b) * 16 + c) * 16 + d, rest)
      | _, _, _, _ => .error (hexFault text)
  | _ => .error (hexFault text)

/-- The character of a one-letter escape. -/
def shortEscape : Char → Option Char
  | '"' => some '"'
  | '\\' => some '\\'
  | '/' => some '/'
  | 'b' => some '\x08'
  | 'f' => some '\x0c'
  | 'n' => some '\n'
  | 'r' => some '\r'
  | 't' => some '\t'
  | _ => none

/-- Whether a sixteen-bit unit is a leading surrogate. -/
def isLeadingSurrogate (unit : Nat) : Bool := 0xD800 ≤ unit && unit < 0xDC00

/-- Whether a sixteen-bit unit is a trailing surrogate. -/
def isTrailingSurrogate (unit : Nat) : Bool := 0xDC00 ≤ unit && unit < 0xE000

/-- The character of a surrogate pair. -/
def ofSurrogates (leading trailing : Nat) : Char :=
  Char.ofNat (0x10000 + (leading - 0xD800) * 0x400 + (trailing - 0xDC00))

/-- Reads the second half of a surrogate pair. -/
def scanTrailing (leading : Nat) (text : List Char) : Except Fault (Char × List Char) :=
  match text with
  | [] => .error (.after .endInString [])
  | '\\' :: [] => .error (.after .endInString [])
  | '\\' :: 'u' :: rest =>
      match scanHexUnit rest with
      | .error fault => .error fault
      | .ok (trailing, after) =>
          if isTrailingSurrogate trailing then .ok (ofSurrogates leading trailing, after)
          else .error (.after .loneSurrogate after)
  | '\\' :: rest => .error (.upon .unfinishedSurrogate rest)
  | _ => .error (.upon .unfinishedSurrogate text)

/-- Reads an escape after its backslash. -/
def scanEscape (text : List Char) : Except Fault (Char × List Char) :=
  match text with
  | [] => .error (.after .endInString [])
  | 'u' :: rest =>
      match scanHexUnit rest with
      | .error fault => .error fault
      | .ok (unit, after) =>
          if isTrailingSurrogate unit then .error (.after .loneSurrogate after)
          else if isLeadingSurrogate unit then scanTrailing unit after
          else .ok (Char.ofNat unit, after)
  | letter :: rest =>
      match shortEscape letter with
      | some character => .ok (character, rest)
      | none => .error (.upon .invalidEscape text)

/-- Drops an escape after its backslash. -/
def skipEscape (text : List Char) : Except Fault (List Char) :=
  match text with
  | [] => .error (.after .endInString [])
  | 'u' :: rest => (scanHexUnit rest).map Prod.snd
  | letter :: rest =>
      if (shortEscape letter).isSome then .ok rest else .error (.upon .invalidEscape text)

theorem length_of_scanHexUnit {text rest : List Char} {unit : Nat}
    (read : scanHexUnit text = .ok (unit, rest)) : rest.length < text.length := by
  unfold scanHexUnit at read
  split at read
  · split at read
    · simp only [Except.ok.injEq, Prod.mk.injEq] at read
      simp only [← read.2, List.length_cons]
      omega
    · contradiction
  · contradiction

theorem length_of_scanTrailing {leading : Nat} {text rest : List Char} {character : Char}
    (read : scanTrailing leading text = .ok (character, rest)) : rest.length < text.length := by
  unfold scanTrailing at read
  split at read <;> try contradiction
  split at read <;> try contradiction
  rename_i scanned
  split at read <;> try contradiction
  simp only [Except.ok.injEq, Prod.mk.injEq] at read
  have shorter := length_of_scanHexUnit scanned
  simp only [← read.2, List.length_cons]
  omega

theorem length_of_scanEscape {text rest : List Char} {character : Char}
    (read : scanEscape text = .ok (character, rest)) : rest.length < text.length := by
  unfold scanEscape at read
  split at read
  · contradiction
  · split at read
    · contradiction
    · rename_i scanned
      have shorter := length_of_scanHexUnit scanned
      split at read
      · contradiction
      · split at read
        · have shorterStill := length_of_scanTrailing read
          simp only [List.length_cons]
          omega
        · simp only [Except.ok.injEq, Prod.mk.injEq] at read
          simp only [← read.2, List.length_cons]
          omega
  · split at read
    · simp only [Except.ok.injEq, Prod.mk.injEq] at read
      simp [← read.2]
    · contradiction

theorem length_of_skipEscape {text rest : List Char} (read : skipEscape text = .ok rest) :
    rest.length < text.length := by
  unfold skipEscape at read
  split at read
  · contradiction
  · rename_i hexText
    cases scanned : scanHexUnit hexText with
    | error fault => simp [scanned, Except.map] at read
    | ok result =>
        have shorter := length_of_scanHexUnit scanned
        simp only [scanned, Except.map, Except.ok.injEq] at read
        simp only [← read, List.length_cons]
        omega
  · split at read
    · simp only [Except.ok.injEq] at read
      simp [← read]
    · contradiction

/-- Reads the characters of a string up to its closing quote, after those already `done`, which
are kept last one first. -/
def scanStringOnto (done : List Char) (text : List Char) :
    Except Fault (List Char × List Char) :=
  match text with
  | [] => .error (.after .endInString [])
  | '"' :: rest => .ok (done.reverse, rest)
  | '\\' :: rest =>
      match scanned : scanEscape rest with
      | .error fault => .error fault
      | .ok (character, after) =>
          have := length_of_scanEscape scanned
          scanStringOnto (character :: done) after
  | character :: rest =>
      if character < ' ' then .error (.upon .controlCharacter text)
      else scanStringOnto (character :: done) rest
termination_by text.length
decreasing_by
  · simp only [List.length_cons]
    omega
  · simp

/-- Reads a string after its opening quote. -/
def scanString (text : List Char) : Except Fault (List Char × List Char) :=
  scanStringOnto [] text

/-- Drops a string after its opening quote. -/
def skipString (text : List Char) : Except Fault (List Char) :=
  match text with
  | [] => .error (.after .endInString [])
  | '"' :: rest => .ok rest
  | '\\' :: rest =>
      match skipped : skipEscape rest with
      | .error fault => .error fault
      | .ok after =>
          have := length_of_skipEscape skipped
          skipString after
  | character :: rest =>
      if character < ' ' then .error (.after .controlCharacter text) else skipString rest
termination_by text.length
decreasing_by
  · simp only [List.length_cons]
    omega
  · simp

/-- One character of a written string. -/
def writeChar (character : Char) : List Char :=
  match character with
  | '"' => ['\\', '"']
  | '\\' => ['\\', '\\']
  | '\x08' => ['\\', 'b']
  | '\x0c' => ['\\', 'f']
  | '\n' => ['\\', 'n']
  | '\r' => ['\\', 'r']
  | '\t' => ['\\', 't']
  | other =>
      if other < ' ' then
        ['\\', 'u', '0', '0', Nat.digitChar (other.toNat / 16), Nat.digitChar (other.toNat % 16)]
      else [other]

/-- A written string with its quotes. -/
def writeString (text : String) : List Char :=
  '"' :: (text.toList.flatMap writeChar ++ ['"'])

end StreamingChat.Json
