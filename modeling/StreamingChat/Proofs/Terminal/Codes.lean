import StreamingChat.Proofs.Text.Utf8.Strict
import StreamingChat.Terminal.Render

/-!
# Erasing colour codes

A coloured text is the plain one with codes put in, which is what `Tints` says. Deleting the codes
from left to right finds just these: a code begins with an escape character, which nothing else has,
and no code begins with another one.
-/

namespace StreamingChat

open Text

namespace Palette

/-- The codes of a palette. -/
def codes (palette : Palette) : List (List UInt8) :=
  let texts := [palette.reset, palette.dim, palette.bold, palette.italic, palette.green,
    palette.red, palette.cyan]
  (texts.filter (· ≠ "")).map fun code => code.toUTF8.toList

/-- Deletes all codes after the next bytes, which belong to a code themselves. -/
def eraseCodes (codes : List (List UInt8)) : Nat → List UInt8 → List UInt8
  | _, [] => []
  | inside + 1, _ :: rest => eraseCodes codes inside rest
  | 0, byte :: rest =>
      match codes.find? fun code => code.isPrefixOf (byte :: rest) with
      | some code => eraseCodes codes (code.length - 1) rest
      | none => byte :: eraseCodes codes 0 rest

/-- Deletes every code of a palette. -/
def erase (palette : Palette) (bytes : List UInt8) : List UInt8 :=
  eraseCodes palette.codes 0 bytes

/-! ## Erasing codes -/

/-- The byte that codes begin with. -/
def escape : UInt8 := 0x1B

theorem codes_coloured :
    coloured.codes =
      [[escape, 0x5B, 0x30, 0x6D], [escape, 0x5B, 0x32, 0x6D], [escape, 0x5B, 0x31, 0x6D],
        [escape, 0x5B, 0x33, 0x6D], [escape, 0x5B, 0x33, 0x32, 0x6D],
        [escape, 0x5B, 0x33, 0x31, 0x6D], [escape, 0x5B, 0x33, 0x36, 0x6D]] := by
  decide +kernel

theorem erase_cons {byte : UInt8} (unescaped : byte ≠ escape) (rest : List UInt8) :
    coloured.erase (byte :: rest) = byte :: coloured.erase rest := by
  have noCode : coloured.codes.find? (fun code => code.isPrefixOf (byte :: rest)) = none := by
    simp [codes_coloured, List.isPrefixOf, unescaped.symm]
  rw [erase, eraseCodes, noCode, erase]

/-- The code that the bytes begin with is found, since no other one begins like it. -/
theorem erase_code_append {code : List UInt8} (member : code ∈ coloured.codes)
    (rest : List UInt8) : coloured.erase (code ++ rest) = coloured.erase rest := by
  rw [erase, erase, codes_coloured] at *
  simp only [List.mem_cons, List.not_mem_nil, or_false] at member
  rcases member with rfl | rfl | rfl | rfl | rfl | rfl | rfl <;> rfl

end Palette

/-! ## Coloured texts -/

/-- The first bytes are the second ones with codes put in, where these have no escape. -/
inductive Tints : List UInt8 → List UInt8 → Prop where
  | nil : Tints [] []
  | byte {byte : UInt8} {coloured plain : List UInt8} (unescaped : byte ≠ Palette.escape)
      (later : Tints coloured plain) : Tints (byte :: coloured) (byte :: plain)
  | code {code coloured plain : List UInt8} (member : code ∈ Palette.coloured.codes)
      (later : Tints coloured plain) : Tints (code ++ coloured) plain

namespace Tints

variable {first second coloured plain : List UInt8}

theorem erase_eq (tints : Tints coloured plain) : Palette.coloured.erase coloured = plain := by
  induction tints with
  | nil => rfl
  | byte unescaped later ih => rw [Palette.erase_cons unescaped, ih]
  | code member later ih => rw [Palette.erase_code_append member, ih]

theorem append (tints : Tints first second) (later : Tints coloured plain) :
    Tints (first ++ coloured) (second ++ plain) := by
  induction tints with
  | nil => exact later
  | byte unescaped _ ih => exact .byte unescaped ih
  | code member _ ih =>
      rw [List.append_assoc]
      exact .code member ih

theorem of_unescaped {bytes : List UInt8} (unescaped : Palette.escape ∉ bytes) :
    Tints bytes bytes := by
  induction bytes with
  | nil => exact .nil
  | cons byte rest ih =>
      rw [List.mem_cons, not_or] at unescaped
      exact .byte (Ne.symm unescaped.1) (ih unescaped.2)

end Tints

/-- Whether a text has no escape character. -/
def Text.Unescaped (text : String) : Prop :=
  '\x1b' ∉ text.toList

instance (text : String) : Decidable (Unescaped text) :=
  inferInstanceAs (Decidable ('\x1b' ∉ text.toList))

/-- A text is another one with codes put in. -/
def TintsText (coloured plain : String) : Prop :=
  Tints coloured.toUTF8.toList plain.toUTF8.toList

namespace TintsText

variable {first second coloured plain : String}

theorem append (tints : TintsText first second) (later : TintsText coloured plain) :
    TintsText (first ++ coloured) (second ++ plain) := by
  simp only [TintsText, Utf8.toList_toUTF8, String.toList_append, List.flatMap_append] at *
  exact tints.append later

theorem code {code : String} (member : code.toUTF8.toList ∈ Palette.coloured.codes) :
    TintsText code "" := by
  have nothing : "".toUTF8.toList = [] := by decide +kernel
  have tints := Tints.code member .nil
  rwa [List.append_nil, ← nothing] at tints

theorem of_unescaped {text : String} (unescaped : Unescaped text) : TintsText text text := by
  apply Tints.of_unescaped
  rw [Utf8.toList_toUTF8, List.mem_flatMap]
  rintro ⟨character, member, encodes⟩
  rw [Utf8.eq_of_mem_utf8EncodeChar (by decide) encodes] at member
  exact unescaped member

/-- Text is written behind coloured text as it is. -/
theorem text (tints : TintsText coloured plain) {text : String} (unescaped : Unescaped text) :
    TintsText (coloured ++ text) (plain ++ text) :=
  tints.append (of_unescaped unescaped)

end TintsText

theorem unescaped_toString (number : Nat) : Unescaped (toString number) := by
  intro member
  have digits : (toString number).toList = Nat.toDigits 10 number := String.toList_ofList
  rw [digits] at member
  exact absurd (Nat.isDigit_of_mem_toDigits (by decide) (by decide) member) (by decide)

namespace Palette

theorem tintsText_codes :
    TintsText coloured.reset "" ∧ TintsText coloured.dim "" ∧ TintsText coloured.bold "" ∧
      TintsText coloured.italic "" ∧ TintsText coloured.green "" ∧ TintsText coloured.red "" ∧
      TintsText coloured.cyan "" := by
  refine ⟨.code ?_, .code ?_, .code ?_, .code ?_, .code ?_, .code ?_, .code ?_⟩
  all_goals decide +kernel

theorem tintsText_headerText (role : Role) (images : Nat) :
    TintsText (coloured.headerText role images) (plain.headerText role images) := by
  rcases tintsText_codes with ⟨reset, dim, bold, -, green, -, cyan⟩
  cases role with
  | user =>
      have count : TintsText
          (if images = 0 then "" else s!"{coloured.dim}[{images} image(s)]{coloured.reset} ")
          (if images = 0 then "" else s!"{plain.dim}[{images} image(s)]{plain.reset} ") := by
        split
        · exact .of_unescaped (by decide)
        · have number : Unescaped (toString images) := unescaped_toString images
          exact ((((dim.text (by decide)).text number).text (by decide)).append reset).text
            (by decide)
      exact ((((green.append bold).text (by decide)).append reset).text (by decide)).append count
  | assistant =>
      exact (((cyan.append bold).text (by decide)).append reset).text (by decide)

theorem tintsText_logText (failure : Bool) {entry : String} (unescaped : Unescaped entry) :
    TintsText (coloured.logText failure entry) (plain.logText failure entry) := by
  rcases tintsText_codes with ⟨reset, dim, -, italic, -, red, -⟩
  have spaces : TintsText "  " "  " := .of_unescaped (by decide)
  unfold logText
  split
  · exact ((((spaces.append red).text (by decide)).text unescaped).append reset).text (by decide)
  · exact (((((spaces.append dim).append italic).text (by decide)).text unescaped).append
      reset).text (by decide)

end Palette

end StreamingChat
