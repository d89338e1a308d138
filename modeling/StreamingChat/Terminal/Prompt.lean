import StreamingChat.File
import StreamingChat.Terminal.Palette
import StreamingChat.Text.Blank

/-!
# Prompts

The user is asked for a prompt by a mark and answers with a line of input. The blank characters on
both ends of a line do not count, nor does its newline; a line that is not UTF-8 ends the asking.
-/

namespace StreamingChat

/-- The mark that asks for a prompt. -/
def Palette.promptMark (palette : Palette) : String :=
  s!"{palette.green}> {palette.reset}"

namespace Prompt

/-- The prompt that a line of input holds. -/
def ofLine (line : List UInt8) : Except Text.Utf8.Flaw String :=
  (Text.Utf8.decodeStrict line).map Text.trimString

/-- The prompts of some lines, and the flaw of the first line that is not UTF-8. -/
def ofLines : List (List UInt8) → List String × Option Text.Utf8.Flaw
  | [] => ([], none)
  | line :: rest =>
      match ofLine line with
      | .error flaw => ([], some flaw)
      | .ok prompt =>
          let (prompts, flaw) := ofLines rest
          (prompt :: prompts, flaw)

/-- How a line that is not UTF-8 is told. -/
def flawTrouble (flaw : Text.Utf8.Flaw) : Trouble :=
  ⟨s!"IO error: {flaw.message}", some flaw.message⟩

end Prompt

end StreamingChat
