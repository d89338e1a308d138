/-!
# Colours

The escape codes that the terminal output uses. The plain palette has none, for output that goes
to a file or another program.
-/

namespace StreamingChat

/-- The codes of a palette. -/
structure Palette where
  reset : String
  dim : String
  bold : String
  italic : String
  green : String
  red : String
  cyan : String
  deriving DecidableEq, Repr

/-- The codes of a colour terminal. -/
def Palette.coloured : Palette where
  reset := "\x1b[0m"
  dim := "\x1b[2m"
  bold := "\x1b[1m"
  italic := "\x1b[3m"
  green := "\x1b[32m"
  red := "\x1b[31m"
  cyan := "\x1b[36m"

/-- No codes at all. -/
def Palette.plain : Palette := ⟨"", "", "", "", "", "", ""⟩

end StreamingChat
