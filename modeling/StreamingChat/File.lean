import StreamingChat.Text.Utf8.Strict

/-!
# Files

What stands at a path, and why it cannot be read or written.
-/

namespace StreamingChat

/-- What stands at a path. -/
inductive FileState where
  | missing
  /-- A part of the path that should be a directory is a file. -/
  | throughFile
  /-- The path, or a name in it, is longer than any can be. -/
  | nameTooLong
  /-- The path has a zero character, which no path can have. -/
  | unnameable
  | directory
  /-- Something is there that the system does not let be read. -/
  | unreadable (reason : String)
  | content (bytes : List UInt8)
  deriving DecidableEq, Repr

/-- Whether anything stands at the path. -/
def FileState.exists : FileState → Bool
  | .missing => false
  | .throughFile => false
  | .nameTooLong => false
  | .unnameable => false
  | _ => true

/-- The greatest number of bytes in a name. -/
def maxNameBytes : Nat := 255

/-- The greatest number of bytes in a path. -/
def maxPathBytes : Nat := 4095

/-- Why a file is not read or written. -/
inductive FileFailure where
  | missing
  | directory
  /-- A part of the path that should be a directory is a file. -/
  | throughFile
  /-- The path, or a name in it, is longer than any can be. -/
  | nameTooLong
  /-- The path has a zero character, which no path can have. -/
  | unnameable
  /-- The file is not UTF-8 throughout. -/
  | notText
  /-- Another failure, told by the system. -/
  | system (reason : String)
  deriving DecidableEq, Repr

/-- How a failure is told. -/
def FileFailure.message : FileFailure → String
  | .missing => "No such file or directory (os error 2)"
  | .directory => "Is a directory (os error 21)"
  | .throughFile => "Not a directory (os error 20)"
  | .nameTooLong => "File name too long (os error 36)"
  | .unnameable => "file name contained an unexpected NUL byte"
  | .notText => "stream did not contain valid UTF-8"
  | .system reason => reason

/-- The bytes of a file. -/
def FileState.bytes : FileState → Except FileFailure (List UInt8)
  | .missing => .error .missing
  | .throughFile => .error .throughFile
  | .nameTooLong => .error .nameTooLong
  | .unnameable => .error .unnameable
  | .directory => .error .directory
  | .unreadable reason => .error (.system reason)
  | .content bytes => .ok bytes

/-- The text of a file that is UTF-8 throughout. -/
def FileState.text (file : FileState) : Except FileFailure String := do
  match Text.Utf8.decodeStrict (← file.bytes) with
  | .ok text => .ok text
  | .error _ => .error .notText

/-- Why something failed: what was attempted, and the cause if there is a deeper one. -/
structure Trouble where
  summary : String
  cause : Option String
  deriving DecidableEq, Repr

/-- A trouble on one line. -/
def Trouble.inline (trouble : Trouble) : String :=
  match trouble.cause with
  | some cause => s!"{trouble.summary}: {cause}"
  | none => trouble.summary

/-- A text whose further lines stand as far to the right as its first one. -/
def indented (text : String) : String :=
  String.ofList (text.toList.flatMap fun character =>
    if character = '\n' then "\n    ".toList else [character])

/-- A trouble as it is reported when the program gives up: the cause stands below, indented. -/
def Trouble.report (trouble : Trouble) : String :=
  match trouble.cause with
  | some cause => s!"Error: {trouble.summary}\n\nCaused by:\n    {indented cause}\n"
  | none => s!"Error: {trouble.summary}\n"

end StreamingChat
