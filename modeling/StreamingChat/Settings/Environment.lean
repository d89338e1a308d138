import StreamingChat.Text.Utf8.Strict

/-!
# Environment variables

The environment is a list of names with their values. A name that comes twice has its first value.
The system keeps names and values as bytes: a variable whose value is no text is not set.
-/

namespace StreamingChat

/-- The environment of the program. -/
structure Environment where
  bindings : List (String × String)
  deriving DecidableEq, Repr

namespace Environment

/-- The value of a variable, if it is set. -/
def get? (environment : Environment) (name : String) : Option String :=
  environment.bindings.lookup name

/-- Sets a variable that has no value yet. -/
def provide (environment : Environment) (name value : String) : Environment :=
  if (environment.get? name).isSome then environment
  else ⟨environment.bindings ++ [(name, value)]⟩

/-- The names of the variables that the program reads. -/
def consulted : List String :=
  ["HOME", "XDG_CONFIG_HOME", "XDG_CACHE_HOME", "OSWALD_SERVER_URL", "OSWALD_API_VERSION",
    "OSWALD_USER_ID"]

/-! ## Variables of the system -/

/-- A variable of the system: its name and its value. -/
abbrev Variable : Type := List UInt8 × List UInt8

/-- The variables of a block, in which each of them ends with a zero byte and its name with the
first equals sign. -/
def splitBlock (block : List UInt8) : List Variable :=
  (block.splitOn 0).filterMap fun entry =>
    match entry.span (· ≠ 0x3D) with
    | (_, []) => none
    | (name, _ :: value) => some (name, value)

/-- A variable of which both the name and the value are text. -/
def binding? : Variable → Option (String × String)
  | (name, value) =>
      match Text.Utf8.decodeStrict name, Text.Utf8.decodeStrict value with
      | .ok name, .ok value => some (name, value)
      | _, _ => none

/-- The environment of the variables of the system, of which the first one with a name counts. -/
def ofVariables (system : List Variable) : Environment :=
  let counting := system.filter fun given => system.lookup given.1 = some given.2
  ⟨counting.filterMap binding?⟩

end Environment

end StreamingChat
