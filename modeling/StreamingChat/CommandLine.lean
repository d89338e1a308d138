import StreamingChat.Settings.Basic
import StreamingChat.Settings.Locations

/-!
# The command line

The arguments of the program name what to send, with which files, and which settings to override.
Arguments are read from the left, and the first that cannot be read, or that asks for help or for
the version, decides. Main function: `CommandLine.read`.
-/

namespace StreamingChat

/-- What the arguments of the program ask for. -/
structure Options where
  /-- The one prompt to send. -/
  prompt : Option String
  /-- The paths of the images that go with the first prompt. -/
  images : List String
  /-- The path of the configuration file. -/
  config : Option String
  overrides : Overrides
  /-- The path of the file that the conversation is kept in. -/
  transcript : Option String
  /-- How much more than usual is logged. -/
  verbosity : Nat
  deriving DecidableEq, Repr

/-- What the arguments of the program amount to. -/
inductive CommandLine where
  | run (options : Options)
  | help
  | version
  /-- The arguments cannot be read. -/
  | refused (reason : String)
  deriving DecidableEq, Repr

namespace CommandLine

/-- The options that take a value. -/
inductive ValueOption where
  | prompt
  | image
  | config
  | serverUrl
  | apiVersion
  | userId
  | transcript
  deriving DecidableEq, Repr

/-- The options that take none. -/
inductive Switch where
  | flushPartialLine
  | verbose
  | help
  | version
  deriving DecidableEq, Repr

/-- The options with a value and their names. -/
def valueNames : List (String × ValueOption) :=
  [("prompt", .prompt), ("image", .image), ("config", .config), ("server-url", .serverUrl),
    ("api-version", .apiVersion), ("user-id", .userId), ("transcript", .transcript)]

/-- The options without a value and their names. -/
def switchNames : List (String × Switch) :=
  [("flush-partial-line", .flushPartialLine), ("verbose", .verbose), ("help", .help),
    ("version", .version)]

/-- Nothing is asked for. -/
def start : Options := ⟨none, [], none, ⟨none, none, none, none⟩, none, 0⟩

/-- The refusal of an option that is given twice. -/
def repeated (name : String) : CommandLine :=
  .refused s!"the argument '--{name}' cannot be used multiple times"

/-- The refusal of an option without its value. -/
def missingValue (name : String) : CommandLine :=
  .refused s!"a value is required for '--{name}' but none was supplied"

/-- The refusal of an argument that is no option. -/
def unexpected (argument : String) : CommandLine :=
  .refused s!"unexpected argument '{argument}' found"

/-- Fills in a field that may be given once. -/
def once (name : String) (field : Option String) (value : String)
    (fill : String → Options) : Except CommandLine Options :=
  if field.isSome then .error (repeated name) else .ok (fill value)

/-- Refuses an empty path. -/
def nonempty (name value : String) (next : Except CommandLine Options) :
    Except CommandLine Options :=
  if value.isEmpty then .error (missingValue name) else next

/-- Takes in the value of an option. -/
def give (options : Options) (option : ValueOption) (value : String) :
    Except CommandLine Options :=
  let overrides := options.overrides
  match option with
  | .prompt =>
      once "prompt" options.prompt value fun value => { options with prompt := some value }
  | .image => nonempty "image" value (.ok { options with images := options.images ++ [value] })
  | .config =>
      nonempty "config" value
        (once "config" options.config value fun value => { options with config := some value })
  | .serverUrl =>
      once "server-url" overrides.serverUrl value fun value =>
        { options with overrides := { overrides with serverUrl := some value } }
  | .apiVersion =>
      once "api-version" overrides.apiVersion value fun value =>
        { options with overrides := { overrides with apiVersion := some value } }
  | .userId =>
      once "user-id" overrides.userId value fun value =>
        { options with overrides := { overrides with userId := some value } }
  | .transcript =>
      nonempty "transcript" value
        (once "transcript" options.transcript value fun value =>
          { options with transcript := some value })

/-- Takes in an option without a value. -/
def turnOn (options : Options) (switch : Switch) : Except CommandLine Options :=
  match switch with
  | .flushPartialLine =>
      if options.overrides.flushesPartialLine.isSome then .error (repeated "flush-partial-line")
      else
        .ok { options with
          overrides := { options.overrides with flushesPartialLine := some true } }
  | .verbose => .ok { options with verbosity := options.verbosity + 1 }
  | .help => .error .help
  | .version => .error .version

/-- What is expected after an argument. -/
structure Progress where
  options : Options
  /-- The option whose value comes next, and its name. -/
  waiting : Option (String × ValueOption)
  /-- Whether no more options can come. -/
  closed : Bool
  deriving DecidableEq, Repr

/-- Goes on after an argument that is complete. -/
def Progress.go (options : Options) : Progress := ⟨options, none, false⟩

/-- The refusal of a missing value, if one is waited for. -/
def Progress.settled (progress : Progress) : Except CommandLine Unit :=
  match progress.waiting with
  | some (name, _) => .error (missingValue name)
  | none => .ok ()

/-- Reads an option that is named in full, perhaps with a value after an equals sign. -/
def readLong (progress : Progress) (argument : List Char) : Except CommandLine Progress := do
  let name := String.ofList (argument.takeWhile (· ≠ '='))
  let attached :=
    match argument.dropWhile (· ≠ '=') with
    | _ :: value => some (String.ofList value)
    | [] => none
  match valueNames.lookup name, switchNames.lookup name with
  | some option, _ => do
      progress.settled
      match attached with
      | some value => .ok (.go (← give progress.options option value))
      | none => .ok { progress with waiting := some (name, option) }
  | none, some switch =>
      if attached.isSome then
        .error (.refused s!"unexpected value for '--{name}' found; no more were expected")
      else do
        progress.settled
        .ok (.go (← turnOn progress.options switch))
  | none, none => .error (unexpected ("--" ++ name))

/-- The option without a value that a letter stands for. -/
def switchOf? (letter : Char) : Option Switch :=
  if letter = 'v' then some .verbose
  else if letter = 'h' then some .help
  else if letter = 'V' then some .version
  else none

/-- Reads options that are named by letters. A letter whose option takes a value is the last one,
and the rest of the argument is the value. -/
def readShort (progress : Progress) : List Char → Except CommandLine Progress
  | [] => .ok progress
  | 'p' :: rest => do
      progress.settled
      match rest with
      | [] => .ok { progress with waiting := some ("prompt", .prompt) }
      | '=' :: value => .ok (.go (← give progress.options .prompt (String.ofList value)))
      | value => .ok (.go (← give progress.options .prompt (String.ofList value)))
  | letter :: rest =>
      match switchOf? letter with
      | some switch => do
          progress.settled
          readShort (.go (← turnOn progress.options switch)) rest
      | none => .error (unexpected (String.ofList ['-', letter]))

/-- Reads an argument. -/
def step (progress : Progress) (argument : String) : Except CommandLine Progress :=
  if progress.closed then .error (unexpected argument)
  else
    match argument.toList with
    | ['-', '-'] => .ok { progress with closed := true }
    | '-' :: '-' :: name => readLong progress name
    | '-' :: letter :: rest => readShort progress (letter :: rest)
    | _ =>
        match progress.waiting with
        | some (_, option) =>
            (give progress.options option argument).map Progress.go
        | none => .error (unexpected argument)

/-- Reads the arguments of the program. -/
def read (arguments : List String) : CommandLine :=
  let final : Except CommandLine Options := do
    let progress ← arguments.foldlM step (.go start)
    progress.settled
    .ok progress.options
  match final with
  | .ok options => .run options
  | .error other => other

/-- The name and the version of the program. -/
def versionText : String := "oswald-client 0.1.0\n"

/-- The description of the arguments. -/
def helpText : String :=
  String.intercalate "\n"
    ["Chat with the Oswald agent server",
      "",
      "Usage: oswald-client [OPTIONS]",
      "",
      "Options:",
      "  -p, --prompt <PROMPT>            Send this prompt, print the answer and exit",
      "      --image <IMAGES>             Image file to attach to the first prompt " ++
        "(can be repeated)",
      "      --config <CONFIG>            Path to the config file",
      "      --server-url <SERVER_URL>    Base URL of the chat server",
      "      --api-version <API_VERSION>  ",
      "      --user-id <USER_ID>          ",
      "      --flush-partial-line         Parse an unterminated last event line when the " ++
        "stream ends",
      "      --transcript <TRANSCRIPT>    Resume the conversation from this file and save it " ++
        "after every send",
      "  -v, --verbose...                 Increase logging verbosity (-v, -vv)",
      "  -h, --help                       Print help",
      "  -V, --version                    Print version",
      ""]

/-- The complaint about arguments that cannot be read. -/
def complaint (reason : String) : String :=
  s!"error: {reason}\n\nUsage: oswald-client [OPTIONS]\n\nFor more information, try '--help'.\n"

end CommandLine

end StreamingChat
