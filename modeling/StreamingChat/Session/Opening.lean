import StreamingChat.CommandLine
import StreamingChat.Session.Basic

/-!
# Opening sessions

A session is opened from the options of the command line, the surroundings of the program and the
files that these name. The first thing that is not in order ends it before anything is shown.
Main function: `Options.openSession`.
-/

namespace StreamingChat

namespace Options

/-- The path of the configuration file. -/
def configFile (options : Options) (surroundings : Surroundings) : String :=
  options.config.getD surroundings.configFile

/-- The path of the log file. A session for a single prompt has none. -/
def logFile? (options : Options) (surroundings : Surroundings) : Option String :=
  if options.prompt.isSome then none else some surroundings.logFile

/-- The warning that a log file cannot be opened. -/
def logWarning (path : String) (failure : FileFailure) : String :=
  s!"Warning: Could not open log file {Text.quoted path} ({failure.message}), logging to stderr\n"

/-- The paths of all files that are read. -/
def filesToRead (options : Options) (surroundings : Surroundings) : List String :=
  options.configFile surroundings :: (options.transcript.toList ++ options.images)

/-- The settings, after all layers. -/
def settings (options : Options) (surroundings : Surroundings) (files : String → FileState) :
    Except Trouble Settings :=
  let path := options.configFile surroundings
  (Settings.load path (files path) surroundings.environment).map fun settings =>
    settings.apply options.overrides

/-- The conversation to go on with. -/
def store (options : Options) (files : String → FileState) : Except Ending Store :=
  match options.transcript with
  | none => .ok Store.empty
  | some path =>
      match Transcript.load path (files path) with
      | .ok store => .ok store
      | .error (.trouble trouble) => .error (.trouble trouble)
      | .error .exhausted => .error .crashed

/-- The session that the options ask for, before it has done anything. -/
def prepare (options : Options) (surroundings : Surroundings) (palette : Palette)
    (files : String → FileState) : Except Ending Session := do
  let settings ← (options.settings surroundings files).mapError Ending.trouble
  let store ← options.store files
  let endpoint ← settings.endpoint.mapError Ending.trouble
  let images ← (options.images.mapM fun path => Image.ofFile path (files path)).mapError
    Ending.trouble
  .ok
    { sender := ⟨settings.userId, settings.flushesPartialLine⟩
      endpoint
      network :=
        ⟨some settings.connectTimeout, Http.Proxies.ofEnvironment surroundings.environment⟩
      transcript := options.transcript
      single := options.prompt.isSome
      store
      terminal := Terminal.start palette
      images
      phase := .prompting }

/-- Opens a session: shows the conversation, and sends the prompt of the options or asks for one. -/
def openSession (options : Options) (surroundings : Surroundings) (palette : Palette)
    (files : String → FileState) (now : SendTimes) :
    Except Ending (Session × List Action) := do
  let session ← options.prepare surroundings palette files
  .ok (Session.andThen session.render fun session =>
    match options.prompt with
    | some prompt => { session with images := [] }.submit prompt session.images now
    | none => session.ask)

end Options

end StreamingChat
