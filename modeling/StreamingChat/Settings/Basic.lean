import StreamingChat.File
import StreamingChat.Json.Record
import StreamingChat.Json.Value
import StreamingChat.Settings.Environment
import StreamingChat.Url.Reading

/-!
# Settings

The settings come from three layers: a configuration file, in which every field may be left out,
environment variables, and the command line. Each layer overrides single fields of those below.
Main functions: `Settings.load`, `Settings.apply`, `Settings.endpoint`.
-/

namespace StreamingChat

/-- The settings of the connection to the server. -/
structure Settings where
  serverUrl : String
  apiVersion : String
  /-- Sent with every prompt. -/
  userId : String
  /-- How many seconds a connection may take to be made. -/
  connectTimeout : UInt64
  /-- Whether a last line without a newline is read, too. -/
  flushesPartialLine : Bool
  deriving DecidableEq, Repr

/-- The fields that a layer overrides. -/
structure Overrides where
  serverUrl : Option String
  apiVersion : Option String
  userId : Option String
  flushesPartialLine : Option Bool
  deriving DecidableEq, Repr

/-- The fields that environment variables override. An empty variable counts. -/
def Environment.overrides (environment : Environment) : Overrides where
  serverUrl := environment.get? "OSWALD_SERVER_URL"
  apiVersion := environment.get? "OSWALD_API_VERSION"
  userId := environment.get? "OSWALD_USER_ID"
  flushesPartialLine := none

namespace Settings

/-- The settings where nothing is configured. -/
def standard : Settings where
  serverUrl := "http://localhost:8000"
  apiVersion := "v1"
  userId := "anonymous"
  connectTimeout := 10
  flushesPartialLine := false

/-- The fields of a configuration read so far. -/
structure Draft where
  serverUrl : Option String
  apiVersion : Option String
  userId : Option String
  connectTimeout : Option UInt64
  flushesPartialLine : Option Bool
  deriving DecidableEq, Repr

/-- The settings of a draft, whose missing fields are the standard ones. -/
def Draft.settings (draft : Draft) : Settings where
  serverUrl := draft.serverUrl.getD standard.serverUrl
  apiVersion := draft.apiVersion.getD standard.apiVersion
  userId := draft.userId.getD standard.userId
  connectTimeout := draft.connectTimeout.getD standard.connectTimeout
  flushesPartialLine := draft.flushesPartialLine.getD standard.flushesPartialLine

/-- The fields of a configuration. -/
def shape : Json.Shape Draft Settings where
  name := "ClientConfig"
  fields := [
    { name := "server_url"
      required := false
      given := fun draft => draft.serverUrl.isSome
      read := fun draft => do
        let serverUrl ← Json.Reader.string
        pure { draft with serverUrl := some serverUrl } },
    { name := "api_version"
      required := false
      given := fun draft => draft.apiVersion.isSome
      read := fun draft => do
        let apiVersion ← Json.Reader.string
        pure { draft with apiVersion := some apiVersion } },
    { name := "user_id"
      required := false
      given := fun draft => draft.userId.isSome
      read := fun draft => do
        let userId ← Json.Reader.string
        pure { draft with userId := some userId } },
    { name := "connect_timeout_secs"
      required := false
      given := fun draft => draft.connectTimeout.isSome
      read := fun draft => do
        let connectTimeout ← Json.Reader.natural
        pure { draft with connectTimeout := some connectTimeout } },
    { name := "flush_partial_line"
      required := false
      given := fun draft => draft.flushesPartialLine.isSome
      read := fun draft => do
        let flushesPartialLine ← Json.Reader.boolean
        pure { draft with flushesPartialLine := some flushesPartialLine } }]
  blank := ⟨none, none, none, none, none⟩
  finish := fun draft => .ok draft.settings

/-- Reads a configuration. -/
def read (text : String) : Except Json.Fault Settings :=
  shape.reader.parse text.toList

/-- The record of all settings. -/
def toValue (settings : Settings) : Json.Value :=
  .object [("server_url", .string settings.serverUrl),
    ("api_version", .string settings.apiVersion), ("user_id", .string settings.userId),
    ("connect_timeout_secs", .natural settings.connectTimeout.toNat),
    ("flush_partial_line", .boolean settings.flushesPartialLine)]

/-- The settings of a configuration file. Where there is no file they are the standard ones. -/
def ofFile (path : String) (file : FileState) : Except Trouble Settings :=
  if !file.exists then .ok standard
  else
    match file.text with
    | .error failure => .error ⟨s!"Failed to read config {path}", some failure.message⟩
    | .ok text =>
        match read text with
        | .error fault => .error ⟨s!"Invalid config {path}", some (fault.message text.toList)⟩
        | .ok settings => .ok settings

/-- Overrides single fields. -/
def apply (settings : Settings) (overrides : Overrides) : Settings where
  serverUrl := overrides.serverUrl.getD settings.serverUrl
  apiVersion := overrides.apiVersion.getD settings.apiVersion
  userId := overrides.userId.getD settings.userId
  connectTimeout := settings.connectTimeout
  flushesPartialLine := overrides.flushesPartialLine.getD settings.flushesPartialLine

/-- The settings of a configuration file, overridden by the environment. -/
def load (path : String) (file : FileState) (environment : Environment) :
    Except Trouble Settings :=
  (ofFile path file).map fun settings => settings.apply environment.overrides

/-- The address of the server as the base of other URLs: it ends with one slash. -/
def baseText (settings : Settings) : String :=
  let trimmed := (settings.serverUrl.toList.reverse.dropWhile (· = '/')).reverse
  String.ofList (trimmed ++ ['/'])

/-- The reference to the place that prompts are sent to, relative to the server. -/
def endpointReference (settings : Settings) : String :=
  s!"api/{settings.apiVersion}/chat/send"

/-- The URL that prompts are sent to. -/
def endpoint (settings : Settings) : Except Trouble Url :=
  match Url.read settings.baseText with
  | .error flaw => .error ⟨s!"Invalid server URL: {settings.serverUrl}", some flaw.message⟩
  | .ok base =>
      match base.join settings.endpointReference with
      | .error flaw => .error ⟨flaw.message, none⟩
      | .ok endpoint => .ok endpoint

end Settings

end StreamingChat
