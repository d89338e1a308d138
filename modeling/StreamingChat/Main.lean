import Std.Async.DNS
import Std.Async.System
import Std.Async.TCP
import Std.Async.Timer
import StreamingChat.Session.Opening
import StreamingChat.Settings.EnvFile

/-!
# The program

The program opens a session from its arguments, its environment and the files that these name, and
then goes round: it performs the actions that the session asks for and tells the session what came
of them. All that is decided here is where bytes come from and where they go.
-/

namespace StreamingChat.Program

/-! ## Files -/

/-- Why the system refuses a file. -/
def fileFailure : IO.Error → FileFailure
  | .noFileOrDirectory .. => .missing
  | .inappropriateType _ 20 _ => .throughFile
  | .invalidArgument _ 36 _ => .nameTooLong
  | .inappropriateType _ 21 _ => .directory
  | .permissionDenied _ code details => .system s!"{details} (os error {code})"
  | error => .system (toString error)

/-- What stands at a path. -/
def fileState (path : String) : IO FileState := do
  if path.contains '\x00' then return .unnameable
  try
    return .content (← IO.FS.readBinFile path).toList
  catch error =>
    match fileFailure error with
    | .missing => return .missing
    | .throughFile => return .throughFile
    | .nameTooLong => return .nameTooLong
    | .unnameable => return .unnameable
    | .directory => return .directory
    | other => return .unreadable other.message

/-- The files at some paths. -/
def fileStates (paths : List String) : IO (String → FileState) := do
  let states ← paths.mapM fun path => return (path, ← fileState path)
  return fun path => (states.lookup path).getD .missing

/-! ## Surroundings -/

/-- The first file among some paths. -/
def firstFile : List String → IO (List UInt8)
  | [] => return []
  | path :: rest => do
      match ← fileState path with
      | .content bytes => return bytes
      | _ => firstFile rest

/-- The environment variables. Where the system does not show them as bytes, they are those that
the program or an environment file reads. -/
def systemVariables (file : List UInt8) : IO (List Environment.Variable) := do
  try
    return Environment.splitBlock (← IO.FS.readBinFile "/proc/self/environ").toList
  catch _ =>
    let names := Environment.consulted ++ Http.Proxies.consulted ++ EnvFile.mentioned file
    names.filterMapM fun name =>
      return (← IO.getEnv name).map fun value => (name.toUTF8.toList, value.toUTF8.toList)

/-- The home directory that the system has on record. -/
def accountHome : IO String := do
  try
    return ((← Std.Async.System.getCurrentUser).homeDir.map toString).getD ""
  catch _ => return ""

/-- The surroundings, after the environment file. There is no answer if the file cannot be
applied. -/
def surroundings : IO (Option Surroundings) := do
  let file ← firstFile (EnvFile.candidates (toString (← IO.currentDir)))
  match EnvFile.load (.ofVariables (← systemVariables file)) file with
  | none => return none
  | some environment => return some ⟨environment, ← accountHome⟩

/-- The present time. -/
def now : IO Time.Timestamp := do
  let wall := (← Std.Time.Timestamp.now).toWallTime .zero
  let moment := Std.Time.PlainDateTime.ofWallTime wall
  let parts : Time.Stamp.Parts :=
    { year := moment.date.year.toInt
      month := moment.date.month.val.toNat
      day := moment.date.day.val.toNat
      hour := moment.time.hour.val.toNat
      minute := moment.time.minute.val.toNat
      second := moment.time.second.val.toNat
      nanosecond := moment.time.nanosecond.val.toNat
      offset := 0 }
  match parts.toTimestamp with
  | .ok timestamp => return timestamp
  | .error _ => throw (IO.userError "the clock is out of range")

/-- The times of a send that begins now: the clock is read for each of its messages. -/
def sendTimes : IO SendTimes := do
  let prompt ← now
  return ⟨prompt, ← now⟩

/-! ## Input, output and log -/

/-- Reads a line of input with its newline. -/
partial def readLine (input : IO.FS.Stream) (line : Array UInt8) : IO (Option (List UInt8)) := do
  match (← input.read 1)[0]? with
  | none => return if line.isEmpty then none else some line.toList
  | some byte =>
      if byte = 0x0A then return some (line.push byte).toList
      else readLine input (line.push byte)

/-- Tells the user something apart from the output. -/
def complain (text : String) : IO Unit := do
  let output ← IO.getStderr
  output.putStr text
  output.flush

/-- Writes an entry of the log. -/
def writeEntry (output : IO.FS.Stream) (entry : LogEntry) : IO Unit := do
  let time ← now
  output.putStrLn s!"{time.write} {entry.level.name} {entry.text}"
  output.flush

/-- Where the log is written to. A log file that cannot be opened is replaced by the standard
error. -/
def openLog (file : Option String) : IO IO.FS.Stream := do
  match file with
  | none => IO.getStderr
  | some path =>
      try
        if let some directory := ((← IO.currentDir) / path).parent then
          IO.FS.createDirAll directory
        return .ofHandle (← IO.FS.Handle.mk path .append)
      catch error =>
        complain (Options.logWarning path (fileFailure error))
        IO.getStderr

/-! ## Connections -/

/-- A connection to a server, or why there is none. -/
abbrev Connection : Type := Except String Std.Async.TCP.Socket.Client

/-- The address of a port. -/
def socketAddress (port : UInt16) : Std.Net.IPAddr → Std.Net.SocketAddress
  | .v4 addr => .v4 { addr, port }
  | .v6 addr => .v6 { addr, port }

/-- Connects to the first address that can be reached. -/
def reach (port : UInt16) :
    List Std.Net.IPAddr → Std.Async.Async Std.Async.TCP.Socket.Client
  | [] => throw (IO.userError "no address can be reached")
  | [address] => do
      let client ← Std.Async.TCP.Socket.Client.mk
      client.connect (socketAddress port address)
      return client
  | address :: rest => do
      let client ← Std.Async.TCP.Socket.Client.mk
      try
        client.connect (socketAddress port address)
        return client
      catch _ => reach port rest

/-- Gives up after a number of seconds. -/
def giveUp (seconds : UInt64) : Std.Async.Async Connection := do
  Std.Async.sleep ⟨seconds.toNat * 1000⟩
  return .error "operation timed out"

/-- Connects to the server of a request. -/
def dial (request : Http.Request) : Std.Async.Async Connection := do
  try
    let host := (request.server.host?.map Url.Host.lookupName).getD ""
    let addresses ← Std.Async.DNS.getAddrInfo host (toString request.port)
    return .ok (← reach request.port.toUInt16 addresses.toList)
  catch error => return .error (toString error)

/-- Sends a request over a new connection. The standard library cannot encrypt one. -/
def sendRequest (request : Http.Request) (patience : Option UInt64) :
    Std.Async.Async Connection := do
  if request.isEncrypted then return .error "encrypted connections are not available"
  let connection ←
    match patience with
    | none => dial request
    | some seconds => Std.Async.Async.race (dial request) (giveUp seconds)
  match connection with
  | .error reason => return .error reason
  | .ok client =>
      try
        client.send ⟨request.bytes.toArray⟩
        return .ok client
      catch error => return .error (toString error)

/-- Waits for something to happen on a connection. -/
def await (connection : Connection) : Std.Async.Async Http.NetworkEvent := do
  match connection with
  | .error reason => return .failed reason
  | .ok client =>
      try
        match ← client.recv? 65536 with
        | some bytes => return .received bytes.toList
        | none => return .closed
      catch error => return .failed (toString error)

/-! ## Running a session -/

/-- Performs an action. The answer is the present connection, or how the program ends. -/
def perform (log : IO.FS.Stream) (patience : Option UInt64) (connection : Connection) :
    Action → IO (Except Ending Connection)
  | .show bytes => do
      let output ← IO.getStdout
      output.write ⟨bytes.toArray⟩
      output.flush
      return .ok connection
  | .complain message => do
      complain (message ++ "\n")
      return .ok connection
  | .log entry => do
      writeEntry log entry
      return .ok connection
  | .connect request => return .ok (← (sendRequest request patience).block)
  | .save path text => do
      try
        IO.FS.writeFile path text
        return .ok connection
      catch error => return .error (.ofSaveFailure path (fileFailure error))
  | .finish ending => return .error ending

/-- Performs the actions of a session and tells it what comes of them, until it is over. -/
partial def run (log : IO.FS.Stream) (connection : Connection) (session : Session)
    (actions : List Action) : IO Ending := do
  match actions with
  | action :: rest =>
      match ← perform log session.network.patience connection action with
      | .ok connection => run log connection session rest
      | .error ending => return ending
  | [] =>
      match session.phase with
      | .over => return .finished
      | .prompting =>
          let line ← readLine (← IO.getStdin) #[]
          let (session, actions) := session.step (.typed line (← sendTimes))
          run log connection session actions
      | .sending _ =>
          let event ← (await connection).block
          let (session, actions) := session.step (.happened [event])
          run log connection session actions

/-- Opens the session that the options ask for and runs it. -/
def converse (options : Options) (surroundings : Surroundings) : IO Ending := do
  let log ← openLog (options.logFile? surroundings)
  let palette := if ← (← IO.getStdout).isTty then Palette.coloured else Palette.plain
  let files ← fileStates (options.filesToRead surroundings)
  match options.openSession surroundings palette files (← sendTimes) with
  | .error ending => return ending
  | .ok (session, actions) =>
      try
        run log (.error "not connected") session actions
      catch error =>
        return .trouble ⟨s!"IO error: {error}", some (toString error)⟩

/-- Runs the program and gives its exit code. -/
def execute (arguments : List String) : IO Nat := do
  match ← surroundings with
  | none => return Ending.crashed.code
  | some surroundings =>
      match CommandLine.read arguments with
      | .help => do
          IO.print CommandLine.helpText
          return 0
      | .version => do
          IO.print CommandLine.versionText
          return 0
      | .refused reason => do
          complain (CommandLine.complaint reason)
          return 2
      | .run options => do
          let ending ← converse options surroundings
          complain ending.report
          return ending.code

end StreamingChat.Program

def main (arguments : List String) : IO UInt32 :=
  return (← StreamingChat.Program.execute arguments).toUInt32
