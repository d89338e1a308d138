import StreamingChat.Settings.Environment

/-!
# Default locations

Where the configuration and the log are kept unless a path is given. Base directories that are not
absolute paths do not count; without them the directories are those below the home directory.
-/

namespace StreamingChat

/-- What the default locations depend on. -/
structure Surroundings where
  environment : Environment
  /-- The home directory that the system has on record for the user. -/
  accountHome : String
  deriving DecidableEq, Repr

namespace Surroundings

/-- A path below a directory. -/
def below (directory name : String) : String :=
  if directory.endsWith "/" then directory ++ name else directory ++ "/" ++ name

/-- The home directory. -/
def home (surroundings : Surroundings) : String :=
  match surroundings.environment.get? "HOME" with
  | some home => if home.isEmpty then surroundings.accountHome else home
  | none => surroundings.accountHome

/-- The directory that a variable names, or one below the home directory. -/
def baseDirectory (surroundings : Surroundings) (variableName fallback : String) : String :=
  match surroundings.environment.get? variableName with
  | some directory =>
      if directory.startsWith "/" then directory else below surroundings.home fallback
  | none => below surroundings.home fallback

/-- The path of the configuration file. -/
def configFile (surroundings : Surroundings) : String :=
  below (surroundings.baseDirectory "XDG_CONFIG_HOME" ".config") "oswald-client/config.json"

/-- The path of the log file. -/
def logFile (surroundings : Surroundings) : String :=
  below (surroundings.baseDirectory "XDG_CACHE_HOME" ".cache") "oswald-client/client.log"

end Surroundings

end StreamingChat
