import Decisioning.Cache.File
import Decisioning.CommandLine.Outcome
import Decisioning.FileTree
import Decisioning.Settings
import Decisioning.Validation.Payload

/-!
# Running Commands

From a list of arguments to an outcome.

Commands use files only through a record of operations, a `World`. The same
commands therefore run on a tree of files and on a real file system.

## Main definitions

* `World`: What a command may use.
* `CommandLine.execute`: Run one command.
* `CommandLine.run`: Run a list of arguments.
-/

namespace Decisioning

namespace CommandLine

/-- What a command may use. -/
structure World (m : Type → Type) where
  /-- The text of a file. -/
  readText : String → m (Except FileError String)
  /-- The directory at a path. -/
  directory : String → DirectoryAccess m
  /-- A number that no other process has. -/
  process : Nat
  /-- The ids of requests, all of them different. -/
  requestId : Nat → String

variable {m : Type → Type} [Monad m]

/-- The settings of a file. -/
def readSettings (world : World m) (file : String) : m (Except Failure Settings) := do
  match ← world.readText file with
  | .error cause =>
      return .error (.because ("could not read '" ++ file ++ "': " ++ cause.message))
  | .ok text =>
      match Settings.ofToml? text with
      | none => return .error (.because ("could not parse '" ++ file ++ "': not a configuration"))
      | some settings =>
          match settings.fault? with
          | some fault => return .error (.because fault.message)
          | none => return .ok settings

/-- The settings that options name, or the standard ones. -/
def settingsOf (world : World m) (options : Options) : m (Except Failure Settings) :=
  match options.config with
  | some file => readSettings world file
  | none => pure (.ok .standard)

/-- The value that a file holds. -/
def readJson (world : World m) (file : String) : m (Except Failure Json) := do
  match ← world.readText file with
  | .error cause =>
      return .error (.because ("error reading file '" ++ file ++ "': " ++ cause.message))
  | .ok text =>
      match Json.ofText? text with
      | some value => return .ok value
      | none => return .error (.because ("error parsing JSON in '" ++ file ++ "': not a JSON text"))

/-- The cache in the directory at a path. -/
def cacheIn (world : World m) (directory : String) : Cache m :=
  FileCache.cache (world.directory directory) world.process

/-- Summarize what a payload comes to. -/
def summarize (world : World m) (file : String) (surfaces : List String) :
    m (Except Failure Response) := do
  let requested := surfaces.map Surface.mk
  match requested.find? fun s => !s.isValid with
  | some s => return .error (.because ("invalid surface '" ++ s.uri ++ "'"))
  | none =>
      return (← readJson world file).map fun payload =>
        .ofSummary (.ofBatch (Proposition.ofPayload payload) (.ofList requested))

/-- Check that a payload is well formed. -/
def validate (world : World m) (file : String) : m (Except Failure Response) := do
  match ← readJson world file with
  | .error failure => return .error failure
  | .ok payload =>
      match Check.payload payload with
      | [] => return .ok .wellFormed
      | violations => return .error (.invalidPayload violations)

/-- Replay a session. -/
def replay (world : World m) (settings : Settings) (file : String) :
    m (Except Failure Response) := do
  match ← readJson world file with
  | .error failure => return .error failure
  | .ok value =>
      match Session.ofRecord? value with
      | none => return .error (.because ("invalid session '" ++ file ++ "': not a list of steps"))
      | some session =>
          let home : Home m :=
            { cache := settings.cacheDir.map (cacheIn world), key := settings.cacheKey }
          return .ok (.ofSession (← session.replay settings.appId home world.requestId))

/-- Use the directory that a command or the settings name. -/
def withDirectory (settings : Settings) (directory : Option String)
    (use : String → m (Except Failure Response)) : m (Except Failure Response) :=
  match directory <|> settings.cacheDir with
  | some path => use path
  | none => pure (.error (.because
      "no cache directory: pass --dir or set cache_dir in the config"))

/-- Show what is cached in a directory. -/
def showCache (world : World m) (settings : Settings) (directory : String) :
    m (Except Failure Response) := do
  match ← (cacheIn world directory).get settings.cacheKey with
  | .error e => return .error (.because ("error reading cache: " ++ e.message))
  | .ok none => return .ok (.nothingCached directory)
  | .ok (some entry) => return .ok (.ofEntry entry)

/-- Drop what is cached in a directory. -/
def clearCache (world : World m) (settings : Settings) (directory : String) :
    m (Except Failure Response) := do
  match ← (cacheIn world directory).remove settings.cacheKey with
  | .error e => return .error (.because ("error clearing cache: " ++ e.message))
  | .ok () => return .ok .cleared

/-- Run one command. -/
def execute (world : World m) (settings : Settings) : Command → m (Except Failure Response)
  | .parse file surfaces => summarize world file surfaces
  | .validate file => validate world file
  | .replay file => replay world settings file
  | .showCache directory => withDirectory settings directory (showCache world settings)
  | .clearCache directory => withDirectory settings directory (clearCache world settings)

/-- The name and version of the program. -/
def versionLine : String := "inbound 0.1.0\n"

/-- How the program is used. -/
def usage : String := unlines [
  "Usage: inbound [OPTIONS] <COMMAND>",
  "",
  "Commands:",
  "  parse FILE --surface URI...   Summarize what a payload comes to",
  "  validate FILE                 Check that a payload is well formed",
  "  replay FILE                   Replay a session",
  "  cache show [--dir DIR]        Show what is cached",
  "  cache clear [--dir DIR]       Drop what is cached",
  "",
  "Options:",
  "  --output text|json   The form of what is printed",
  "  --quiet              Print as little as possible",
  "  --log-level LEVEL    How much is logged",
  "  --config FILE        The settings"]

/-- Run a list of arguments, without the name of the program. -/
def run (world : World m) (arguments : List String) : m Outcome := do
  match Invocation.ofArguments arguments with
  | .version => return { code := 0, output := versionLine, errors := "" }
  | .help => return { code := 0, output := usage, errors := "" }
  | .misuse => return { code := 2, output := "", errors := usage }
  | .run options command =>
      match ← settingsOf world options with
      | .error failure => return .ofResult options (.error failure)
      | .ok settings => return .ofResult options (← execute world settings command)

end CommandLine

/-- The operations of commands on a tree of files. -/
def FileTree.world (process : Nat) (requestId : Nat → String) :
    CommandLine.World (StateM FileTree) where
  readText path := return (← get).readText path
  directory := FileTree.access
  process := process
  requestId := requestId

end Decisioning
