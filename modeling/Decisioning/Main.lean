import Decisioning.CommandLine.Run

/-!
# The Program

The commands on the real file system.

This is the only module that performs input and output. It turns the errors of
the system into causes, offers the file operations that commands ask for, and
prints an outcome.

## Main definitions

* `CommandLine.systemWorld`: The file operations.
* `main`: Run the arguments of the program.
-/

namespace Decisioning

namespace FileError

/-- The code by which the system reports a path through something that is not a
    directory. -/
def notDirectoryCode : UInt32 := 20

/-- The code by which the system reports a directory in the place of a file. -/
def isDirectoryCode : UInt32 := 21

/-- Whether the system means a code, which it may report with either sign. -/
def isCode (meant reported : UInt32) : Bool := reported = meant || reported = -meant

/-- The cause of a file operation's failure. -/
def ofSystem : IO.Error → FileError
  | .noFileOrDirectory _ _ _ => .notFound
  | .inappropriateType file code details =>
      if isCode notDirectoryCode code then .notDirectory
      else if isCode isDirectoryCode code then .isDirectory
      else .other (toString (IO.Error.inappropriateType file code details))
  | error => .other (toString error)

end FileError

namespace CommandLine

/-- Perform a file operation, unless one of its paths cannot be used. -/
def attempt {α : Type} (paths : List String) (operation : IO α) : IO (Except FileError α) :=
  match paths.findSome? Directory.nameFault? with
  | some fault => return .error fault
  | none => do
      try
        return .ok (← operation)
      catch error =>
        return .error (.ofSystem error)

/-- The path of a name in a directory; the empty path is the working
    directory. -/
def pathIn (directory name : String) : String :=
  if directory.isEmpty || directory.endsWith "/" then directory ++ name
  else directory ++ "/" ++ name

/-- The text of a file. -/
def readTextFile (path : String) : IO (Except FileError String) := do
  match ← attempt [path] (IO.FS.readBinFile path) with
  | .error fault => return .error fault
  | .ok bytes =>
      match String.fromUTF8? bytes with
      | some text => return .ok text
      | none => return .error .notText

/-- The operations on a directory, with a counter of tickets. -/
def systemDirectory (tickets : IO.Ref Nat) (directory : String) : DirectoryAccess IO where
  create := attempt [directory] do
    if !directory.isEmpty then IO.FS.createDirAll directory
  read name := attempt [pathIn directory name] (IO.FS.readBinFile (pathIn directory name))
  write name bytes :=
    attempt [pathIn directory name] (IO.FS.writeBinFile (pathIn directory name) bytes)
  rename source target := attempt [pathIn directory source, pathIn directory target]
    (IO.FS.rename (pathIn directory source) (pathIn directory target))
  remove name := attempt [pathIn directory name] (IO.FS.removeFile (pathIn directory name))
  ticket := tickets.modifyGet fun n => (n, n + 1)

/-- The bound of process numbers. -/
def maxProcess : Nat := 4194304

/-- What commands may use of the system; `seed` makes the process and its
    requests differ from all others. -/
def systemWorld (tickets : IO.Ref Nat) (seed : Nat) : World IO where
  readText := readTextFile
  directory := systemDirectory tickets
  process := seed % maxProcess
  requestId n := toString seed ++ "-" ++ toString n

/-- The bound of random seeds. -/
def maxSeed : Nat := 4611686018427387904

end CommandLine

end Decisioning

/-- Run the arguments of the program. -/
def main (arguments : List String) : IO UInt32 := do
  let seed ← IO.rand 1 Decisioning.CommandLine.maxSeed
  let tickets ← IO.mkRef 0
  let outcome ← Decisioning.CommandLine.run
    (Decisioning.CommandLine.systemWorld tickets seed) arguments
  (← IO.getStdout).putStr outcome.output
  (← IO.getStderr).putStr outcome.errors
  return outcome.code.toUInt32
