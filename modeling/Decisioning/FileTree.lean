import Decisioning.Cache.Directory

/-!
# File Trees

A tree of folders and files, and what paths mean in it.

A path is followed from the working directory, or from the root if it starts
with a slash. Each step needs a folder to start from; two dots go back one
step, one dot stays, and a slash at the end asks for a folder like a dot would.
There are no links, so going back and having never been there are the same.

What stands at the end of a path is seen as a `Directory` where a directory is
asked for, so caches work in a tree as they do in a directory of their own.

## Main definitions

* `FileTree`: A tree with a working directory.
* `FileTree.locate`: The place that a path leads to.
* `FileTree.readText`: The text of a file.
* `FileTree.directory`: What stands where a directory is expected.
* `FileTree.access`: The operations on a directory of the tree.
-/

namespace Decisioning

/-- A place in a tree: the names on the way from the root. -/
abbrev Place := List String

namespace Node

/-- The node at a place below a node. -/
def find? : Place → Node → Option Node
  | [], node => some node
  | name :: rest, .folder entries => (lookup? name entries).bind (find? rest)
  | _ :: _, .file _ => none

/-- Put a node at a place below a folder with the given entries, making the
    folders that are missing on the way. -/
def putIn (node : Node) : Place → List (String × Node) → List (String × Node)
  | [], entries => entries
  | [name], entries => insertEntry name node entries
  | name :: rest, entries =>
      let inner := match lookup? name entries with
        | some (.folder inner) => inner
        | _ => []
      insertEntry name (.folder (putIn node rest inner)) entries

end Node

/-- A tree of folders and files. -/
structure FileTree where
  /-- The entries of the root, sorted by name. -/
  entries : List (String × Node)
  workingDirectory : Place
  nextTicket : Nat
deriving Inhabited

namespace FileTree

/-- The pieces of a path between its slashes. -/
def piecesOf (path : String) : List String := (path.toList.splitOn '/').map String.ofList

/-- The names on a path: its pieces that are not empty. -/
def namesOf (path : String) : List String := (piecesOf path).filter (!·.isEmpty)

/-- The steps of a path. -/
def stepsOf (path : String) : List String :=
  let pieces := piecesOf path
  namesOf path ++ (if pieces.length > 1 && pieces.getLast? = some "" then ["."] else [])

/-- The place where a path starts. -/
def origin (tree : FileTree) (path : String) : Place :=
  if path.startsWith "/" then [] else tree.workingDirectory

/-- The node at a place. -/
def find? (tree : FileTree) (place : Place) : Option Node :=
  (Node.folder tree.entries).find? place

/-- Where a step from a folder leads to. -/
def step (here : Place) (name : String) : Except FileError Place :=
  if name = "." then .ok here
  else if name = ".." then .ok here.dropLast
  else
    match Directory.lengthFault? name with
    | some fault => .error fault
    | none => .ok (here ++ [name])

/-- Go through steps; each of them must start from a folder. -/
def walk (tree : FileTree) (here : Place) : List String → Except FileError Place
  | [] => .ok here
  | name :: rest =>
      match tree.find? here with
      | none => .error .notFound
      | some (.file _) => .error .notDirectory
      | some (.folder _) =>
          match step here name with
          | .error fault => .error fault
          | .ok next => walk tree next rest

/-- The place that a path leads to; nothing need be there. -/
def locate (tree : FileTree) (path : String) : Except FileError Place :=
  match Directory.nameFault? path with
  | some fault => .error fault
  | none => tree.walk (tree.origin path) (stepsOf path)

/-- Put a node at a place, making the folders that are missing on the way. -/
def put (tree : FileTree) (place : Place) (node : Node) : FileTree :=
  { tree with entries := node.putIn place tree.entries }

/-- The bytes of a file. -/
def readBytes (tree : FileTree) (path : String) : Except FileError ByteArray :=
  if path.isEmpty then .error .notFound
  else
    match tree.locate path with
    | .error fault => .error fault
    | .ok place =>
        match tree.find? place with
        | none => .error .notFound
        | some (.folder _) => .error .isDirectory
        | some (.file bytes) => .ok bytes

/-- The text of a file. -/
def readText (tree : FileTree) (path : String) : Except FileError String :=
  match tree.readBytes path with
  | .error fault => .error fault
  | .ok bytes =>
      match String.fromUTF8? bytes with
      | some text => .ok text
      | none => .error .notText

/-- What stands where a directory is expected; an empty path is the working
    directory. -/
def directory (tree : FileTree) (path : String) : Directory :=
  match tree.locate path with
  | .error .notFound => .missing
  | .error fault => .blocked fault
  | .ok place =>
      match tree.find? place with
      | none => .missing
      | some (.file _) => .blocked .notDirectory
      | some (.folder entries) => .present entries

/-- Go through steps, making the folders that are missing. -/
def makeFolders (tree : FileTree) (here : Place) : List String → Except FileError FileTree
  | [] =>
      match tree.find? here with
      | none => .ok (tree.put here (.folder []))
      | some (.file _) => .error .notDirectory
      | some (.folder _) => .ok tree
  | name :: rest =>
      match tree.makeFolders here [] with
      | .error fault => .error fault
      | .ok tree =>
          match step here name with
          | .error fault => .error fault
          | .ok next => tree.makeFolders next rest
termination_by steps => steps.length

/-- Make sure that there is a directory. -/
def create (tree : FileTree) (path : String) : Except FileError FileTree :=
  match Directory.nameFault? path with
  | some fault => .error fault
  | none => tree.makeFolders (tree.origin path) (stepsOf path)

/-- Change a directory that exists, unless the operation fails. -/
def change (tree : FileTree) (path : String)
    (operation : Directory → Except FileError Directory) : Except FileError FileTree :=
  match operation (tree.directory path), tree.locate path with
  | .error fault, _ | _, .error fault => .error fault
  | .ok (.present entries), .ok [] => .ok { tree with entries }
  | .ok (.present entries), .ok place => .ok (tree.put place (.folder entries))
  | .ok _, .ok _ => .ok tree

/-- Replace the tree by the outcome of an operation, unless it fails. -/
def update (operation : FileTree → Except FileError FileTree) :
    StateM FileTree (Except FileError Unit) := do
  match operation (← get) with
  | .error fault => return .error fault
  | .ok tree =>
      set tree
      return .ok ()

/-- The operations on a directory of the tree. -/
def access (path : String) : DirectoryAccess (StateM FileTree) where
  create := update fun tree => tree.create path
  read name := return ((← get).directory path).read name
  write name bytes := update fun tree => tree.change path fun d => d.write name bytes
  rename source target := update fun tree => tree.change path fun d => d.rename source target
  remove name := update fun tree => tree.change path fun d => d.remove name
  ticket := modifyGet fun tree => (tree.nextTicket, { tree with nextTicket := tree.nextTicket + 1 })

end FileTree

end Decisioning
