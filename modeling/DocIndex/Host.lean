import DocIndex.Disk.Tree
import DocIndex.Settings
import DocIndex.Indexing

/-!
# The host a command runs on

A host has a file system, a working directory, a home directory and environment variables,
and it brings the parsers that read sources and the pool that runs indexing jobs.
A path a user gives is read the way the host reads it: a leading `~` stands for the home
directory, a relative path is taken from the working directory, and `..` goes up one
directory. Looking a path up needs every directory on the way to exist, a `..` included;
the name a path resolves to is worked out from the text alone.
-/

namespace DocIndex

open DocIndex.Disk

/-- A host: its file system from the root directory, its working and home directories as
parts from the root, its environment, the parsers it reads sources with, and the order in which
its pool ends a run's jobs. -/
structure Host where
  files : Node
  work : List String
  home : List String
  env : Environment
  parsers : Parsers
  pool : Scheduler

namespace Host

/-- The home directory as a path text. -/
def homeText (host : Host) : String :=
  (⟨"/", host.home⟩ : PurePath).text

/-- A path as a user gives it, with a leading `~` standing for the home directory. -/
def expandUser (host : Host) (text : String) : PurePath :=
  expandHome host.homeText (PurePath.parse text)

/-- The parts from the root where a path starts: the root for an absolute path, the
working directory otherwise. -/
def startOf (host : Host) (path : PurePath) : List String :=
  if path.root.isEmpty then host.work else []

/-- The node reached from the directory at `here` by following parts; each step needs a
directory to step from. -/
def follow (files : Node) : List String → List String → Option Node
  | here, [] => files.find? here
  | here, part :: rest =>
    match files.find? here with
    | some (.dir _) =>
      if part == ".." then follow files here.dropLast rest
      else follow files (here ++ [part]) rest
    | _ => none

/-- What is at a path, if anything. -/
def lookup (host : Host) (path : PurePath) : Option Node :=
  follow host.files (host.startOf path) path.parts

/-- The parts from the root that a path names, worked out from the text: `..` drops the
part before it. -/
def absoluteParts (host : Host) (path : PurePath) : List String :=
  path.parts.foldl (fun acc part => if part == ".." then acc.dropLast else acc ++ [part])
    (host.startOf path)

/-- The name a path resolves to: the last part of the directory it names, empty for the
root. -/
def resolvedName (host : Host) (path : PurePath) : String :=
  (host.absoluteParts path).getLastD ""

/-- A directory to index, given as a user writes it. -/
def sourceRoot (host : Host) (text : String) : SourceRoot :=
  let path := host.expandUser text
  { location := path.text, name := host.resolvedName path, node := host.lookup path }

/-- Write a node at a path. -/
def write (host : Host) (path : PurePath) (node : Node) : Host :=
  { host with files := host.files.put (host.absoluteParts path) node }

end Host

end DocIndex
