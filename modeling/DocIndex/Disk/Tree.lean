import DocIndex.Search.Ranking

/-!
# Directory trees

A directory tree holds files (their bytes) and directories (their named entries). Writing
keeps a directory's entries in code-point order of their names; a directory built otherwise
may list them in any order, and the walk sorts every listing it reads. Writing a file
creates the directories above it; writing over an entry replaces it.
-/

namespace DocIndex.Disk

/-- A file or a directory. -/
inductive Node where
  | file (content : List UInt8)
  | dir (entries : List (String × Node))
  deriving Inhabited

namespace Node

/-- An empty directory. -/
def empty : Node := .dir []

/-- Whether a node is a directory. -/
def isDir : Node → Bool
  | .dir _ => true
  | .file _ => false

/-- Whether a node is a file. -/
def isFile : Node → Bool
  | .file _ => true
  | .dir _ => false

/-- The node at a path of names below this one. -/
def find? : Node → List String → Option Node
  | node, [] => some node
  | .dir entries, name :: rest =>
    match entries.lookup name with
    | some child => find? child rest
    | none => none
  | .file _, _ :: _ => none

/-- Put an entry into entries kept in code-point order of their names, replacing an entry
of the same name. -/
def placeEntry (name : String) (node : Node) : List (String × Node) → List (String × Node)
  | [] => [(name, node)]
  | (other, child) :: rest =>
    match Search.compareText name other with
    | .lt => (name, node) :: (other, child) :: rest
    | .eq => (name, node) :: rest
    | .gt => (other, child) :: placeEntry name node rest

/-- Put a node at a path of names below this one, creating the directories on the way; a
file on the way is replaced by a directory. -/
def put (node : Node) : List String → Node → Node
  | [], leaf => leaf
  | name :: rest, leaf =>
    let entries := match node with
      | .dir entries => entries
      | .file _ => []
    let below := (entries.lookup name).getD empty
    .dir (placeEntry name (put below rest leaf) entries)

/-- Create a directory at a path, keeping one that is already there. -/
def makeDir (node : Node) (path : List String) : Node :=
  match node.find? path with
  | some (.dir _) => node
  | _ => node.put path empty

/-- Remove the entry at a path of names below this one. -/
def remove : Node → List String → Node
  | node, [] => node
  | .dir entries, [name] => .dir (entries.filter fun entry => entry.1 != name)
  | .dir entries, name :: next :: rest =>
    .dir (entries.map fun entry =>
      if entry.1 == name then (entry.1, remove entry.2 (next :: rest)) else entry)
  | .file content, _ :: _ => .file content

end Node

end DocIndex.Disk
