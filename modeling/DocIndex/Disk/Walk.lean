import DocIndex.Disk.Tree
import DocIndex.Disk.Path
import DocIndex.Search.Entry

/-!
# Walking a source tree

The walk lists the files under a directory depth first: a directory's files in code-point
order of their names, then its subdirectories in the same order. A directory may list its
entries in any order; the walk sorts each listing before it reads it. Hidden files and
directories (their names start with a dot) are skipped, and so are directories that hold
dependencies or build output. Each directory visited is a cancellation checkpoint, the
walked directory first. A root that is not a directory has no files.
-/

namespace DocIndex.Disk

open DocIndex.Search

/-- Directories that hold dependencies or build output rather than sources. -/
def skippedDirs : List String :=
  ["node_modules", "__pycache__", "vendor", "venv", "site-packages"]

/-- Whether a name is hidden. -/
def isHidden (name : String) : Bool :=
  name.startsWith "."

/-- Whether the walk descends into a directory of this name. -/
def descendsInto (name : String) : Bool :=
  !isHidden name && !skippedDirs.contains name

/-- A file found by the walk. -/
structure SourceFile where
  relativePath : String
  extension : String
  size : Nat
  content : List UInt8

/-- A directory's entries as the walk reads them: sorted by name in code-point order, whatever
order the directory lists them in. -/
def listing (entries : List (String × Node)) : List (String × Node) :=
  entries.mergeSort fun a b => (compareText a.1 b.1).isLE

theorem listing_perm (entries : List (String × Node)) : (listing entries).Perm entries :=
  List.mergeSort_perm entries _

@[simp]
theorem mem_listing {entries : List (String × Node)} {entry : String × Node} :
    entry ∈ listing entries ↔ entry ∈ entries :=
  List.mem_mergeSort

@[simp]
theorem listing_nil : listing [] = [] :=
  List.mergeSort_nil

@[simp]
theorem listing_singleton (entry : String × Node) : listing [entry] = [entry] :=
  List.mergeSort_singleton entry

/-- Entries in another order have the same size. -/
theorem sizeOf_eq_of_perm {entries entries' : List (String × Node)}
    (reordered : entries.Perm entries') : sizeOf entries = sizeOf entries' := by
  induction reordered with
  | nil => rfl
  | cons _ _ ih => simp [ih]
  | swap => simp; omega
  | trans _ _ first second => exact first.trans second

/-- Sorting a listing keeps the size of the entries, so the walk below it terminates. -/
theorem sizeOf_listing (entries : List (String × Node)) :
    sizeOf (listing entries) = sizeOf entries :=
  sizeOf_eq_of_perm (listing_perm entries)

/-- The files directly in a directory's entries, in order, hidden ones skipped. -/
def filesOf (directory : String) (entries : List (String × Node)) : List SourceFile :=
  entries.filterMap fun (name, node) =>
    match node with
    | .file content =>
      if isHidden name then none
      else some ⟨directory ++ name, fileExtension name, content.length, content⟩
    | .dir _ => none

mutual

/-- The files under a directory whose path below the walked one is `directory` (empty or
ending with `/`). -/
def walkNode (halt : Halt) (directory : String) : Node → Except Failure (List SourceFile)
  | .file _ => .ok []
  | .dir entries => do
    checkpoint halt
    let listed := listing entries
    let below ← walkEntries halt directory listed
    pure (filesOf directory listed ++ below)
termination_by node => (sizeOf node, 1)
decreasing_by simp [Prod.lex_def, sizeOf_listing]

/-- The files under the subdirectories among entries, in order. -/
def walkEntries (halt : Halt) (directory : String) :
    List (String × Node) → Except Failure (List SourceFile)
  | [] => .ok []
  | (name, node) :: rest => do
    let here ← walkEntry halt directory name node
    let others ← walkEntries halt directory rest
    pure (here ++ others)
termination_by entries => (sizeOf entries, 0)
decreasing_by all_goals simp; omega

/-- The files under one entry, if it is a directory the walk descends into. -/
def walkEntry (halt : Halt) (directory : String) (name : String) :
    Node → Except Failure (List SourceFile)
  | .file _ => .ok []
  | .dir entries =>
    if descendsInto name then walkNode halt (directory ++ name ++ "/") (.dir entries)
    else .ok []
termination_by node => (sizeOf node, 2)
decreasing_by simp [Prod.lex_def]

end

/-- The files under a directory, in walk order. -/
def walk (halt : Halt) (root : Node) : Except Failure (List SourceFile) :=
  walkNode halt "" root

end DocIndex.Disk
