import DocIndex.Go.Page
import DocIndex.Go.Module
import DocIndex.Extract.Extractor
import DocIndex.Disk.Walk

/-!
# Indexing Go sources

The accepted files under a directory are grouped by the directory they lie in, each
directory one package page, in the order the walk first reaches them. A package's import
path is the module path (or, without `go.mod`, the directory's own name) joined with the
package directory. The module path is read before the walk, so a broken `go.mod` is
reported even when the work was cancelled. A parser, given as a parameter, reads the
declarations and comments of each file's bytes.
-/

namespace DocIndex.Go

open DocIndex.Disk DocIndex.Document DocIndex.Extract DocIndex.Search

/-- The import path of a package directory, given the module path or the root's name. -/
def importPath (base : String) (directory : String) : String :=
  if directory.isEmpty || directory == "." then base
  else if base.isEmpty then directory
  else base ++ "/" ++ directory

/-- The package directory of a file: its parent directory, `.` for the root. -/
def packageDirectory (relativePath : String) : String :=
  (PurePath.parse relativePath).parent.text

/-- Add the declarations of one file to the package of its directory; packages are kept
in the order of first appearance. -/
def addFile (parse : List UInt8 → List Decl) (base : String) (packages : List Package)
    (file : SourceFile) : List Package :=
  let directory := packageDirectory file.relativePath
  let decls := parse file.content
  let path := importPath base directory
  if packages.any (·.directory == directory) then
    packages.map fun package =>
      if package.directory == directory then package.collect path [] decls else package
  else packages ++ [(Package.empty directory).collect path [] decls]

/-- Index the Go sources under a directory: `location` is its path, used in messages, and
`name` its own name. -/
def indexDirectory (parse : List UInt8 → List Decl) (halt : Halt) (location name : String)
    (root : Node) : Except Failure Index := do
  let modulePath ← readModulePath location root
  let files ← walk halt root
  let accepted := files.filter fun file =>
    goExtractor.accepts file.relativePath (some file.extension)
  for _ in accepted do
    checkpoint halt
  let base := match modulePath with
    | some path => if path.isEmpty then name else path
    | none => name
  let packages := accepted.foldl (addFile parse base) []
  let pages := packages.map fun package => package.page (importPath base package.directory)
  pure { language := goLanguage, fileCount := accepted.length,
         byteCount := ((accepted.map SourceFile.size).foldl (· + ·) 0 : Nat),
         libraries := [{ name := base, id := base, pages }] }

end DocIndex.Go
