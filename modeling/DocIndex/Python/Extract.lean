import DocIndex.Python.Page
import DocIndex.Extract.Extractor
import DocIndex.Disk.Walk

/-!
# Indexing Python sources

Every accepted file under a directory becomes one module page, in walk order, built from the
statements a parser reads in the file's bytes; the parser is a parameter, and every file is
indexed with whatever definitions it reads there. The index has one library named after the
directory.
-/

namespace DocIndex.Python

open DocIndex.Disk DocIndex.Document DocIndex.Extract DocIndex.Search

/-- The page of one source file, whose statements `parse` reads. -/
def filePage (parse : List UInt8 → List Statement) (halt : Halt) (file : SourceFile) :
    Except Failure Page := do
  checkpoint halt
  let moduleName ← Python.moduleName file.relativePath
  pure (modulePage file.relativePath moduleName (parse file.content))

/-- Index the Python sources under a directory; `name` names the library. -/
def indexDirectory (parse : List UInt8 → List Statement) (halt : Halt) (name : String)
    (root : Node) : Except Failure Index := do
  let files ← walk halt root
  let accepted := files.filter fun file =>
    pythonExtractor.accepts file.relativePath (some file.extension)
  let pages ← accepted.mapM (filePage parse halt)
  pure { language := pythonLanguage, fileCount := accepted.length,
         byteCount := ((accepted.map SourceFile.size).foldl (· + ·) 0 : Nat),
         libraries := [{ name, id := name, pages }] }

end DocIndex.Python
