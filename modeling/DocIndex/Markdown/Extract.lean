import DocIndex.Markdown.Page
import DocIndex.Extract.Extractor
import DocIndex.Disk.Walk
import DocIndex.Text.Utf8

/-!
# Indexing Markdown documents

Every accepted file under a directory that is valid UTF-8 becomes one page, in walk order;
a file that is not valid UTF-8 is skipped and not counted. A YAML loader, given as a
parameter, reads each page's front matter. The index has one library named after the
directory.
-/

namespace DocIndex.Markdown

open DocIndex.Disk DocIndex.Document DocIndex.Extract DocIndex.Search

/-- What indexing has gathered so far: pages, last first, and the files and bytes read. -/
structure Gathered where
  pages : List Page
  fileCount : Nat
  byteCount : Nat

/-- Add the page of one file, unless it is not valid UTF-8. -/
def gather (load : Yaml.Loader) (halt : Halt) (gathered : Gathered) (file : SourceFile) :
    Except Failure Gathered := do
  checkpoint halt
  match Text.decodeStrict file.content with
  | .error _ => pure gathered
  | .ok text =>
    let page ← documentPage load file.relativePath text
    pure ⟨page :: gathered.pages, gathered.fileCount + 1, gathered.byteCount + file.size⟩

/-- Index the Markdown documents under a directory; `name` names the library. -/
def indexDirectory (load : Yaml.Loader) (halt : Halt) (name : String) (root : Node) :
    Except Failure Index := do
  let files ← walk halt root
  let accepted := files.filter fun file =>
    markdownExtractor.accepts file.relativePath (some file.extension)
  let gathered ← accepted.foldlM (gather load halt) ⟨[], 0, 0⟩
  pure { language := markdownLanguage, fileCount := gathered.fileCount,
         byteCount := gathered.byteCount,
         libraries := [{ name, id := name, pages := gathered.pages.reverse }] }

end DocIndex.Markdown
