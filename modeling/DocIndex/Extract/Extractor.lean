import DocIndex.Disk.Path
import DocIndex.Text.Basic

/-!
# Extractors

An extractor turns the sources of one language under a directory into an index. What
matters for choosing files is its language tag, the file extensions it claims and its rule
for test files: it accepts a file whose extension it claims and which is not a test file.
The built-in extractors document Python modules, Go packages and Markdown documents.
-/

namespace DocIndex.Extract

open DocIndex.Disk

/-- What decides which files an extractor takes. -/
structure Extractor where
  kind : String
  language : String
  extensions : List String
  isTestPath : String → Bool

/-- An extractor described for messages. -/
def Extractor.describe (extractor : Extractor) : String :=
  "<" ++ extractor.kind ++ " language=" ++ Data.quoteText extractor.language ++ ">"

/-- Whether an extractor takes the file at a relative path, given its extension (read off
the path when not given). -/
def Extractor.accepts (extractor : Extractor) (relativePath : String)
    (extension : Option String) : Bool :=
  let ext := extension.getD (fileExtension relativePath)
  extractor.extensions.contains ext && !extractor.isTestPath relativePath

/-- The language tag of Python. -/
def pythonLanguage : String := "python"

/-- The language tag of Go. -/
def goLanguage : String := "go"

/-- The language tag of Markdown. -/
def markdownLanguage : String := "markdown"

/-- Pieces of a relative path that mark a Python test file. -/
def pythonTestMarkers : List String := ["test_", "_test", "tests"]

/-- Whether a relative path is a Python test file: it contains a test marker. -/
def isPythonTestPath (relativePath : String) : Bool :=
  pythonTestMarkers.any fun marker => Text.occursIn marker relativePath

/-- Whether a relative path is a Go test file: its name ends with `_test.go`, or one of its
parts is `testdata`. -/
def isGoTestPath (relativePath : String) : Bool :=
  let path := PurePath.parse relativePath
  path.name.endsWith "_test.go" || path.allParts.contains "testdata"

/-- Directories that hold Markdown fixtures rather than documentation. -/
def markdownTestDirs : List String := ["testdata", "fixtures"]

/-- Whether a relative path is a Markdown test file: a directory above it is a fixture
directory. -/
def isMarkdownTestPath (relativePath : String) : Bool :=
  (PurePath.parse relativePath).allParts.dropLast.any markdownTestDirs.contains

/-- The Python extractor's file rules. -/
def pythonExtractor : Extractor :=
  ⟨"PythonExtractor", pythonLanguage, ["py", "py3"], isPythonTestPath⟩

/-- The Go extractor's file rules. -/
def goExtractor : Extractor :=
  ⟨"GoExtractor", goLanguage, ["go"], isGoTestPath⟩

/-- The Markdown extractor's file rules. -/
def markdownExtractor : Extractor :=
  ⟨"MarkdownExtractor", markdownLanguage, ["md", "markdown"], isMarkdownTestPath⟩

end DocIndex.Extract
