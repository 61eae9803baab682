/-!
# Index documents

An index is what reading one language's sources under a directory produces: libraries of
pages, each page carrying a forest of sections. A section is a symbol (a function, a type,
a heading) or a category that only groups symbols for display. Every node carries a search
key, a list of key pieces such as `["pkg", ".", "run"]`; a section's key may be relative to
its parent's or already complete, and `joinKey` puts the two together.
-/

namespace DocIndex.Document

/-- The newest schema version this library reads and writes. -/
def latestVersion : Int := 1

/-- What a section stands for. -/
inductive Role where
  | symbol
  | category
  deriving DecidableEq, Repr

/-- The name a role has in documents. -/
def Role.name : Role → String
  | .symbol => "symbol"
  | .category => "category"

/-- A symbol or a category, with the sections below it. -/
structure Section where
  id : String
  shortLabel : String
  label : String
  detail : String := ""
  searchKey : List String := []
  role : Role := .symbol
  children : List Section := []

/-- The documentation of one source file, module or package. -/
structure Page where
  path : String
  title : String
  detail : String := ""
  searchKey : List String := []
  sections : List Section := []

/-- A named group of pages: the indexed project, or one of its dependencies. -/
structure Library where
  name : String
  id : String
  repository : String := ""
  version : String := ""
  versionType : String := ""
  pages : List Page := []

/-- Everything one reader found for one language under one directory. -/
structure Index where
  language : String
  schemaVersion : Int := latestVersion
  fileCount : Int := 0
  byteCount : Int := 0
  libraries : List Library := []

/-- The pages of an index with their libraries, in order. -/
def Index.pages (index : Index) : List (Library × Page) :=
  index.libraries.flatMap fun library => library.pages.map fun page => (library, page)

/-- Put a section's key after its parent's: a key that already starts with the whole
(non-empty) parent key is complete and stays as it is. -/
def joinKey (parentKey key : List String) : List String :=
  if !parentKey.isEmpty && key.take parentKey.length == parentKey then key
  else parentKey ++ key

/-- A complete key stays as it is. -/
theorem joinKey_of_startsWith {parentKey key : List String} (nonempty : parentKey ≠ [])
    (starts : key.take parentKey.length = parentKey) : joinKey parentKey key = key := by
  unfold joinKey
  have : parentKey.isEmpty = false := by cases parentKey <;> simp_all
  simp [this, starts]

/-- Under an empty parent key a key stays as it is. -/
@[simp]
theorem joinKey_nil (key : List String) : joinKey [] key = key := by
  simp [joinKey]

end DocIndex.Document
