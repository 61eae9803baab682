import DocIndex.Document.Basic
import DocIndex.Failure

/-!
# Checking index documents

An index is well formed when its library identifiers are pairwise distinct, the page paths
of each library are pairwise distinct, and at every node of every section forest the
sibling identifiers are pairwise distinct. `Index.validate` checks this in document order
(libraries, then each library's pages, then each page's sections depth first) and reports
the first violation, naming where it lies.
-/

namespace DocIndex.Document

/-- Check that sibling identifiers are distinct at every node of a section forest; `place`
names the forest's parent and `seen` holds the identifiers of earlier siblings. -/
def checkSections (place : String) (seen : List String) : List Section → Except Failure Unit
  | [] => .ok ()
  | ⟨id, _, _, _, _, _, children⟩ :: rest =>
    if seen.contains id then
      .error (.schema ("Duplicate section id '" ++ id ++ "' under " ++ place))
    else do
      checkSections (place ++ "/" ++ id) [] children
      checkSections place (id :: seen) rest

/-- Check the pages of a library; `seen` holds the paths of earlier pages. -/
def checkPages (libraryId : String) (seen : List String) : List Page → Except Failure Unit
  | [] => .ok ()
  | page :: rest =>
    if seen.contains page.path then
      .error (.schema ("Duplicate page path '" ++ page.path ++ "' in library '" ++ libraryId ++ "'"))
    else do
      checkSections (libraryId ++ ":" ++ page.path) [] page.sections
      checkPages libraryId (page.path :: seen) rest

/-- Check the libraries of an index; `seen` holds the identifiers of earlier libraries. -/
def checkLibraries (seen : List String) : List Library → Except Failure Unit
  | [] => .ok ()
  | library :: rest =>
    if seen.contains library.id then
      .error (.schema ("Duplicate library id '" ++ library.id ++ "'"))
    else do
      checkPages library.id [] library.pages
      checkLibraries (library.id :: seen) rest

/-- Check the structural invariants of an index, reporting the first violation. -/
def Index.validate (index : Index) : Except Failure Unit :=
  checkLibraries [] index.libraries

end DocIndex.Document
