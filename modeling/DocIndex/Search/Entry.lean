import DocIndex.Document.Basic
import DocIndex.Search.Token
import DocIndex.Failure

/-!
# Search entries

An index flattens into search entries: for each page, in document order, one entry for the
page itself, then its section forest in preorder. A symbol section gives an entry one level
deeper than its parent; a category section gives an entry only when categories are asked
for, and its children stay at the category's own depth. Each entry carries the complete
search key (the parent's key joined with the section's), and the terms of that key.
-/

namespace DocIndex.Search

open DocIndex.Document

/-- What a search entry stands for. -/
inductive EntryKind where
  | page
  | symbol
  | category
  deriving DecidableEq, Repr

/-- The name of an entry kind. -/
def EntryKind.name : EntryKind → String
  | .page => "page"
  | .symbol => "symbol"
  | .category => "category"

/-- One searchable page or section. -/
structure Entry where
  project : String
  language : String
  library : String
  pagePath : String
  sectionPath : List String
  label : String
  detail : String
  searchKey : List String
  terms : List String
  depth : Nat
  kind : EntryKind

/-- The search key written out as one text. -/
def Entry.path (entry : Entry) : String :=
  String.join entry.searchKey

/-- Where a page's entries come from: the project, the index's language, the library and
the page. -/
structure PageOrigin where
  project : String
  language : String
  library : String
  pagePath : String

/-- The entries of a section forest in preorder. `parentKey` is the key the sections'
keys join onto, `trail` the identifiers above them and `depth` the depth of their parent. -/
def sectionEntries (origin : PageOrigin) (withCategories : Bool) :
    List String → List String → Nat → List Section → List Entry
  | _, _, _, [] => []
  | parentKey, trail, depth, ⟨id, _, label, detail, key, role, children⟩ :: rest =>
    let fullKey := joinKey parentKey key
    let here := trail ++ [id]
    let entry := fun (kind : EntryKind) (entryTerms : List String) (entryDepth : Nat) =>
      { project := origin.project, language := origin.language, library := origin.library,
        pagePath := origin.pagePath, sectionPath := here, label, detail,
        searchKey := fullKey, terms := entryTerms, depth := entryDepth, kind : Entry }
    let own := match role with
      | .category =>
        (if withCategories then
          [entry .category (terms fullKey ++ terms [label]) (depth + 1)] else []) ++
          sectionEntries origin withCategories fullKey here depth children
      | .symbol =>
        entry .symbol (terms fullKey) (depth + 1) ::
          sectionEntries origin withCategories fullKey here (depth + 1) children
    own ++ sectionEntries origin withCategories parentKey trail depth rest

/-- The entries of one page: the page, then its sections. -/
def pageEntries (project language : String) (withCategories : Bool) (library : Library)
    (page : Page) : List Entry :=
  let origin : PageOrigin := ⟨project, language, library.id, page.path⟩
  { project, language, library := library.id, pagePath := page.path, sectionPath := [],
    label := page.title, detail := page.detail, searchKey := page.searchKey,
    terms := terms page.searchKey, depth := 0, kind := .page } ::
    sectionEntries origin withCategories page.searchKey [] 0 page.sections

/-- The entries of an index, page by page in document order. -/
def entriesOf (project : String) (index : Index) (withCategories : Bool) : List Entry :=
  index.pages.flatMap fun (library, page) =>
    pageEntries project index.language withCategories library page

/-- What a cancellation checkpoint sees: nothing, or the reason the work was cancelled. -/
abbrev Halt := Option String

/-- A cancellation checkpoint: it stops the work when the work was cancelled. -/
def checkpoint : Halt → Except Failure Unit
  | none => .ok ()
  | some reason => .error (.cancelled reason)

/-- The entries of an index, with a cancellation checkpoint before each page: a cancelled
flattening of an index with pages stops before the first entry. -/
def entriesChecked (halt : Halt) (project : String) (index : Index) (withCategories : Bool) :
    Except Failure (List Entry) :=
  if index.pages.isEmpty then .ok []
  else do
    checkpoint halt
    pure (entriesOf project index withCategories)

end DocIndex.Search
