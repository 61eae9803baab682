import DocIndex.Search.Entry

/-!
# Flattening an index into entries

An index flattens page by page, in document order: each page gives its own entry and then
one entry for each section of its forest, in preorder, where a category gives an entry
only when categories are asked for and its children are visited either way. The entry of a
section is read off the path of sections that reaches it from the page (`sectionEntry`):
its identifier path is theirs, its key is the left fold of `joinKey` over their keys from
the page's key, and it lies one level below the symbols above it, since a category does
not deepen its children.

The main statement, `entriesOf_eq_preorder`, says that `entriesOf` is this flattening. It
rests on `sectionEntries_eq_filterMap`, proved by recursion over the forest: the entries
below a section are those of the paths through it, read from the section's own key,
identifier path and depth (`sectionEntry_cons`).
-/

namespace DocIndex.Search

open DocIndex.Document

/-- The sections of a forest in preorder, each with the sections above it, top-down. -/
def reached : List Section → List (List Section × Section)
  | [] => []
  | (section'@⟨_, _, _, _, _, _, children⟩) :: rest =>
    ([], section') :: (reached children).map (fun below => (section' :: below.1, below.2)) ++
      reached rest

/-- The entry of a page. -/
def pageEntry (origin : PageOrigin) (page : Page) : Entry :=
  { project := origin.project, language := origin.language, library := origin.library,
    pagePath := origin.pagePath, sectionPath := [], label := page.title, detail := page.detail,
    searchKey := page.searchKey, terms := terms page.searchKey, depth := 0, kind := .page }

/-- The entry of a section reached through the sections `above` it, top-down, from a
parent whose key is `parentKey`, whose identifier path is `trail` and whose depth is
`depth`: the identifiers of the path after `trail`, the keys of the path joined onto
`parentKey` one by one, one level below the parent and the symbols above it, and for a
category its label's terms after its key's. A category gives an entry only when categories
are asked for. -/
def sectionEntry (origin : PageOrigin) (withCategories : Bool) (parentKey trail : List String)
    (depth : Nat) (above : List Section) (section' : Section) : Option Entry :=
  let key := (above ++ [section']).foldl (fun key s => joinKey key s.searchKey) parentKey
  let entry (kind : EntryKind) (entryTerms : List String) : Entry :=
    { project := origin.project, language := origin.language, library := origin.library,
      pagePath := origin.pagePath, sectionPath := trail ++ (above ++ [section']).map Section.id,
      label := section'.label, detail := section'.detail, searchKey := key, terms := entryTerms,
      depth := depth + above.countP (fun s => s.role ≠ .category) + 1, kind }
  if section'.role = .category then
    if withCategories then some (entry .category (terms key ++ terms [section'.label])) else none
  else some (entry .symbol (terms key))

/-- A section reached through one more section above it is reached from that section, with
its key, identifier path and depth. -/
theorem sectionEntry_cons (origin : PageOrigin) (withCategories : Bool)
    (parentKey trail : List String) (depth : Nat) (first : Section) (above : List Section)
    (section' : Section) :
    sectionEntry origin withCategories parentKey trail depth (first :: above) section' =
      sectionEntry origin withCategories (joinKey parentKey first.searchKey) (trail ++ [first.id])
        (if first.role = .category then depth else depth + 1) above section' := by
  cases role : first.role <;>
    simp [sectionEntry, role, Nat.add_assoc, Nat.add_comm]

/-- The entries of a forest are those of the sections it reaches, in preorder. -/
theorem sectionEntries_eq_filterMap (origin : PageOrigin) (withCategories : Bool) :
    ∀ (parentKey trail : List String) (depth : Nat) (sections : List Section),
      sectionEntries origin withCategories parentKey trail depth sections =
        (reached sections).filterMap fun path =>
          sectionEntry origin withCategories parentKey trail depth path.1 path.2
  | _, _, _, [] => by simp [sectionEntries, reached]
  | parentKey, trail, depth, ⟨id, shortLabel, label, detail, key, role, children⟩ :: rest => by
    have after := sectionEntries_eq_filterMap origin withCategories parentKey trail depth rest
    have below := sectionEntries_eq_filterMap origin withCategories (joinKey parentKey key)
      (trail ++ [id]) (if role = .category then depth else depth + 1) children
    rw [reached, List.filterMap_append, List.filterMap_cons, List.filterMap_map, ← after]
    have through : ((fun path : List Section × Section =>
          sectionEntry origin withCategories parentKey trail depth path.1 path.2) ∘
        fun below : List Section × Section =>
          (⟨id, shortLabel, label, detail, key, role, children⟩ :: below.1, below.2)) =
        fun path : List Section × Section =>
          sectionEntry origin withCategories (joinKey parentKey key) (trail ++ [id])
          (if role = .category then depth else depth + 1) path.1 path.2 := by
      funext path
      exact sectionEntry_cons origin withCategories parentKey trail depth _ path.1 path.2
    rw [through, ← below]
    cases role <;> cases withCategories <;> simp [sectionEntries, sectionEntry]

/-- A page's entries: its own, then those of the sections its forest reaches, in preorder. -/
theorem pageEntries_eq_preorder (project language : String) (withCategories : Bool)
    (library : Library) (page : Page) :
    pageEntries project language withCategories library page =
      pageEntry ⟨project, language, library.id, page.path⟩ page ::
        (reached page.sections).filterMap fun path =>
          sectionEntry ⟨project, language, library.id, page.path⟩ withCategories page.searchKey
            [] 0 path.1 path.2 := by
  rw [pageEntries, sectionEntries_eq_filterMap]
  rfl

/-- A symbol reached through a path gives an entry of its page, at the identifiers of the
path and keyed by the path's keys joined onto the parent key. -/
theorem sectionEntry_of_symbol (origin : PageOrigin) (withCategories : Bool)
    (parentKey trail : List String) (depth : Nat) (above : List Section) {section' : Section}
    (symbol : section'.role = .symbol) :
    ∃ entry,
      sectionEntry origin withCategories parentKey trail depth above section' = some entry ∧
      entry.pagePath = origin.pagePath ∧
      entry.sectionPath = trail ++ (above ++ [section']).map Section.id ∧ entry.kind = .symbol ∧
      entry.searchKey =
        (above ++ [section']).foldl (fun key s => joinKey key s.searchKey) parentKey := by
  simp only [sectionEntry, symbol, reduceCtorEq, if_false]
  exact ⟨_, rfl, rfl, rfl, rfl, rfl⟩

/-- The entry of a section that a page's forest reaches is an entry of the index. -/
theorem mem_entriesOf_of_sectionEntry {project : String} {index : Index} {withCategories : Bool}
    {pair : Library × Page} (inPages : pair ∈ index.pages) {path : List Section × Section}
    (reachedPath : path ∈ reached pair.2.sections) {entry : Entry}
    (made : sectionEntry ⟨project, index.language, pair.1.id, pair.2.path⟩ withCategories
      pair.2.searchKey [] 0 path.1 path.2 = some entry) :
    entry ∈ entriesOf project index withCategories := by
  obtain ⟨library, page⟩ := pair
  refine List.mem_flatMap.mpr ⟨(library, page), inPages, ?_⟩
  show entry ∈ pageEntries project index.language withCategories library page
  rw [pageEntries_eq_preorder]
  exact List.mem_cons_of_mem _ (List.mem_filterMap.mpr ⟨path, reachedPath, made⟩)

/-- An index flattens page by page, in document order, each page into its own entry followed
by the entries of the sections its forest reaches in preorder: a symbol's entry, and a
category's when categories are asked for, each with the identifiers, the joined keys and
the depth of the path that reaches it. -/
theorem entriesOf_eq_preorder (project : String) (index : Index) (withCategories : Bool) :
    entriesOf project index withCategories =
      index.pages.flatMap fun pair =>
        pageEntry ⟨project, index.language, pair.1.id, pair.2.path⟩ pair.2 ::
          (reached pair.2.sections).filterMap fun path =>
            sectionEntry ⟨project, index.language, pair.1.id, pair.2.path⟩ withCategories
              pair.2.searchKey [] 0 path.1 path.2 := by
  unfold entriesOf
  congr 1
  funext pair
  exact pageEntries_eq_preorder project index.language withCategories pair.1 pair.2

end DocIndex.Search
