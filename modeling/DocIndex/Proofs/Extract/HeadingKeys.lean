import DocIndex.Proofs.Search.Flatten
import DocIndex.Proofs.Extract.Markdown

/-!
# Keys of Markdown headings

A Markdown page is keyed by its path without the suffix, and every heading below it by
`["#", text]`, relative to its parent. Flattening joins each key onto the parent's with
`joinKey`, which takes a key that already starts with the whole parent key for a complete
one. A heading key has two pieces, so it starts with its parent's key only when that key
is `["#"]`, or is `["#", text]` with the same text. The main statement,
`heading_key_follows_heading_path`, says what that leaves: below a page whose key is not
`#`, a heading's entry is keyed by the page key followed by `#` and the text of each heading
on its path, top-down; below the page keyed `#` (a document `#.md` at the root), the page
key is read as the start of the top heading's key, and the headings right below the top one
that repeat its text add nothing. `hash_page_absorbs_heading_key` shows the document
`#.md` holding the heading `A`: its entry is keyed `["#", "A"]`, not `["#", "#", "A"]`.
-/

namespace DocIndex.Markdown

open DocIndex.Document DocIndex.Disk DocIndex.Search

/-! ## Heading sections -/

/-- Every section of a forest, at every depth, is a symbol keyed by `#` and its label. -/
def HeadingSections : List Section → Prop
  | [] => True
  | ⟨_, _, label, _, key, role, children⟩ :: rest =>
    key = ["#", label] ∧ role = .symbol ∧ HeadingSections children ∧ HeadingSections rest

/-- The sections made of headings are heading sections. -/
theorem sectionsFrom_headingSections :
    ∀ (used : List String) (fuel : Nat) (headings : List Heading),
      HeadingSections (sectionsFrom used fuel headings)
  | _, 0, _ => by simp [sectionsFrom, HeadingSections]
  | _, _ + 1, [] => by simp [sectionsFrom, HeadingSections]
  | used, fuel + 1, heading :: rest => by
    rw [sectionsFrom, HeadingSections]
    exact ⟨rfl, rfl, sectionsFrom_headingSections [] fuel _,
      sectionsFrom_headingSections _ fuel _⟩

/-- Every section on a path that a forest of heading sections reaches is a symbol keyed by
`#` and its label. -/
theorem HeadingSections.reached :
    ∀ {sections : List Section}, HeadingSections sections →
      ∀ path ∈ reached sections, ∀ s ∈ path.1 ++ [path.2],
        s.searchKey = ["#", s.label] ∧ s.role = .symbol
  | [], _ => by simp [Search.reached]
  | ⟨id, shortLabel, label, detail, key, role, children⟩ :: rest, headed => by
    rw [HeadingSections] at headed
    obtain ⟨keyed, symbol, childrenHeaded, restHeaded⟩ := headed
    intro path member s onPath
    rw [Search.reached, List.cons_append, List.mem_cons, List.mem_append] at member
    rcases member with rfl | below | later
    · simp only [List.nil_append, List.mem_singleton] at onPath
      subst onPath
      exact ⟨keyed, symbol⟩
    · obtain ⟨deeper, deeperMember, rfl⟩ := List.mem_map.mp below
      rw [List.cons_append, List.mem_cons] at onPath
      rcases onPath with rfl | onDeeper
      · exact ⟨keyed, symbol⟩
      · exact HeadingSections.reached childrenHeaded deeper deeperMember s onDeeper
    · exact HeadingSections.reached restHeaded path later s onPath

/-- A page of a Markdown document is keyed by its path without the suffix, and its sections
are heading sections. -/
structure HeadedPage (page : Page) : Prop where
  stem : ∃ stem : PurePath, (PurePath.parse page.path).withoutSuffix = .ok stem ∧
    page.searchKey = [stem.text]
  headed : HeadingSections page.sections

theorem documentPage_headedPage {load : Yaml.Loader} {relativePath text : String} {page : Page}
    (made : documentPage load relativePath text = .ok page) : HeadedPage page := by
  unfold documentPage at made
  obtain ⟨⟨matter, body⟩, -, made⟩ := bind_eq_ok made
  obtain ⟨keyPath, stemmed, made⟩ := bind_eq_ok made
  cases made
  exact ⟨⟨keyPath, stemmed, rfl⟩, sectionsOf_eq_sectionsFrom _ ▸ sectionsFrom_headingSections [] _ _⟩

/-! ## Joining heading keys -/

/-- A heading key is appended to a parent key of three pieces or more. -/
theorem joinKey_heading_of_long {parentKey : List String} (long : 3 ≤ parentKey.length)
    (text : String) : joinKey parentKey ["#", text] = parentKey ++ ["#", text] := by
  have differ : (["#", text].take parentKey.length == parentKey) = false := by
    rw [beq_eq_false_iff_ne]
    intro same
    have := congrArg List.length same
    simp only [List.length_take, List.length_cons, List.length_nil] at this
    omega
  simp [joinKey, differ]

/-- A heading key is appended to a page key other than `#`. -/
theorem joinKey_heading_of_ne {stem : String} (plain : stem ≠ "#") (text : String) :
    joinKey [stem] ["#", text] = [stem, "#", text] := by
  simp [joinKey, Ne.symm plain]

/-- The page key `#` is read as the start of a heading key. -/
theorem joinKey_hash_heading (text : String) : joinKey ["#"] ["#", text] = ["#", text] := by
  simp [joinKey]

/-- Below the key `["#", top]`, a heading with the text `top` adds nothing, and any other
heading is appended. -/
theorem joinKey_heading_pair (top text : String) :
    joinKey ["#", top] ["#", text] = if text = top then ["#", top] else ["#", top, "#", text] := by
  by_cases same : text = top
  · subst same
    simp [joinKey]
  · simp [joinKey, same]

/-- Heading keys joined one by one onto a parent key of three pieces or more are appended. -/
theorem foldl_heading_of_long :
    ∀ {parentKey : List String}, 3 ≤ parentKey.length → ∀ texts : List String,
      texts.foldl (fun key text => joinKey key ["#", text]) parentKey =
        parentKey ++ texts.flatMap fun text => ["#", text]
  | _, _, [] => by simp
  | parentKey, long, text :: rest => by
    rw [List.foldl_cons, joinKey_heading_of_long long,
      foldl_heading_of_long (by simp; omega) rest]
    simp

/-- Heading keys joined one by one onto `["#", top]`: the first ones repeating `top` add
nothing, and from the first other one on each is appended. -/
theorem foldl_heading_pair (top : String) :
    ∀ texts : List String,
      texts.foldl (fun key text => joinKey key ["#", text]) ["#", top] =
        "#" :: top :: (texts.dropWhile fun text => text = top).flatMap fun text => ["#", text]
  | [] => by simp
  | text :: rest => by
    rw [List.foldl_cons, joinKey_heading_pair]
    by_cases same : text = top
    · rw [if_pos same, foldl_heading_pair top rest,
        List.dropWhile_cons_of_pos (by simpa using same)]
    · rw [if_neg same, foldl_heading_of_long (by simp) rest,
        List.dropWhile_cons_of_neg (by simpa using same)]
      simp

/-- Joining the keys of heading sections is joining `#` and their labels. -/
theorem foldl_sections_eq_foldl_labels :
    ∀ (path : List Section), (∀ s ∈ path, s.searchKey = ["#", s.label]) →
      ∀ parentKey : List String,
        path.foldl (fun key s => joinKey key s.searchKey) parentKey =
          (path.map Section.label).foldl (fun key text => joinKey key ["#", text]) parentKey
  | [], _, _ => rfl
  | s :: rest, keyed, parentKey => by
    rw [List.foldl_cons, List.map_cons, List.foldl_cons, keyed s List.mem_cons_self]
    exact foldl_sections_eq_foldl_labels rest (fun other member => keyed other (by simp [member]))
      _

/-! ## The key of a heading's entry -/

/-- Every heading of a Markdown document in an index the Markdown reader makes has an entry
in the index's flattening, for every project and whether or not categories are asked for,
at the heading's identifier path. Below a page whose key, the path without the suffix, is
not `#`, its key is the page key followed by `#` and the text of each heading on its path,
top-down. Below the page keyed `#`, the page key is the first piece of the top heading's
key, and the headings right below the top one that repeat its text add nothing. -/
theorem heading_key_follows_heading_path {load : Yaml.Loader} {halt : Halt} {name : String}
    {root : Node} {index : Index} (made : indexDirectory load halt name root = .ok index)
    (project : String) (withCategories : Bool) :
    ∀ pair ∈ index.pages, ∃ stem : PurePath,
      (PurePath.parse pair.2.path).withoutSuffix = .ok stem ∧
      ∀ path ∈ reached pair.2.sections,
        ∃ entry ∈ entriesOf project index withCategories,
          entry.pagePath = pair.2.path ∧
          entry.sectionPath = (path.1 ++ [path.2]).map Section.id ∧ entry.kind = .symbol ∧
          (stem.text ≠ "#" → entry.searchKey = stem.text ::
            ((path.1 ++ [path.2]).map Section.label).flatMap fun text => ["#", text]) ∧
          (stem.text = "#" →
            ∀ top below, (path.1 ++ [path.2]).map Section.label = top :: below →
              entry.searchKey = "#" :: top ::
                (below.dropWhile fun text => text = top).flatMap fun text => ["#", text]) := by
  intro pair inPages
  obtain ⟨⟨stem, stemmed, pageKey⟩, headed⟩ :=
    indexDirectory_forall_pages (fun _ _ _ => documentPage_headedPage) made pair inPages
  refine ⟨stem, stemmed, fun path reachedPath => ?_⟩
  have onPath := headed.reached path reachedPath
  obtain ⟨entry, someEntry, pagePath, sectionPath, kind, key⟩ := sectionEntry_of_symbol
    ⟨project, index.language, pair.1.id, pair.2.path⟩ withCategories pair.2.searchKey [] 0
    path.1 (onPath path.2 (by simp)).2
  refine ⟨entry, mem_entriesOf_of_sectionEntry inPages reachedPath someEntry, pagePath,
    by simpa using sectionPath, kind, ?_⟩
  rw [key, pageKey, foldl_sections_eq_foldl_labels _ (fun s member => (onPath s member).1)]
  obtain ⟨top, below, texts⟩ : ∃ top below,
      (path.1 ++ [path.2]).map Section.label = top :: below :=
    List.exists_cons_of_ne_nil (by simp)
  rw [texts]
  refine ⟨fun plain => ?_, fun hash top' below' same => ?_⟩
  · rw [List.foldl_cons, joinKey_heading_of_ne plain, foldl_heading_of_long (by simp) below]
    simp
  · obtain ⟨rfl, rfl⟩ := List.cons.inj same
    rw [hash, List.foldl_cons, joinKey_hash_heading, foldl_heading_pair]

/-! ## One document -/

/-- A directory holding one readable Markdown document is indexed as one page. -/
theorem indexDirectory_single_document {load : Yaml.Loader} (name fileName : String)
    {bytes : List UInt8} {text : String} {page : Page} (visible : isHidden fileName = false)
    (accepted : Extract.markdownExtractor.accepts fileName (some (fileExtension fileName)) = true)
    (decoded : Text.decodeStrict bytes = .ok text)
    (madePage : documentPage load fileName text = .ok page) :
    indexDirectory load none name (.dir [(fileName, .file bytes)]) =
      .ok { language := Extract.markdownLanguage, fileCount := 1, byteCount := bytes.length,
            libraries := [{ name, id := name, pages := [page] }] } := by
  simp [indexDirectory, walk, walkNode, walkEntries, walkEntry, filesOf, visible, accepted, gather,
    checkpoint, decoded, madePage, bind, Except.bind, pure, Except.pure]

/-- A document that does not open with `---` has no front matter: its page lies at its path,
is keyed by the path without the suffix, and holds the sections of its headings. -/
theorem documentPage_of_plain {load : Yaml.Loader} {relativePath text : String} {stem : PurePath}
    (plain : text.startsWith "---" = false)
    (stemmed : (PurePath.parse relativePath).withoutSuffix = .ok stem) :
    ∃ title detail, documentPage load relativePath text =
      .ok { path := relativePath, title, detail, searchKey := [stem.text],
            sections := sectionsOf (headingsOf (splitByHeadings text)) } := by
  simp only [documentPage, splitFrontMatter, plain, stemmed, bind, Except.bind, pure, Except.pure]
  exact ⟨_, _, rfl⟩

/-- A nested heading of a document `guide.md` is keyed by the page key `guide`, then `#` and
the text of its parent, then `#` and its own. -/
theorem nested_heading_keyed_by_its_path :
    ∃ index, indexDirectory (fun _ => .ok none) none "proj"
        (.dir [("guide.md", .file [35, 32, 65, 10, 35, 35, 32, 66, 10])]) = .ok index ∧
      ∃ entry ∈ entriesOf "p" index false,
        entry.sectionPath = ["a", "b"] ∧ entry.searchKey = ["guide", "#", "A", "#", "B"] := by
  have plain : "# A\n## B\n".startsWith "---" = false := by decide +kernel
  have stemmed : (PurePath.parse "guide.md").withoutSuffix = .ok ⟨"", ["guide"]⟩ := rfl
  obtain ⟨title, detail, page⟩ := documentPage_of_plain plain stemmed
  have sections : sectionsOf (headingsOf (splitByHeadings "# A\n## B\n")) =
      [⟨"a", "A", "A", "", ["#", "A"], .symbol,
        [⟨"b", "B", "B", "", ["#", "B"], .symbol, []⟩]⟩] := by
    have blocks : splitByHeadings "# A\n## B\n" =
        [⟨some "A", 1, "", 0⟩, ⟨some "B", 2, "", 4⟩] := by decide +kernel
    have slugA : slugify "A" = "a" := by decide +kernel
    have slugB : slugify "B" = "b" := by decide +kernel
    have empty : Text.truncate "" Text.maxDetailChars = "" := by decide +kernel
    simp [blocks, slugA, slugB, empty, headingsOf, sectionsOf_eq_sectionsFrom, sectionsFrom, freshId]
  rw [sections] at page
  have decoded : Text.decodeStrict [35, 32, 65, 10, 35, 35, 32, 66, 10] = .ok "# A\n## B\n" := rfl
  have made := indexDirectory_single_document "proj" "guide.md" (by decide +kernel)
    (by decide +kernel) decoded page
  refine ⟨_, made, ?_⟩
  obtain ⟨stem, stemmed', keys⟩ := heading_key_follows_heading_path made "p" false _
    (List.mem_singleton_self _)
  obtain rfl : stem = ⟨"", ["guide"]⟩ := by
    rw [stemmed] at stemmed'
    exact (Except.ok.inj stemmed').symm
  obtain ⟨entry, member, -, sectionPath, -, plainKey, -⟩ :=
    keys ([⟨"a", "A", "A", "", ["#", "A"], .symbol,
        [⟨"b", "B", "B", "", ["#", "B"], .symbol, []⟩]⟩],
      ⟨"b", "B", "B", "", ["#", "B"], .symbol, []⟩) (by simp [reached])
  have guide : PurePath.text ⟨"", ["guide"]⟩ = "guide" := by decide +kernel
  refine ⟨entry, member, by simpa using sectionPath, ?_⟩
  rw [plainKey (by rw [guide]; decide), guide]
  rfl

/-- The document `#.md` at the root holds the heading `A` and no front matter. Its page is
keyed `#`, and the heading's entry is keyed `["#", "A"]`: no entry carries the page key
followed by `#` and `A`. -/
theorem hash_page_absorbs_heading_key :
    ∃ index, indexDirectory Yaml.load none "proj" (.dir [("#.md", .file [35, 32, 65, 10])]) =
        .ok index ∧
      (entriesOf "p" index false).map (fun entry => (entry.sectionPath, entry.searchKey)) =
        [([], ["#"]), (["a"], ["#", "A"])] ∧
      ∀ entry ∈ entriesOf "p" index false, entry.searchKey ≠ ["#", "#", "A"] := by
  have plain : "# A\n".startsWith "---" = false := by decide +kernel
  have stemmed : (PurePath.parse "#.md").withoutSuffix = .ok ⟨"", ["#"]⟩ := rfl
  obtain ⟨title, detail, page⟩ := documentPage_of_plain plain stemmed
  have sections : sectionsOf (headingsOf (splitByHeadings "# A\n")) =
      [⟨"a", "A", "A", "", ["#", "A"], .symbol, []⟩] := by
    have blocks : splitByHeadings "# A\n" = [⟨some "A", 1, "", 0⟩] := by decide +kernel
    have slug : slugify "A" = "a" := by decide +kernel
    have empty : Text.truncate "" Text.maxDetailChars = "" := by decide +kernel
    simp [blocks, slug, empty, headingsOf, sectionsOf_eq_sectionsFrom, sectionsFrom, freshId]
  have hash : PurePath.text ⟨"", ["#"]⟩ = "#" := by decide +kernel
  rw [sections, hash] at page
  have decoded : Text.decodeStrict [35, 32, 65, 10] = .ok "# A\n" := rfl
  have made := indexDirectory_single_document "proj" "#.md" (by decide +kernel)
    (by decide +kernel) decoded page
  refine ⟨_, made, by simp [entriesOf, Index.pages, pageEntries, sectionEntries, joinKey], ?_⟩
  intro entry member keyed
  simp [entriesOf, Index.pages, pageEntries, sectionEntries, joinKey] at member
  rcases member with rfl | rfl <;> simp at keyed

end DocIndex.Markdown
