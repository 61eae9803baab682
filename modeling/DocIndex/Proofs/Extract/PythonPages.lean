import Mathlib
import DocIndex.Proofs.Extract.Python
import DocIndex.Proofs.Search.Flatten

/-!
# The pages of the Python reader

A module page lists the module's public top-level definitions, decorators unwrapped: the
functions under the category `Functions` and the classes under `Classes`, each category
left out when empty. Functions and classes share the names of a module, and the first
definition of a name wins, so the listed definitions are those the standard library's
`List.eraseDupsBy` keeps of the public ones, keyed by name. A class lists the public
functions directly in its body the same way, the first of each name. Nothing else is
listed: every symbol on a page, at every depth, has a public name that is not empty.

The main statement, `python_pages_keep_first_public_definitions`, says this of every page
of the index the Python reader makes, whatever statements its parser reads in a file: one page
per accepted file, in walk order, keyed by the file's module name, the index counting the
accepted files and their bytes.
-/

namespace DocIndex.Python

open DocIndex.Document DocIndex.Disk DocIndex.Search DocIndex.Extract

/-! ## The first of each name -/

section FirstOfEach

variable {α : Type} (key : α → String) (first : List String → List α → List α)

/-- A filter that keeps each element whose key is neither taken nor the key of an element it
kept before keeps the first element of each key that is not taken. -/
theorem eq_eraseDupsBy_of_cons (nil : ∀ taken, first taken [] = [])
    (cons : ∀ taken x rest, first taken (x :: rest) =
      if taken.contains (key x) then first taken rest else x :: first (key x :: taken) rest) :
    ∀ taken xs, first taken xs =
      (xs.filter fun x => !taken.contains (key x)).eraseDupsBy fun a b => key a == key b := by
  intro taken xs
  induction xs generalizing taken with
  | nil => simp [nil]
  | cons x rest ih =>
    rw [cons]
    split
    · rename_i isTaken
      have inTaken : key x ∈ taken := by simpa using isTaken
      rw [List.filter_cons_of_neg (by simp [inTaken]), ih]
    · rename_i fresh
      rw [List.filter_cons_of_pos (by simpa using fresh), List.eraseDupsBy_cons, ih,
        List.filter_filter]
      congr 2
      apply List.filter_congr
      intro y _
      by_cases same : key y = key x <;> simp [same]

/-- Keeping the first element of each kind keeps some of the elements, in order. -/
theorem eraseDupsBy_sublist (r : α → α → Bool) : ∀ xs : List α, (xs.eraseDupsBy r).Sublist xs
  | [] => by simp
  | x :: rest => by
    rw [List.eraseDupsBy_cons]
    exact ((eraseDupsBy_sublist r _).trans List.filter_sublist).cons_cons x
termination_by xs => xs.length
decreasing_by simpa using Nat.lt_succ_of_le (List.length_filter_le _ _)

end FirstOfEach

theorem firstOfEach_eq_eraseDupsBy (taken : List String) (sections : List Section) :
    firstOfEach taken sections =
      (sections.filter fun s => !taken.contains s.id).eraseDupsBy fun a b => a.id == b.id :=
  eq_eraseDupsBy_of_cons Section.id firstOfEach (fun _ => rfl) (fun _ _ _ => rfl) taken sections

theorem firstTagged_eq_eraseDupsBy (taken : List String) (tagged : List (Bool × Section)) :
    firstTagged taken tagged =
      (tagged.filter fun t => !taken.contains t.2.id).eraseDupsBy fun a b => a.2.id == b.2.id :=
  eq_eraseDupsBy_of_cons (fun t => t.2.id) firstTagged (fun _ => rfl)
    (fun _ x _ => by obtain ⟨_, _⟩ := x; rfl) taken tagged

/-! ## One definition -/

/-- A function's section is made of a public function named by a text that is not empty, and
has nothing below it. -/
theorem functionSection_eq_some {parentKey : List String} {statement : Statement} {s : Section}
    (made : functionSection parentKey statement = some s) :
    ∃ isAsync name parameters returns body,
      statement = .function isAsync name parameters returns body ∧ name ≠ "" ∧
        isPublic name = true ∧ s.id = name ∧ s.children = [] := by
  unfold functionSection at made
  split at made
  · rename_i isAsync name parameters returns body
    split at made
    · cases made
    · rename_i listed
      cases made
      simp only [Bool.or_eq_true, Bool.not_eq_true', not_or, Bool.not_eq_false] at listed
      exact ⟨isAsync, name, parameters, returns, body, rfl,
        fun empty => by simp [empty] at listed, listed.2, rfl, rfl⟩
  · cases made

/-- A class's section is made of a public class named by a text that is not empty, and holds
the public functions directly in its body, the first of each name. -/
theorem classSection_eq_some {moduleName : String} {statement : Statement} {s : Section}
    (made : classSection moduleName statement = some s) :
    ∃ name bases body, statement = .classDef name bases body ∧ name ≠ "" ∧
      isPublic name = true ∧ s.id = name ∧
      s.children = ((definitionsOf body).filterMap
        (functionSection [moduleName, ".", name])).eraseDupsBy fun a b => a.id == b.id := by
  unfold classSection at made
  split at made
  · rename_i name bases body
    split at made
    · cases made
    · rename_i listed
      cases made
      simp only [Bool.or_eq_true, Bool.not_eq_true', not_or, Bool.not_eq_false] at listed
      refine ⟨name, bases, body, rfl, fun empty => by simp [empty] at listed, listed.2, rfl, ?_⟩
      rw [firstOfEach_eq_eraseDupsBy]
      simp
  · cases made

/-- A top-level definition's section is a function's or a class's section, tagged with which
it is. -/
theorem topSection_eq_some {moduleName : String} {statement : Statement} {tag : Bool}
    {s : Section} (made : topSection moduleName statement = some (tag, s)) :
    (tag = true ∧ functionSection [moduleName] statement = some s) ∨
      (tag = false ∧ classSection moduleName statement = some s) := by
  unfold topSection at made
  split at made
  · obtain ⟨_, found, same⟩ := Option.map_eq_some_iff.mp made
    cases same
    exact .inl ⟨rfl, found⟩
  · obtain ⟨_, found, same⟩ := Option.map_eq_some_iff.mp made
    cases same
    exact .inr ⟨rfl, found⟩
  · cases made

/-! ## Module pages -/

/-- The public top-level definitions of a module, decorators unwrapped, the first of each
name, as sections tagged with whether they are functions. -/
def firstPublic (moduleName : String) (block : List Statement) : List (Bool × Section) :=
  ((definitionsOf block).filterMap (topSection moduleName)).eraseDupsBy fun a b => a.2.id == b.2.id

/-- What the page of a module with the statements `block` lists: under its module name, the
first public definition of each name, functions under `Functions` and classes under
`Classes`, each class with the first public function of each name directly in its body; and
every symbol, at every depth, named publicly. -/
structure ListsFirstPublic (moduleName : String) (block : List Statement) (page : Page) :
    Prop where
  key : page.searchKey = [moduleName]
  sections : page.sections =
    category "func" "Functions" ((firstPublic moduleName block).filterMap fun t =>
        if t.1 then some t.2 else none) ++
      category "class" "Classes" ((firstPublic moduleName block).filterMap fun t =>
        if t.1 then none else some t.2)
  classes : ∀ t ∈ firstPublic moduleName block, t.1 = false →
    ∃ name bases body, Statement.classDef name bases body ∈ definitionsOf block ∧
      t.2.id = name ∧
      t.2.children = ((definitionsOf body).filterMap
        (functionSection [moduleName, ".", name])).eraseDupsBy fun a b => a.id == b.id
  named : ∀ path ∈ reached page.sections, path.2.role = .symbol →
    path.2.id ≠ "" ∧ isPublic path.2.id = true

/-- What holds of each section of a forest and of every section below it holds of every
section the forest reaches. -/
theorem forall_reached {holds : Section → Prop} :
    ∀ {sections : List Section},
      (∀ s ∈ sections, holds s ∧ ∀ path ∈ reached s.children, holds path.2) →
        ∀ path ∈ reached sections, holds path.2
  | [], _ => by simp [reached]
  | ⟨id, shortLabel, label, detail, key, role, children⟩ :: rest, each => by
    rw [List.forall_mem_cons] at each
    intro path member
    rw [reached, List.cons_append, List.mem_cons, List.mem_append] at member
    rcases member with rfl | below | later
    · exact each.1.1
    · obtain ⟨deeper, inChildren, rfl⟩ := List.mem_map.mp below
      exact each.1.2 deeper inChildren
    · exact forall_reached each.2 path later

/-- The sections a category reaches are the category and those its children reach. -/
theorem forall_reached_category {holds : Section → Prop} {id label : String}
    {children : List Section} (categoryHolds : ∀ s : Section, s.role = .category → holds s)
    (below : ∀ path ∈ reached children, holds path.2) :
    ∀ s ∈ category id label children, holds s ∧ ∀ path ∈ reached s.children, holds path.2 := by
  intro s member
  unfold category at member
  split at member
  · cases member
  · rw [List.mem_singleton] at member
    subst member
    exact ⟨categoryHolds _ rfl, below⟩

/-- A symbol named publicly. -/
def NamedPublicly (s : Section) : Prop :=
  s.role = .symbol → s.id ≠ "" ∧ isPublic s.id = true

/-- A section made of a public definition is named publicly, and so is every section below
it. -/
theorem namedPublicly_of_topSection {moduleName : String} {statement : Statement} {tag : Bool}
    {s : Section} (made : topSection moduleName statement = some (tag, s)) :
    NamedPublicly s ∧ ∀ path ∈ reached s.children, NamedPublicly path.2 := by
  have ofFunction : ∀ {parentKey} {statement} {s : Section},
      functionSection parentKey statement = some s →
        NamedPublicly s ∧ ∀ path ∈ reached s.children, NamedPublicly path.2 := by
    intro parentKey statement s found
    obtain ⟨_, name, _, _, _, -, nonempty, visible, named, childless⟩ :=
      functionSection_eq_some found
    refine ⟨fun _ => ⟨named ▸ nonempty, named ▸ visible⟩, ?_⟩
    rw [childless]
    simp [reached]
  rcases topSection_eq_some made with ⟨-, found⟩ | ⟨-, found⟩
  · exact ofFunction found
  · obtain ⟨name, bases, body, -, nonempty, visible, named, children⟩ :=
      classSection_eq_some found
    refine ⟨fun _ => ⟨named ▸ nonempty, named ▸ visible⟩, ?_⟩
    rw [children]
    refine forall_reached fun method member => ?_
    obtain ⟨statement, -, madeMethod⟩ :=
      List.mem_filterMap.mp ((eraseDupsBy_sublist _ _).subset member)
    exact ofFunction madeMethod

/-- Each definition listed first is made of a public definition of the module. -/
theorem exists_of_mem_firstPublic {moduleName : String} {block : List Statement}
    {t : Bool × Section} (member : t ∈ firstPublic moduleName block) :
    ∃ statement ∈ definitionsOf block, topSection moduleName statement = some t :=
  List.mem_filterMap.mp ((eraseDupsBy_sublist _ _).subset member)

/-- Whichever of the listed definitions a category keeps, every section they reach is named
publicly. -/
theorem namedPublicly_reached_firstPublic {moduleName : String} {block : List Statement}
    (keep : Bool × Section → Option Section) (agrees : ∀ t s, keep t = some s → s = t.2) :
    ∀ path ∈ reached ((firstPublic moduleName block).filterMap keep), NamedPublicly path.2 := by
  refine forall_reached fun s member => ?_
  obtain ⟨t, inKept, picked⟩ := List.mem_filterMap.mp member
  obtain ⟨statement, -, made⟩ := exists_of_mem_firstPublic inKept
  rw [agrees t s picked]
  exact namedPublicly_of_topSection made

/-- A module page lists the first public definition of each name, and nothing else. -/
theorem modulePage_listsFirstPublic (relativePath moduleName : String)
    (block : List Statement) :
    ListsFirstPublic moduleName block (modulePage relativePath moduleName block) := by
  have kept : firstTagged [] ((definitionsOf block).filterMap (topSection moduleName)) =
      firstPublic moduleName block := by
    rw [firstTagged_eq_eraseDupsBy]
    simp [firstPublic]
  refine ⟨rfl, by simp [modulePage, kept], fun t member isClass => ?_, ?_⟩
  · obtain ⟨statement, inBlock, made⟩ := exists_of_mem_firstPublic member
    obtain ⟨tag, s⟩ := t
    dsimp only at isClass
    subst isClass
    rcases topSection_eq_some made with ⟨wrong, -⟩ | ⟨-, found⟩
    · cases wrong
    · obtain ⟨name, bases, body, rfl, -, -, named, children⟩ := classSection_eq_some found
      exact ⟨name, bases, body, inBlock, named, children⟩
  · -- the categories are no symbols, and each listed section comes from a public definition
    have categoryNamed : ∀ s : Section, s.role = .category → NamedPublicly s :=
      fun s category symbol => by rw [category] at symbol; cases symbol
    show ∀ path ∈ reached (modulePage relativePath moduleName block).sections,
      NamedPublicly path.2
    simp only [modulePage, kept]
    refine forall_reached fun s member => ?_
    rcases List.mem_append.mp member with functions | classes
    · exact forall_reached_category categoryNamed (namedPublicly_reached_firstPublic _
        (by rintro ⟨tag, t⟩ s found; cases tag <;> simp_all)) s functions
    · exact forall_reached_category categoryNamed (namedPublicly_reached_firstPublic _
        (by rintro ⟨tag, t⟩ s found; cases tag <;> simp_all)) s classes

/-! ## The index of a directory -/

/-- The files the Python reader takes: those with the extension `py` or `py3` whose path
holds none of `test_`, `_test` and `tests`. -/
def isPythonSource (file : SourceFile) : Bool :=
  (file.extension == "py" || file.extension == "py3") &&
    ["test_", "_test", "tests"].all fun marker => !Text.occursIn marker file.relativePath

theorem accepts_eq_isPythonSource (file : SourceFile) :
    pythonExtractor.accepts file.relativePath (some file.extension) = isPythonSource file := by
  simp [Extractor.accepts, pythonExtractor, isPythonTestPath, pythonTestMarkers, isPythonSource]
  rfl

/-- Each page made of a file lies at the file's path and lists its module. -/
theorem filePage_eq_ok_listsFirstPublic {parse : List UInt8 → List Statement} {halt : Halt}
    {file : SourceFile} {page : Page} (made : filePage parse halt file = .ok page) :
    page.path = file.relativePath ∧ ∃ moduleName, Python.moduleName file.relativePath = .ok moduleName ∧
      ListsFirstPublic moduleName (parse file.content) page := by
  unfold filePage at made
  obtain ⟨_, -, made⟩ := bind_eq_ok made
  obtain ⟨moduleName, named, made⟩ := bind_eq_ok made
  cases made
  exact ⟨rfl, moduleName, named, modulePage_listsFirstPublic _ _ _⟩

/-- Items mapped one by one, all successfully, stand each beside its own result. -/
theorem forall₂_of_mapM_eq_ok {α β ε : Type} {make : α → Except ε β} :
    ∀ {items : List α} {results : List β}, items.mapM make = .ok results →
      List.Forall₂ (fun item result => make item = .ok result) items results
  | [], results, made => by
    cases made
    exact .nil
  | item :: rest, results, made => by
    rw [List.mapM_cons] at made
    obtain ⟨first, madeFirst, made⟩ := bind_eq_ok made
    obtain ⟨others, madeOthers, made⟩ := bind_eq_ok made
    cases made
    exact .cons madeFirst (forall₂_of_mapM_eq_ok madeOthers)

/-- Whatever statements its parser reads in each file, the Python reader makes one page per
accepted file, in walk order, where a file is accepted when its extension is `py` or `py3` and its path holds none of `test_`, `_test`
and `tests`. Each page lies at its file's path, is keyed by the file's module name, and lists
the first public definition of each name among the module's top-level functions and classes,
decorators unwrapped, functions under `Functions` and classes under `Classes`, each class
with the first public function of each name directly in its body; no other symbol appears.
The index counts the accepted files and their bytes. -/
theorem python_pages_keep_first_public_definitions {parse : List UInt8 → List Statement}
    {halt : Halt} {name : String} {root : Node} {index : Index}
    (made : indexDirectory parse halt name root = .ok index) :
    ∃ files, walk halt root = .ok files ∧ index.language = pythonLanguage ∧
      index.fileCount = (files.filter isPythonSource).length ∧
      index.byteCount = (((files.filter isPythonSource).map fun file => file.content.length).sum : Nat) ∧
      ∃ pages, index.libraries = [{ name, id := name, pages }] ∧
        List.Forall₂ (fun file page => page.path = file.relativePath ∧
            ∃ moduleName, Python.moduleName file.relativePath = .ok moduleName ∧
              ListsFirstPublic moduleName (parse file.content) page)
          (files.filter isPythonSource) pages := by
  unfold indexDirectory at made
  obtain ⟨files, walked, made⟩ := bind_eq_ok made
  obtain ⟨pages, madePages, made⟩ := bind_eq_ok made
  cases made
  have accepted : (files.filter fun file =>
      pythonExtractor.accepts file.relativePath (some file.extension)) =
      files.filter isPythonSource := by
    simp only [accepts_eq_isPythonSource]
  rw [accepted] at madePages ⊢
  have sizes : (files.filter isPythonSource).map SourceFile.size =
      (files.filter isPythonSource).map fun file => file.content.length :=
    List.map_congr_left fun file member => walk_sizes walked file (List.mem_filter.mp member).1
  refine ⟨files, walked, rfl, rfl, ?_, pages, rfl, ?_⟩
  · rw [sizes, List.sum_eq_foldl]
  · exact (forall₂_of_mapM_eq_ok madePages).imp fun _ _ => filePage_eq_ok_listsFirstPublic

/-- A directory holding the module `a.py`, read as having no statements, is indexed as one page
at that file, keyed by its module name `a`. -/
theorem single_module_page_keyed_by_name :
    ∃ index, indexDirectory (fun _ => []) none "proj" (.dir [("a.py", .file [])]) = .ok index ∧
      ∃ page, index.libraries = [{ name := "proj", id := "proj", pages := [page] }] ∧
        page.path = "a.py" ∧ page.searchKey = ["a"] := by
  have extension : fileExtension "a.py" = "py" := by decide +kernel
  have accepted : pythonExtractor.accepts "a.py" (some "py") = true := by decide +kernel
  have named : moduleName "a.py" = .ok "a" := rfl
  have walked : walk none (.dir [("a.py", .file [])]) = .ok [⟨"a.py", "py", 0, []⟩] := by
    simp [walk, walkNode, walkEntries, walkEntry, filesOf, isHidden, Search.checkpoint, bind,
      Except.bind, pure, Except.pure, extension]
  obtain ⟨index, made⟩ : ∃ index,
      indexDirectory (fun _ => []) none "proj" (.dir [("a.py", .file [])]) = .ok index := by
    simp [indexDirectory, walked, filePage, Search.checkpoint, bind, Except.bind, pure,
      Except.pure, accepted, named]
  obtain ⟨files, walked', -, -, -, pages, libraries, listed⟩ :=
    python_pages_keep_first_public_definitions made
  rw [walked] at walked'
  cases walked'
  have source : isPythonSource ⟨"a.py", "py", 0, []⟩ = true := by
    rw [← accepts_eq_isPythonSource]
    exact accepted
  rw [List.filter_cons_of_pos source, List.filter_nil] at listed
  cases listed with
  | cons first rest =>
    cases rest
    obtain ⟨path, moduleName, named', pageListed⟩ := first
    rw [named] at named'
    cases named'
    exact ⟨index, made, _, libraries, path, pageListed.key⟩

end DocIndex.Python
