import DocIndex.Proofs.Search.Tokens
import DocIndex.Proofs.Extract.Admissible

/-!
# Key shapes of the built-in readers

Each reader keys its nodes by names put together with separators. A Python module page is
keyed `[module]`, a function `[module, ".", name]` and a method
`[module, ".", class, ".", name]`; a Go package page `[path]`, a function or type
`[path, ".", name]` and a method `[path, ".", receiver, ".", name]`, with the path the
package's own import path; a Markdown page `[path]` and a heading `["#", text]` below its
parent. Categories carry no key of their own. Every key that flattening an index puts
together, the page's and each section's joined with its parent's, is therefore separated:
no word run crosses from one piece into the next (`reader_keysApart`).
-/

namespace DocIndex

open DocIndex.Document DocIndex.Disk DocIndex.Search

namespace Document

/-! ## Separated keys in a section forest -/

/-- Every key a section forest below `parentKey` puts together, each section's joined with
its parent's, is separated. -/
def KeysApart : List String → List Section → Prop
  | _, [] => True
  | parentKey, ⟨_, _, _, _, key, _, children⟩ :: rest =>
    Separated (joinKey parentKey key) ∧ KeysApart (joinKey parentKey key) children ∧
      KeysApart parentKey rest

theorem keysApart_cons (parentKey : List String) (first : Section) (rest : List Section) :
    KeysApart parentKey (first :: rest) ↔
      Separated (joinKey parentKey first.searchKey) ∧
        KeysApart (joinKey parentKey first.searchKey) first.children ∧
        KeysApart parentKey rest := by
  cases first
  rw [KeysApart]

/-- A forest's keys are separated when each root's joined key is, and the keys below it. -/
theorem keysApart_iff (parentKey : List String) (sections : List Section) :
    KeysApart parentKey sections ↔
      ∀ s ∈ sections, Separated (joinKey parentKey s.searchKey) ∧
        KeysApart (joinKey parentKey s.searchKey) s.children := by
  induction sections with
  | nil => simp [KeysApart]
  | cons first rest ih => rw [keysApart_cons, ih, List.forall_mem_cons, and_assoc]

theorem keysApart_append {parentKey : List String} {front back : List Section}
    (frontApart : KeysApart parentKey front) (backApart : KeysApart parentKey back) :
    KeysApart parentKey (front ++ back) := by
  rw [keysApart_iff] at *
  intro s member
  rcases List.mem_append.mp member with inFront | inBack
  exacts [frontApart s inFront, backApart s inBack]

/-- A section without a key of its own stands at its parent's key. -/
@[simp]
theorem joinKey_nil_right (parentKey : List String) : joinKey parentKey [] = parentKey := by
  unfold joinKey
  split
  · rename_i complete
    simp only [Bool.and_eq_true, Bool.not_eq_true', List.isEmpty_eq_false_iff, beq_iff_eq,
      List.take_nil] at complete
    exact complete.2
  · simp

/-- A key that extends a non-empty parent key is complete. -/
theorem joinKey_append_self {parentKey : List String} (nonempty : parentKey ≠ [])
    (more : List String) : joinKey parentKey (parentKey ++ more) = parentKey ++ more :=
  joinKey_of_startsWith nonempty List.take_append_length

/-- A name put after a separator below a separated key gives a separated key. -/
theorem separated_joinKey_pair {parentKey : List String} (separated : Separated parentKey)
    {separator : String} (isSeparator : IsSeparator separator) (name : String) :
    Separated (joinKey parentKey [separator, name]) := by
  unfold joinKey
  split
  · exact Separated.separator_cons isSeparator (separated_singleton name)
  · exact separated.append_pair isSeparator name

/-- A category, left out when empty, keeps its parent's key for the sections below it. -/
theorem keysApart_category {parentKey : List String} (separated : Separated parentKey)
    {id label : String} {children : List Section} (below : KeysApart parentKey children) :
    KeysApart parentKey (if children.isEmpty then [] else
      [{ id, shortLabel := id, label, role := .category, children }]) := by
  split
  · simp [KeysApart]
  · simpa [keysApart_cons, KeysApart] using ⟨separated, below⟩

/-- Leaves keyed by names put after a dot below a non-empty key have separated keys. -/
theorem keysApart_dotted_leaves {parentKey : List String} (nonempty : parentKey ≠ [])
    (separated : Separated parentKey) {sections : List Section}
    (dotted : ∀ s ∈ sections, s.searchKey = parentKey ++ [".", s.id] ∧ s.children = []) :
    KeysApart parentKey sections := by
  rw [keysApart_iff]
  intro s member
  obtain ⟨key, leaf⟩ := dotted s member
  rw [key, joinKey_append_self nonempty, leaf]
  exact ⟨separated.append_pair isSeparator_dot s.id, by simp [KeysApart]⟩

end Document

/-- A page keyed by a separated key whose section forest puts together separated keys. -/
def Document.Page.KeysApart (page : Page) : Prop :=
  Separated page.searchKey ∧ Document.KeysApart page.searchKey page.sections

/-- Every page of an index, with its sections, puts together separated keys. -/
def Document.Index.KeysApart (index : Index) : Prop :=
  ∀ library ∈ index.libraries, ∀ page ∈ library.pages, page.KeysApart

/-- The pages a computation makes one by one all have a property each step ensures. -/
theorem forall_mem_of_mapM_eq_ok {α β ε : Type} {make : α → Except ε β} {holds : β → Prop}
    (each : ∀ item made, make item = .ok made → holds made) :
    ∀ (items : List α) (results : List β), items.mapM make = .ok results →
      ∀ result ∈ results, holds result
  | [], results, made => by
    cases made
    simp
  | item :: rest, results, made => by
    rw [List.mapM_cons] at made
    obtain ⟨first, madeFirst, made⟩ := bind_eq_ok made
    obtain ⟨others, madeOthers, made⟩ := bind_eq_ok made
    cases made
    rw [List.forall_mem_cons]
    exact ⟨each item first madeFirst, forall_mem_of_mapM_eq_ok each rest others madeOthers⟩

/-! ## Python -/

namespace Python

theorem functionSection_key {parentKey : List String} {statement : Statement} {made : Section}
    (found : functionSection parentKey statement = some made) :
    made.searchKey = parentKey ++ [".", made.id] ∧ made.children = [] := by
  unfold functionSection at found
  split at found
  · split at found
    · cases found
    · cases found
      exact ⟨rfl, rfl⟩
  · cases found

theorem classSection_key {moduleName : String} {statement : Statement} {made : Section}
    (found : classSection moduleName statement = some made) :
    made.searchKey = [moduleName] ++ [".", made.id] ∧
      ∀ method ∈ made.children,
        method.searchKey = [moduleName, ".", made.id] ++ [".", method.id] ∧
          method.children = [] := by
  unfold classSection at found
  split at found
  · split at found
    · cases found
    · cases found
      refine ⟨rfl, fun method member => ?_⟩
      obtain ⟨_, -, madeMethod⟩ := List.mem_filterMap.mp (mem_of_mem_firstOfEach member)
      exact functionSection_key madeMethod
  · cases found

/-- A top-level function or class of a module puts together separated keys. -/
theorem topSection_keysApart {moduleName : String} {statement : Statement} {tag : Bool}
    {made : Section} (found : topSection moduleName statement = some (tag, made)) :
    Separated (joinKey [moduleName] made.searchKey) ∧
      KeysApart (joinKey [moduleName] made.searchKey) made.children := by
  unfold topSection at found
  split at found
  · obtain ⟨_, madeFunction, same⟩ := Option.map_eq_some_iff.mp found
    cases same
    obtain ⟨key, leaf⟩ := functionSection_key madeFunction
    rw [key, joinKey_append_self (by simp), leaf]
    exact ⟨(separated_singleton _).append_pair isSeparator_dot _, by simp [KeysApart]⟩
  · obtain ⟨_, madeClass, same⟩ := Option.map_eq_some_iff.mp found
    cases same
    obtain ⟨key, methods⟩ := classSection_key madeClass
    have separated := (separated_singleton moduleName).append_pair isSeparator_dot made.id
    rw [key, joinKey_append_self (by simp)]
    exact ⟨separated, keysApart_dotted_leaves (by simp) separated methods⟩
  · cases found

/-- A module page puts together separated keys. -/
theorem modulePage_keysApart (relativePath moduleName : String) (block : List Statement) :
    (modulePage relativePath moduleName block).KeysApart := by
  have singleton : Separated [moduleName] := separated_singleton _
  have kept : ∀ keep : Bool × Section → Option Section,
      (∀ entry s, keep entry = some s → s = entry.2) →
        KeysApart [moduleName] ((firstTagged []
          ((definitionsOf block).filterMap (topSection moduleName))).filterMap keep) := by
    intro keep agrees
    rw [keysApart_iff]
    intro s member
    obtain ⟨entry, inFirst, picked⟩ := List.mem_filterMap.mp member
    obtain rfl := agrees entry s picked
    have inTagged : entry.2 ∈ firstOfEach []
        (((definitionsOf block).filterMap (topSection moduleName)).map Prod.snd) := by
      rw [← firstTagged_map_snd]
      exact List.mem_map_of_mem inFirst
    obtain ⟨⟨tag, _⟩, inTops, same⟩ := List.mem_map.mp (mem_of_mem_firstOfEach inTagged)
    obtain ⟨_, -, found⟩ := List.mem_filterMap.mp inTops
    cases same
    exact topSection_keysApart found
  refine ⟨singleton, keysApart_append (keysApart_category singleton (kept _ ?_))
    (keysApart_category singleton (kept _ ?_))⟩
  · rintro ⟨tag, s⟩ s' picked
    cases tag <;> simp_all
  · rintro ⟨tag, s⟩ s' picked
    cases tag <;> simp_all

/-- The Python reader's index puts together separated keys. -/
theorem indexDirectory_keysApart {parse : List UInt8 → List Statement} {halt : Halt}
    {name : String} {root : Node} {index : Index}
    (made : indexDirectory parse halt name root = .ok index) : index.KeysApart := by
  unfold indexDirectory at made
  obtain ⟨files, -, made⟩ := bind_eq_ok made
  obtain ⟨pages, madePages, made⟩ := bind_eq_ok made
  cases made
  intro library member
  rw [List.mem_singleton] at member
  subst member
  refine forall_mem_of_mapM_eq_ok (fun file page madePage => ?_) _ pages madePages
  unfold filePage at madePage
  obtain ⟨_, -, madePage⟩ := bind_eq_ok madePage
  obtain ⟨moduleName, -, madePage⟩ := bind_eq_ok madePage
  cases madePage
  exact modulePage_keysApart _ _ _

end Python

/-! ## Go -/

namespace Go

/-- What collecting keeps of a package's keys under its import path: functions and types
at `[path, ".", name]`, methods at `[path, ".", receiver, ".", name]`, all leaves. -/
structure Package.KeyedAt (package : Package) (path : String) : Prop where
  functions : ∀ s ∈ package.functions, s.searchKey = [path] ++ [".", s.id] ∧ s.children = []
  types : ∀ s ∈ package.types, s.searchKey = [path] ++ [".", s.id] ∧ s.children = []
  methods : ∀ entry ∈ package.methods, ∀ s ∈ entry.2,
    s.searchKey = [path, ".", entry.1] ++ [".", s.id] ∧ s.children = []

theorem Package.keyedAt_empty (directory path : String) :
    (Package.empty directory).KeyedAt path where
  functions := by simp [Package.empty]
  types := by simp [Package.empty]
  methods := by simp [Package.empty]

section Keyed

variable {package : Package} {path : String}

theorem Package.KeyedAt.addFunction (keyed : package.KeyedAt path)
    (docs name parameters result : String) :
    (package.addFunction path docs name parameters result).KeyedAt path := by
  unfold Package.addFunction
  split
  · exact keyed
  · refine ⟨fun s member => ?_, keyed.types, keyed.methods⟩
    rcases List.mem_append.mp member with old | new
    · exact keyed.functions s old
    · rw [List.mem_singleton] at new
      subst new
      exact ⟨rfl, rfl⟩

theorem Package.KeyedAt.addTypes (keyed : package.KeyedAt path) (docs : String)
    (specs : List TypeSpec) : (package.addTypes path docs specs).KeyedAt path := by
  unfold Package.addTypes
  induction specs generalizing package with
  | nil => exact keyed
  | cons spec rest ih =>
    rw [List.foldl_cons]
    apply ih
    split
    · exact keyed
    · refine ⟨keyed.functions, fun s member => ?_, keyed.methods⟩
      rcases List.mem_append.mp member with old | new
      · exact keyed.types s old
      · rw [List.mem_singleton] at new
        subst new
        exact ⟨rfl, rfl⟩

theorem Package.KeyedAt.addMethod (keyed : package.KeyedAt path)
    (docs receiver : String) (receiverType : Option String) (name parameters result : String) :
    (package.addMethod path docs receiver receiverType name parameters result).KeyedAt path := by
  unfold Package.addMethod
  dsimp only
  split
  · exact keyed
  split
  · exact keyed
  split
  · refine ⟨keyed.functions, keyed.types, fun entry member => ?_⟩
    obtain ⟨⟨key, list⟩, inMethods, rfl⟩ := List.mem_map.mp member
    dsimp only
    split
    · rename_i same
      rw [beq_iff_eq] at same
      subst same
      intro s inList
      rcases List.mem_append.mp inList with old | new
      · exact keyed.methods _ inMethods s old
      · rw [List.mem_singleton] at new
        subst new
        exact ⟨rfl, rfl⟩
    · exact keyed.methods _ inMethods
  · refine ⟨keyed.functions, keyed.types, fun entry member => ?_⟩
    rcases List.mem_append.mp member with old | new
    · exact keyed.methods entry old
    · rw [List.mem_singleton] at new
      subst new
      intro s single
      rw [List.mem_singleton] at single
      subst single
      exact ⟨rfl, rfl⟩

theorem Package.KeyedAt.addDecl (keyed : package.KeyedAt path) (docs : String) :
    ∀ kind, (package.addDecl path docs kind).KeyedAt path
  | .comment _ => keyed
  | .packageClause _ => by
    unfold Package.addDecl
    dsimp only
    split <;> split <;> exact ⟨keyed.functions, keyed.types, keyed.methods⟩
  | .function .. => keyed.addFunction ..
  | .method .. => keyed.addMethod ..
  | .typeDecl specs => keyed.addTypes docs specs
  | .other => keyed

theorem Package.KeyedAt.collect (keyed : package.KeyedAt path) (pending decls : List Decl) :
    (package.collect path pending decls).KeyedAt path := by
  induction decls generalizing package pending with
  | nil => exact keyed
  | cons decl rest ih =>
    rw [Package.collect]
    split
    · exact ih keyed _
    · exact ih (keyed.addDecl _ _) _

/-- A package page puts together separated keys: each type takes its receiver's methods,
keyed under the type's own name. -/
theorem Package.KeyedAt.page_keysApart (keyed : package.KeyedAt path) :
    (package.page path).KeysApart := by
  have singleton : Separated [path] := separated_singleton _
  refine ⟨singleton, keysApart_append (keysApart_category singleton ?_)
    (keysApart_category singleton ?_)⟩
  · exact keysApart_dotted_leaves (by simp) singleton keyed.functions
  · rw [keysApart_iff]
    intro typed member
    obtain ⟨entry, inTypes, rfl⟩ := List.mem_map.mp member
    obtain ⟨key, leaf⟩ := keyed.types entry inTypes
    have separated := singleton.append_pair isSeparator_dot entry.id
    have joined : joinKey [path] entry.searchKey = [path] ++ [".", entry.id] := by
      rw [key, joinKey_append_self (by simp)]
    have childless : Separated (joinKey [path] entry.searchKey) ∧
        KeysApart (joinKey [path] entry.searchKey) entry.children := by
      rw [joined, leaf]
      exact ⟨separated, by simp [KeysApart]⟩
    split
    · rename_i methods found
      split
      · exact childless
      · obtain ⟨before, after, split, -⟩ := List.lookup_eq_some_iff.mp found
        have inMethods : (entry.id, methods) ∈ package.methods := by
          rw [split]
          exact List.mem_append_right _ List.mem_cons_self
        show Separated (joinKey [path] entry.searchKey) ∧
          KeysApart (joinKey [path] entry.searchKey) methods
        rw [joined]
        exact ⟨separated, keysApart_dotted_leaves (by simp) separated (keyed.methods _ inMethods)⟩
    · exact childless

end Keyed

/-- Packages each keyed under the import path of their own directory. -/
def PackagesKeyed (base : String) (packages : List Package) : Prop :=
  ∀ package ∈ packages, package.KeyedAt (importPath base package.directory)

/-- A file's declarations join the package of its directory, keyed under the import path
of that directory. -/
theorem addFile_keyed {parse : List UInt8 → List Decl} {base : String}
    {packages : List Package} (keyed : PackagesKeyed base packages) (file : SourceFile) :
    PackagesKeyed base (addFile parse base packages file) := by
  unfold addFile
  dsimp only
  split
  · intro package member
    obtain ⟨old, inPackages, rfl⟩ := List.mem_map.mp member
    split
    · rename_i same
      rw [beq_iff_eq] at same
      rw [Package.collect_directory, ← same]
      exact (keyed old inPackages).collect _ _
    · exact keyed old inPackages
  · intro package member
    rcases List.mem_append.mp member with old | new
    · exact keyed package old
    · rw [List.mem_singleton] at new
      subst new
      rw [Package.collect_directory]
      exact (Package.keyedAt_empty _ _).collect _ _

theorem foldl_addFile_keyed (parse : List UInt8 → List Decl) (base : String)
    (files : List SourceFile) :
    ∀ packages, PackagesKeyed base packages →
      PackagesKeyed base (files.foldl (addFile parse base) packages) := by
  induction files with
  | nil => exact fun _ keyed => keyed
  | cons file rest ih =>
    intro packages keyed
    exact ih _ (addFile_keyed keyed file)

/-- The Go reader's index puts together separated keys. -/
theorem indexDirectory_keysApart {parse : List UInt8 → List Decl} {halt : Halt}
    {location name : String} {root : Node} {index : Index}
    (made : indexDirectory parse halt location name root = .ok index) :
    index.KeysApart := by
  unfold indexDirectory at made
  obtain ⟨modulePath, -, made⟩ := bind_eq_ok made
  obtain ⟨files, -, made⟩ := bind_eq_ok made
  obtain ⟨_, -, made⟩ := bind_eq_ok made
  cases made
  intro library member
  rw [List.mem_singleton] at member
  subst member
  intro page inPages
  obtain ⟨package, inPackages, rfl⟩ := List.mem_map.mp inPages
  exact (foldl_addFile_keyed _ _ _ [] (by simp [PackagesKeyed]) package inPackages).page_keysApart

end Go

/-! ## Markdown -/

namespace Markdown

/-- Headings below a separated key put together separated keys, at every depth. -/
theorem sectionsFrom_keysApart :
    ∀ (fuel : Nat) (used : List String) (headings : List Heading) (parentKey : List String),
      Separated parentKey → KeysApart parentKey (sectionsFrom used fuel headings)
  | 0, _, _, _, _ => by simp [sectionsFrom, KeysApart]
  | _ + 1, _, [], _, _ => by simp [sectionsFrom, KeysApart]
  | fuel + 1, used, heading :: rest, parentKey, separated => by
    rw [sectionsFrom, keysApart_cons]
    have headed := separated_joinKey_pair separated isSeparator_hash heading.text
    exact ⟨headed, sectionsFrom_keysApart fuel [] _ _ headed,
      sectionsFrom_keysApart fuel _ _ parentKey separated⟩

theorem documentPage_keysApart {load : Yaml.Loader} {relativePath text : String} {page : Page}
    (made : documentPage load relativePath text = .ok page) : page.KeysApart := by
  unfold documentPage at made
  obtain ⟨⟨matter, body⟩, -, made⟩ := bind_eq_ok made
  obtain ⟨keyPath, -, made⟩ := bind_eq_ok made
  cases made
  exact ⟨separated_singleton _,
    sectionsOf_eq_sectionsFrom _ ▸ sectionsFrom_keysApart _ [] _ _ (separated_singleton _)⟩

/-- Gathering documents keeps every gathered page's keys separated. -/
theorem foldlM_gather_keysApart {load : Yaml.Loader} {halt : Halt} :
    ∀ (files : List SourceFile) (gathered result : Gathered),
      files.foldlM (gather load halt) gathered = .ok result →
        (∀ page ∈ gathered.pages, page.KeysApart) → ∀ page ∈ result.pages, page.KeysApart
  | [], gathered, result, folded, apart => by
    cases folded
    exact apart
  | file :: rest, gathered, result, folded, apart => by
    rw [List.foldlM_cons] at folded
    obtain ⟨next, added, folded⟩ := bind_eq_ok folded
    refine foldlM_gather_keysApart rest next result folded ?_
    unfold gather at added
    obtain ⟨_, -, added⟩ := bind_eq_ok added
    split at added
    · cases added
      exact apart
    · obtain ⟨page, madePage, added⟩ := bind_eq_ok added
      cases added
      rw [List.forall_mem_cons]
      exact ⟨documentPage_keysApart madePage, apart⟩

/-- The Markdown reader's index puts together separated keys. -/
theorem indexDirectory_keysApart {load : Yaml.Loader} {halt : Halt} {name : String}
    {root : Node} {index : Index}
    (made : indexDirectory load halt name root = .ok index) : index.KeysApart := by
  unfold indexDirectory at made
  obtain ⟨files, -, made⟩ := bind_eq_ok made
  obtain ⟨gathered, madeGathered, made⟩ := bind_eq_ok made
  cases made
  intro library member
  rw [List.mem_singleton] at member
  subst member
  intro page inPages
  exact foldlM_gather_keysApart _ ⟨[], 0, 0⟩ gathered madeGathered (by simp) page
    (List.mem_reverse.mp inPages)

end Markdown

/-- Every index a built-in reader makes puts together separated keys. -/
theorem reader_keysApart {parsers : Parsers} {reader : Reader} (builtIn : reader ∈ readers parsers)
    {halt : Halt}
    {root : SourceRoot} {node : Node} {index : Index}
    (made : reader.read halt root node = .ok index) : index.KeysApart := by
  simp only [readers, List.mem_cons, List.not_mem_nil, or_false] at builtIn
  rcases builtIn with rfl | rfl | rfl
  · exact Python.indexDirectory_keysApart made
  · exact Go.indexDirectory_keysApart made
  · exact Markdown.indexDirectory_keysApart made

end DocIndex
