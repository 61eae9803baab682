import DocIndex.Python.Extract
import DocIndex.Proofs.Disk.WalkPaths

/-!
# Admissible Python indexes

A module page lists each name once: the first definition of a name wins among the top-level
functions and classes, and among the methods of a class, so sibling sections never share an
identifier; the two categories are told apart by their own identifiers. Every accepted file
becomes one page at the file's path, so the pages of a walked tree have distinct paths, and
the index the Python reader makes of a well-formed tree passes validation.
-/

namespace DocIndex.Python

open DocIndex.Document DocIndex.Disk DocIndex.Search

/-! ## First of each name -/

theorem mem_of_mem_firstOfEach {taken : List String} {sections : List Section} {s : Section}
    (member : s ∈ firstOfEach taken sections) : s ∈ sections := by
  induction sections generalizing taken with
  | nil => simp [firstOfEach] at member
  | cons first rest ih =>
    rw [firstOfEach] at member
    split at member
    · exact List.mem_cons_of_mem _ (ih member)
    · rcases List.mem_cons.mp member with rfl | later
      · exact List.mem_cons_self
      · exact List.mem_cons_of_mem _ (ih later)

theorem firstOfEach_fresh {taken : List String} {sections : List Section} {s : Section}
    (member : s ∈ firstOfEach taken sections) : s.id ∉ taken := by
  induction sections generalizing taken with
  | nil => simp [firstOfEach] at member
  | cons first rest ih =>
    rw [firstOfEach] at member
    split at member
    · exact ih member
    · rename_i free
      rcases List.mem_cons.mp member with rfl | later
      · simpa using free
      · exact fun inTaken => ih later (List.mem_cons_of_mem _ inTaken)

/-- The sections kept by name have distinct names. -/
theorem firstOfEach_nodup (taken : List String) (sections : List Section) :
    ((firstOfEach taken sections).map Section.id).Nodup := by
  induction sections generalizing taken with
  | nil => simp [firstOfEach]
  | cons first rest ih =>
    rw [firstOfEach]
    split
    · exact ih taken
    · rw [List.map_cons, List.nodup_cons]
      refine ⟨?_, ih _⟩
      rw [List.mem_map]
      rintro ⟨later, member, same⟩
      exact firstOfEach_fresh member (same ▸ List.mem_cons_self)

/-- Keeping the first tagged section of each name keeps the first section of each name. -/
theorem firstTagged_map_snd (taken : List String) (tagged : List (Bool × Section)) :
    (firstTagged taken tagged).map Prod.snd = firstOfEach taken (tagged.map Prod.snd) := by
  induction tagged generalizing taken with
  | nil => rfl
  | cons first rest ih =>
    obtain ⟨tag, first⟩ := first
    rw [firstTagged, List.map_cons, firstOfEach]
    split
    · exact ih taken
    · rw [List.map_cons, ih]

/-- Sections kept by name, each with distinct siblings below it, have distinct siblings. -/
theorem firstOfEach_siblingsDistinct (taken : List String) {sections : List Section}
    (below : ∀ s ∈ sections, SiblingsDistinct s.children) :
    SiblingsDistinct (firstOfEach taken sections) := by
  rw [siblingsDistinct_iff]
  exact ⟨firstOfEach_nodup taken sections,
    fun s member => below s (mem_of_mem_firstOfEach member)⟩

/-! ## Sections of a module -/

theorem functionSection_children {parentKey : List String} {statement : Statement}
    {made : Section} (found : functionSection parentKey statement = some made) :
    made.children = [] := by
  unfold functionSection at found
  split at found
  · split at found
    · cases found
    · cases found
      rfl
  · cases found

theorem classSection_children {moduleName : String} {statement : Statement} {made : Section}
    (found : classSection moduleName statement = some made) :
    SiblingsDistinct made.children := by
  unfold classSection at found
  split at found
  · split at found
    · cases found
    · cases found
      refine firstOfEach_siblingsDistinct [] fun method member => ?_
      obtain ⟨_, -, madeMethod⟩ := List.mem_filterMap.mp member
      rw [functionSection_children madeMethod]
      exact siblingsDistinct_nil
  · cases found

theorem topSection_children {moduleName : String} {statement : Statement} {tag : Bool}
    {made : Section} (found : topSection moduleName statement = some (tag, made)) :
    SiblingsDistinct made.children := by
  unfold topSection at found
  split at found
  · obtain ⟨_, madeFunction, same⟩ := Option.map_eq_some_iff.mp found
    cases same
    rw [functionSection_children madeFunction]
    exact siblingsDistinct_nil
  · obtain ⟨_, madeClass, same⟩ := Option.map_eq_some_iff.mp found
    cases same
    exact classSection_children madeClass
  · cases found

theorem filterMap_sublist_map {α β : Type} (f : α → Option β) (g : α → β)
    (agrees : ∀ a b, f a = some b → b = g a) :
    ∀ items : List α, (items.filterMap f).Sublist (items.map g)
  | [] => List.Sublist.slnil
  | item :: rest => by
    rw [List.filterMap_cons, List.map_cons]
    have others := filterMap_sublist_map f g agrees rest
    cases found : f item with
    | none => exact others.cons _
    | some b =>
      rw [agrees item b found]
      exact others.cons_cons _

/-- The sections of a module page have distinct siblings at every node. -/
theorem modulePage_siblingsDistinct (relativePath moduleName : String)
    (block : List Statement) :
    SiblingsDistinct (modulePage relativePath moduleName block).sections := by
  have kept : SiblingsDistinct ((firstTagged []
      ((definitionsOf block).filterMap (topSection moduleName))).map Prod.snd) := by
    rw [firstTagged_map_snd]
    refine firstOfEach_siblingsDistinct [] fun s member => ?_
    obtain ⟨⟨tag, _⟩, inTops, rfl⟩ := List.mem_map.mp member
    obtain ⟨_, -, found⟩ := List.mem_filterMap.mp inTops
    exact topSection_children found
  have fromKept : ∀ keep : Bool × Section → Option Section,
      (∀ entry s, keep entry = some s → s = entry.2) →
        SiblingsDistinct ((firstTagged []
          ((definitionsOf block).filterMap (topSection moduleName))).filterMap keep) :=
    fun keep agrees => kept.sublist (filterMap_sublist_map keep Prod.snd agrees _)
  exact siblingsDistinct_categories (by decide) "Functions" "Classes"
    (fromKept _ (by rintro ⟨tag, s⟩ found picked; cases tag <;> simp_all))
    (fromKept _ (by rintro ⟨tag, s⟩ found picked; cases tag <;> simp_all))

/-! ## The index of a directory -/

section Reading

variable {parse : List UInt8 → List Statement}

theorem filePage_eq_ok {halt : Halt} {file : SourceFile} {page : Page}
    (made : filePage parse halt file = .ok page) :
    page.path = file.relativePath ∧ SiblingsDistinct page.sections := by
  unfold filePage at made
  obtain ⟨_, -, made⟩ := bind_eq_ok made
  obtain ⟨moduleName, -, made⟩ := bind_eq_ok made
  cases made
  exact ⟨rfl, modulePage_siblingsDistinct _ _ _⟩

theorem filePage_failsOnly (halt : Halt) (file : SourceFile) :
    FailsOnly (fun failure => ¬ failure.IsSchema) (filePage parse halt file) := by
  unfold filePage moduleName
  exact (checkpoint_failsOnly halt).bind fun _ _ =>
    ((PurePath.withoutSuffix_failsOnly _).bind fun _ _ => FailsOnly.pure _).bind fun _ _ =>
      FailsOnly.pure _

/-- Pages made one per file, in order, lie at the files' paths. -/
theorem mapM_filePage_paths {halt : Halt} :
    ∀ (files : List SourceFile) (pages : List Page), files.mapM (filePage parse halt) = .ok pages →
      pages.map Page.path = files.map SourceFile.relativePath ∧
        ∀ page ∈ pages, SiblingsDistinct page.sections
  | [], pages, made => by
    cases made
    simp
  | file :: rest, pages, made => by
    rw [List.mapM_cons] at made
    obtain ⟨page, madePage, made⟩ := bind_eq_ok made
    obtain ⟨others, madeOthers, made⟩ := bind_eq_ok made
    cases made
    obtain ⟨path, sections⟩ := filePage_eq_ok madePage
    obtain ⟨paths, othersSections⟩ := mapM_filePage_paths rest others madeOthers
    refine ⟨by rw [List.map_cons, List.map_cons, path, paths], ?_⟩
    rw [List.forall_mem_cons]
    exact ⟨sections, othersSections⟩

/-- The Python index of a well-formed tree is of the Python language, under the latest
schema, with one library, and well formed. -/
theorem indexDirectory_admissible {halt : Halt} {name : String} {root : Node}
    (wellFormed : root.WellFormed) {index : Index}
    (made : indexDirectory parse halt name root = .ok index) :
    index.language = Extract.pythonLanguage ∧ index.schemaVersion = latestVersion ∧
      index.libraries.length = 1 ∧ index.WellFormed := by
  unfold indexDirectory at made
  obtain ⟨files, walked, made⟩ := bind_eq_ok made
  obtain ⟨pages, madePages, made⟩ := bind_eq_ok made
  cases made
  obtain ⟨paths, sections⟩ := mapM_filePage_paths _ pages madePages
  refine ⟨rfl, rfl, rfl, Index.wellFormed_of_single rfl ?_ sections⟩
  rw [paths]
  exact (walk_paths_nodup wellFormed walked).sublist (List.filter_sublist.map _)

/-- The Python reader fails only when it is cancelled or a path has no name, never for the
schema. -/
theorem indexDirectory_failsOnly (halt : Halt) (name : String) (root : Node) :
    FailsOnly (fun failure => ¬ failure.IsSchema) (indexDirectory parse halt name root) := by
  unfold indexDirectory
  exact (walk_failsOnly halt root).bind fun _ _ =>
    (FailsOnly.mapM fun file _ => filePage_failsOnly halt file).bind fun _ _ => FailsOnly.pure _

end Reading

end DocIndex.Python
