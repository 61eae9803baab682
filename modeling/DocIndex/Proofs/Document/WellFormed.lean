import DocIndex.Proofs.Store.Refinement

/-!
# Well-formed indexes

`Index.validate` accepts exactly the well-formed indexes: library identifiers pairwise
distinct, page paths pairwise distinct within each library, and sibling section identifiers
pairwise distinct at every node of every section forest; whatever it refuses, it refuses
with a schema failure. A put therefore fails for the schema exactly when the key is sound
and the index is of another language or not well formed.

`FailsOnly allowed step` says that every failure of a step is allowed; it is kept by the
monad's binds and loops, so the failures of a whole reader follow from those of its steps.
-/

namespace DocIndex

open DocIndex.Document DocIndex.Search

/-- A failure raised because a document breaks the schema. -/
def Failure.IsSchema (failure : Failure) : Prop :=
  ∃ message, failure = .schema message

/-- Every failure of a step satisfies `allowed`. -/
def FailsOnly {α : Type} (allowed : Failure → Prop) (step : Except Failure α) : Prop :=
  ∀ failure, step = .error failure → allowed failure

namespace FailsOnly

variable {α β : Type} {allowed : Failure → Prop}

theorem ok (value : α) : FailsOnly allowed (.ok value) := by
  intro failure failed
  cases failed

theorem pure (value : α) : FailsOnly allowed (Pure.pure value : Except Failure α) :=
  ok value

theorem error {failure : Failure} (permitted : allowed failure) :
    FailsOnly allowed (.error failure : Except Failure α) := by
  intro other failed
  cases failed
  exact permitted

theorem bind {step : Except Failure α} {rest : α → Except Failure β}
    (first : FailsOnly allowed step) (next : ∀ value, step = .ok value → FailsOnly allowed (rest value)) :
    FailsOnly allowed (step >>= rest) := by
  intro failure failed
  cases stepped : step with
  | error early =>
    rw [stepped] at failed
    obtain rfl : early = failure := Except.error.inj failed
    exact first early stepped
  | ok value =>
    rw [stepped] at failed
    exact next value stepped failure failed

theorem map {step : Except Failure α} (f : α → β) (first : FailsOnly allowed step) :
    FailsOnly allowed (f <$> step) := by
  rw [map_eq_pure_bind]
  exact first.bind fun value _ => pure (f value)

theorem mapM {items : List α} {f : α → Except Failure β}
    (each : ∀ item ∈ items, FailsOnly allowed (f item)) : FailsOnly allowed (items.mapM f) := by
  induction items with
  | nil => exact pure []
  | cons item rest ih =>
    rw [List.mapM_cons]
    refine (each item (by simp)).bind fun head _ => ?_
    exact (ih fun other member => each other (by simp [member])).bind fun tail _ => pure _

theorem foldlM {items : List α} {f : β → α → Except Failure β}
    (each : ∀ acc, ∀ item ∈ items, FailsOnly allowed (f acc item)) (init : β) :
    FailsOnly allowed (items.foldlM f init) := by
  induction items generalizing init with
  | nil => exact pure init
  | cons item rest ih =>
    rw [List.foldlM_cons]
    exact (each init item (by simp)).bind fun acc _ =>
      ih (fun acc other member => each acc other (by simp [member])) acc

theorem forIn_list {items : List α} {body : α → β → Except Failure (ForInStep β)}
    (each : ∀ item ∈ items, ∀ state, FailsOnly allowed (body item state)) (init : β) :
    FailsOnly allowed (forIn items init body) := by
  induction items generalizing init with
  | nil => exact pure init
  | cons item rest ih =>
    rw [List.forIn_cons]
    refine (each item (by simp) init).bind fun step _ => ?_
    cases step with
    | done state => exact pure state
    | yield state => exact ih (fun other member => each other (by simp [member])) state

theorem mono {weaker : Failure → Prop} {step : Except Failure α}
    (holds : FailsOnly allowed step) (implies : ∀ failure, allowed failure → weaker failure) :
    FailsOnly weaker step :=
  fun failure failed => implies failure (holds failure failed)

end FailsOnly

namespace Document

/-! ## Distinct siblings -/

/-- Sibling identifiers are pairwise distinct at every node of a section forest. -/
def SiblingsDistinct : List Section → Prop
  | [] => True
  | ⟨id, _, _, _, _, _, children⟩ :: rest =>
    id ∉ rest.map Section.id ∧ SiblingsDistinct children ∧ SiblingsDistinct rest

@[simp]
theorem siblingsDistinct_nil : SiblingsDistinct [] := by
  rw [SiblingsDistinct]
  trivial

theorem siblingsDistinct_cons (first : Section) (rest : List Section) :
    SiblingsDistinct (first :: rest) ↔
      first.id ∉ rest.map Section.id ∧ SiblingsDistinct first.children ∧
        SiblingsDistinct rest := by
  cases first
  rw [SiblingsDistinct]

/-- A forest has distinct siblings when its roots have distinct identifiers and the forest
below each root has distinct siblings. -/
theorem siblingsDistinct_iff (sections : List Section) :
    SiblingsDistinct sections ↔
      (sections.map Section.id).Nodup ∧ ∀ section' ∈ sections, SiblingsDistinct section'.children := by
  induction sections with
  | nil => simp
  | cons first rest ih =>
    rw [siblingsDistinct_cons, ih, List.map_cons, List.nodup_cons, List.forall_mem_cons]
    tauto

theorem siblingsDistinct_append (first second : List Section) :
    SiblingsDistinct (first ++ second) ↔
      SiblingsDistinct first ∧ SiblingsDistinct second ∧
        ∀ a ∈ first, ∀ b ∈ second, a.id ≠ b.id := by
  rw [siblingsDistinct_iff (first ++ second), siblingsDistinct_iff first,
    siblingsDistinct_iff second]
  simp only [List.map_append, List.nodup_append, List.forall_mem_append, List.mem_map,
    forall_exists_index, and_imp, forall_apply_eq_imp_iff₂]
  tauto

theorem SiblingsDistinct.sublist {sections others : List Section}
    (distinct : SiblingsDistinct sections) (sub : others.Sublist sections) :
    SiblingsDistinct others := by
  rw [siblingsDistinct_iff] at distinct ⊢
  exact ⟨distinct.1.sublist (sub.map Section.id), fun s member => distinct.2 s (sub.subset member)⟩

/-- Leaves with distinct identifiers have distinct siblings. -/
theorem siblingsDistinct_of_childless {sections : List Section}
    (distinct : (sections.map Section.id).Nodup) (childless : ∀ s ∈ sections, s.children = []) :
    SiblingsDistinct sections := by
  rw [siblingsDistinct_iff]
  refine ⟨distinct, fun s member => ?_⟩
  rw [childless s member]
  exact siblingsDistinct_nil

/-- A category over a forest with distinct siblings, left out when the forest is empty, has
distinct siblings; its one root is named by the category. -/
theorem siblingsDistinct_category (id label : String) {children : List Section}
    (distinct : SiblingsDistinct children) :
    SiblingsDistinct (if children.isEmpty then []
      else [{ id, shortLabel := id, label, role := .category, children }]) ∧
    ∀ s ∈ (if children.isEmpty then []
      else [({ id, shortLabel := id, label, role := .category, children } : Section)]), s.id = id := by
  split
  · simp
  · refine ⟨?_, by simp⟩
    rw [siblingsDistinct_cons]
    exact ⟨by simp, distinct, siblingsDistinct_nil⟩

theorem bind_unit_eq_ok {check rest : Except Failure Unit} :
    (check >>= fun _ => rest) = .ok () ↔ check = .ok () ∧ rest = .ok () := by
  cases check <;> simp [bind, Except.bind]

/-! ## What the checks accept -/

/-- The section check passes exactly on forests with distinct siblings whose roots avoid the
identifiers already seen. -/
theorem checkSections_eq_ok_iff :
    ∀ (place : String) (seen : List String) (sections : List Section),
      checkSections place seen sections = .ok () ↔
        (∀ section' ∈ sections, section'.id ∉ seen) ∧ SiblingsDistinct sections
  | _, _, [] => by simp [checkSections]
  | place, seen, ⟨id, shortLabel, label, detail, key, role, children⟩ :: rest => by
    have below := checkSections_eq_ok_iff (place ++ "/" ++ id) [] children
    have after := checkSections_eq_ok_iff place (id :: seen) rest
    rw [siblingsDistinct_cons, List.forall_mem_cons]
    by_cases taken : id ∈ seen
    · simp [checkSections, taken]
    · rw [checkSections, if_neg (by simpa using taken), bind_unit_eq_ok, below, after]
      simp only [List.not_mem_nil, not_false_eq_true, implies_true, true_and, List.mem_cons,
        not_or, List.mem_map, not_exists, not_and]
      grind

/-- Whatever the section check refuses, it refuses for the schema. -/
theorem checkSections_failsOnly :
    ∀ (place : String) (seen : List String) (sections : List Section),
      FailsOnly Failure.IsSchema (checkSections place seen sections)
  | _, _, [] => by
    rw [checkSections]
    exact FailsOnly.ok ()
  | place, seen, ⟨id, shortLabel, label, detail, key, role, children⟩ :: rest => by
    rw [checkSections]
    split
    · exact FailsOnly.error ⟨_, rfl⟩
    · exact (checkSections_failsOnly _ _ children).bind fun _ _ =>
        checkSections_failsOnly place (id :: seen) rest

/-- The page check passes exactly on pages with distinct paths, none already seen, each
with distinct siblings. -/
theorem checkPages_eq_ok_iff (libraryId : String) (seen : List String) (pages : List Page) :
    checkPages libraryId seen pages = .ok () ↔
      (∀ page ∈ pages, page.path ∉ seen) ∧ (pages.map Page.path).Nodup ∧
        ∀ page ∈ pages, SiblingsDistinct page.sections := by
  induction pages generalizing seen with
  | nil => simp [checkPages]
  | cons page rest ih =>
    by_cases taken : page.path ∈ seen
    · simp [checkPages, taken]
    · rw [checkPages, if_neg (by simpa using taken), bind_unit_eq_ok, checkSections_eq_ok_iff,
        ih]
      simp only [List.not_mem_nil, not_false_eq_true, implies_true, true_and, List.mem_cons,
        not_or, List.map_cons, List.nodup_cons, List.mem_map, not_exists, not_and]
      grind

theorem checkPages_failsOnly (libraryId : String) (seen : List String) (pages : List Page) :
    FailsOnly Failure.IsSchema (checkPages libraryId seen pages) := by
  induction pages generalizing seen with
  | nil => exact FailsOnly.ok ()
  | cons page rest ih =>
    rw [checkPages]
    split
    · exact FailsOnly.error ⟨_, rfl⟩
    · exact (checkSections_failsOnly _ _ _).bind fun _ _ => ih _

/-- The library check passes exactly on libraries with distinct identifiers, none already
seen, each with distinct page paths and each page with distinct siblings. -/
theorem checkLibraries_eq_ok_iff (seen : List String) (libraries : List Library) :
    checkLibraries seen libraries = .ok () ↔
      (∀ library ∈ libraries, library.id ∉ seen) ∧ (libraries.map Library.id).Nodup ∧
        ∀ library ∈ libraries, (library.pages.map Page.path).Nodup ∧
          ∀ page ∈ library.pages, SiblingsDistinct page.sections := by
  induction libraries generalizing seen with
  | nil => simp [checkLibraries]
  | cons library rest ih =>
    by_cases taken : library.id ∈ seen
    · simp [checkLibraries, taken]
    · rw [checkLibraries, if_neg (by simpa using taken), bind_unit_eq_ok, checkPages_eq_ok_iff,
        ih]
      simp only [List.not_mem_nil, not_false_eq_true, implies_true, true_and, List.mem_cons,
        not_or, List.map_cons, List.nodup_cons, List.mem_map, not_exists, not_and]
      grind

theorem checkLibraries_failsOnly (seen : List String) (libraries : List Library) :
    FailsOnly Failure.IsSchema (checkLibraries seen libraries) := by
  induction libraries generalizing seen with
  | nil => exact FailsOnly.ok ()
  | cons library rest ih =>
    rw [checkLibraries]
    split
    · exact FailsOnly.error ⟨_, rfl⟩
    · exact (checkPages_failsOnly _ _ _).bind fun _ _ => ih _

/-! ## Well-formed indexes -/

/-- What validating an index checks. -/
structure Index.WellFormed (index : Index) : Prop where
  libraryIds : (index.libraries.map Library.id).Nodup
  pagePaths : ∀ library ∈ index.libraries, (library.pages.map Page.path).Nodup
  sections : ∀ library ∈ index.libraries, ∀ page ∈ library.pages,
    SiblingsDistinct page.sections

theorem Index.validate_eq_ok_iff (index : Index) : index.validate = .ok () ↔ index.WellFormed := by
  rw [Index.validate, checkLibraries_eq_ok_iff]
  constructor
  · rintro ⟨-, libraryIds, each⟩
    exact ⟨libraryIds, fun library member => (each library member).1,
      fun library member => (each library member).2⟩
  · rintro ⟨libraryIds, pagePaths, sections⟩
    exact ⟨by simp, libraryIds, fun library member =>
      ⟨pagePaths library member, sections library member⟩⟩

theorem Index.validate_failsOnly (index : Index) : FailsOnly Failure.IsSchema index.validate :=
  checkLibraries_failsOnly [] index.libraries

/-- An index of one library is well formed when that library's page paths are distinct and
each page has distinct siblings. -/
theorem Index.wellFormed_of_single {index : Index} {library : Library}
    (single : index.libraries = [library]) (paths : (library.pages.map Page.path).Nodup)
    (sections : ∀ page ∈ library.pages, SiblingsDistinct page.sections) : index.WellFormed where
  libraryIds := by simp [single]
  pagePaths := by simpa [single] using paths
  sections := by simpa [single] using sections

/-- Two categories of distinct identifiers, each over a forest with distinct siblings, have
distinct siblings side by side. -/
theorem siblingsDistinct_categories {first second : String} (differ : first ≠ second)
    (firstLabel secondLabel : String) {firstChildren secondChildren : List Section}
    (firstDistinct : SiblingsDistinct firstChildren)
    (secondDistinct : SiblingsDistinct secondChildren) :
    SiblingsDistinct
      ((if firstChildren.isEmpty then []
        else [{ id := first, shortLabel := first, label := firstLabel, role := .category,
                children := firstChildren }]) ++
       (if secondChildren.isEmpty then []
        else [{ id := second, shortLabel := second, label := secondLabel, role := .category,
                children := secondChildren }])) := by
  obtain ⟨firstCategory, firstIds⟩ := siblingsDistinct_category first firstLabel firstDistinct
  obtain ⟨secondCategory, secondIds⟩ :=
    siblingsDistinct_category second secondLabel secondDistinct
  refine (siblingsDistinct_append _ _).mpr ⟨firstCategory, secondCategory, ?_⟩
  intro a inFirst b inSecond
  rw [firstIds a inFirst, secondIds b inSecond]
  exact differ

/-- Rewriting each root of a forest while keeping its identifier keeps siblings distinct, when
the forest below each rewritten root has distinct siblings. -/
theorem siblingsDistinct_map {sections : List Section} (distinct : SiblingsDistinct sections)
    (rewrite : Section → Section) (sameId : ∀ s ∈ sections, (rewrite s).id = s.id)
    (below : ∀ s ∈ sections, SiblingsDistinct (rewrite s).children) :
    SiblingsDistinct (sections.map rewrite) := by
  rw [siblingsDistinct_iff] at distinct ⊢
  refine ⟨?_, ?_⟩
  · rw [List.map_map]
    convert distinct.1 using 1
    exact List.map_congr_left sameId
  · intro s member
    obtain ⟨original, inSections, rfl⟩ := List.mem_map.mp member
    exact below original inSections

end Document

/-! ## Putting an index -/

theorem checkKey_eq (project language : String) :
    checkKey project language =
      if project.isEmpty then .error (.badValue "Project name must not be empty")
      else if language.isEmpty then .error (.badValue "Language must not be empty")
      else .ok () := by
  unfold checkKey
  by_cases emptyProject : project.isEmpty <;> by_cases emptyLanguage : language.isEmpty <;>
    simp only [emptyProject, emptyLanguage, if_true, if_false, Bool.false_eq_true] <;> rfl

/-- The message of a put whose index is of another language than its key. -/
def languageMismatch (indexLanguage language : String) : String :=
  "Index language '" ++ indexLanguage ++ "' does not match key language '" ++ language ++ "'"

theorem putChecks_eq (fault : Option String) (halt : Halt) (project language : String)
    (index : Index) :
    putChecks fault halt project language index =
      checkKey project language >>= fun _ =>
        if index.language = language then
          index.validate >>= fun _ => checkpoint halt >>= fun _ =>
            checkBinding fault [project, language] >>= fun _ =>
              checkColumns [index.schemaVersion, index.fileCount, index.byteCount] >>= fun _ =>
                encodeStrict (payloadOf index)
        else .error (.schema (languageMismatch index.language language)) := by
  unfold putChecks
  congr 1
  funext
  by_cases same : index.language = language
  · simp only [same, bne_self_eq_false, if_true, Bool.false_eq_true, if_false]
  · have differ : (index.language != language) = true := by simpa using same
    simp only [differ, if_true, same, if_false]
    rfl

theorem checkKey_failsOnly (project language : String) :
    FailsOnly (fun failure => ¬ failure.IsSchema) (checkKey project language) := by
  rw [checkKey_eq]
  split
  · exact FailsOnly.error fun ⟨_, wrong⟩ => Failure.noConfusion wrong
  · split
    · exact FailsOnly.error fun ⟨_, wrong⟩ => Failure.noConfusion wrong
    · exact FailsOnly.ok ()

theorem checkpoint_failsOnly (halt : Halt) :
    FailsOnly (fun failure => ¬ failure.IsSchema) (checkpoint halt) := by
  cases halt with
  | none => exact FailsOnly.ok ()
  | some reason => exact FailsOnly.error fun ⟨_, wrong⟩ => Failure.noConfusion wrong

theorem checkUsable_failsOnly (fault : Option String) :
    FailsOnly (fun failure => ¬ failure.IsSchema) (checkUsable fault) := by
  cases fault with
  | none => exact FailsOnly.ok ()
  | some message => exact FailsOnly.error fun ⟨_, wrong⟩ => Failure.noConfusion wrong

theorem encodeStrict_failsOnly (text : String) :
    FailsOnly (fun failure => ¬ failure.IsSchema) (encodeStrict text) := by
  unfold encodeStrict
  split
  · exact FailsOnly.error fun ⟨_, wrong⟩ => Failure.noConfusion wrong
  · exact FailsOnly.ok ()

theorem forM_encodeStrict_failsOnly :
    ∀ texts : List String, FailsOnly (fun failure => ¬ failure.IsSchema) (texts.forM encodeStrict)
  | [] => FailsOnly.ok ()
  | text :: rest =>
    (encodeStrict_failsOnly text).bind fun _ _ => forM_encodeStrict_failsOnly rest

theorem checkBinding_failsOnly (fault : Option String) (texts : List String) :
    FailsOnly (fun failure => ¬ failure.IsSchema) (checkBinding fault texts) :=
  (checkUsable_failsOnly fault).bind fun _ _ => forM_encodeStrict_failsOnly texts

theorem checkColumns_failsOnly (numbers : List Int) :
    FailsOnly (fun failure => ¬ failure.IsSchema) (checkColumns numbers) := by
  unfold checkColumns
  split
  · exact FailsOnly.ok ()
  · exact FailsOnly.error fun ⟨_, wrong⟩ => Failure.noConfusion wrong

/-- The checks of a put of a well-formed index of the key's language refuse nothing for the
schema: what is left is the key, cancellation, the store and the binding of its values. -/
theorem putChecks_failsOnly {index : Index} {language : String} (same : index.language = language)
    (wellFormed : index.WellFormed) (fault : Option String) (halt : Halt) (project : String) :
    FailsOnly (fun failure => ¬ failure.IsSchema) (putChecks fault halt project language index) := by
  rw [putChecks_eq, if_pos same, (Index.validate_eq_ok_iff index).mpr wellFormed]
  exact (checkKey_failsOnly project language).bind fun _ _ =>
    (FailsOnly.ok ()).bind fun _ _ => (checkpoint_failsOnly halt).bind fun _ _ =>
      (checkBinding_failsOnly fault _).bind fun _ _ =>
        (checkColumns_failsOnly _).bind fun _ _ => encodeStrict_failsOnly _

theorem Store.put_eq_error_iff (store : Store) (halt : Halt) (project language : String)
    (index : Index) (failure : Failure) :
    store.put halt project language index = .error failure ↔
      putChecks store.fault halt project language index = .error failure := by
  rw [Store.put_eq]
  cases putChecks store.fault halt project language index <;> simp [Except.map]

/-- A put of a well-formed index under its own language never fails for the schema. -/
theorem Store.put_failsOnly {index : Index} {language : String} (same : index.language = language)
    (wellFormed : index.WellFormed) (store : Store) (halt : Halt) (project : String) :
    FailsOnly (fun failure => ¬ failure.IsSchema) (store.put halt project language index) :=
  fun failure failed => putChecks_failsOnly same wellFormed store.fault halt project failure
    ((Store.put_eq_error_iff store halt project language index failure).mp failed)

/-- A put fails for the schema exactly when the key is sound and the index is of another
language or not well formed. -/
theorem Store.put_schema_iff (store : Store) (halt : Halt) (project language : String)
    (index : Index) :
    (∃ message, store.put halt project language index = .error (.schema message)) ↔
      checkKey project language = .ok () ∧ (index.language ≠ language ∨ ¬ index.WellFormed) := by
  simp only [Store.put_eq_error_iff, putChecks_eq]
  constructor
  · rintro ⟨message, refused⟩
    refine ⟨?_, ?_⟩
    · cases keyed : checkKey project language with
      | ok _ => rfl
      | error failure =>
        rw [keyed] at refused
        cases refused
        exact absurd ⟨message, rfl⟩ (checkKey_failsOnly project language _ keyed)
    · by_contra accepted
      simp only [not_or, not_not] at accepted
      rw [← putChecks_eq] at refused
      exact putChecks_failsOnly accepted.1 accepted.2 store.fault halt project _ refused
        ⟨message, rfl⟩
  · rintro ⟨keyed, other | broken⟩
    · exact ⟨languageMismatch index.language language, by simp [keyed, other, bind, Except.bind]⟩
    · by_cases same : index.language = language
      · obtain ⟨failure, refused⟩ : ∃ failure, index.validate = .error failure := by
          cases validated : index.validate with
          | error failure => exact ⟨failure, rfl⟩
          | ok _ => exact absurd ((Index.validate_eq_ok_iff index).mp validated) broken
        obtain ⟨message, rfl⟩ := Index.validate_failsOnly index _ refused
        exact ⟨message, by simp [keyed, same, refused, bind, Except.bind]⟩
      · exact ⟨languageMismatch index.language language, by simp [keyed, same, bind, Except.bind]⟩

end DocIndex
