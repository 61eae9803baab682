import DocIndex.Proofs.Document.WellFormed
import DocIndex.Proofs.Search.Flatten

/-!
# The first violation of an index

An index breaks its structural invariants where a library identifier, a page path within
its library, or a section identifier among its siblings was taken by an earlier one.
`Index.violations` lists every such breach in the order validation meets them: libraries in
order, for each its identifier, then its pages in order, for each its path, then its
sections depth first, each section's identifier against its earlier siblings before the
sections below it. The same identifier under two parents is no breach.

The main statement, `Index.validate_reports_first_violation`, says that validation passes
exactly on well-formed indexes, and otherwise fails with the schema failure that names the
first breach of that list. Each check is the report of the first of its breaches
(`checkSections_eq_firstReport` and its siblings), since a check stops where its first
breach stands and a list of breaches reports its first one. A section tree is finite, so no
section lies below itself: a check for sections met again on their own path never fires
(`reached_not_mem_above`).
-/

namespace DocIndex.Document

open DocIndex.Search

/-- A breach of the structural invariants of an index. -/
inductive Violation where
  | libraryId (id : String)
  | pagePath (path libraryId : String)
  | sectionId (id place : String)
  deriving DecidableEq, Repr

/-- The text that reports a breach, naming it and where it stands. -/
def Violation.message : Violation → String
  | .libraryId id => "Duplicate library id '" ++ id ++ "'"
  | .pagePath path library =>
    "Duplicate page path '" ++ path ++ "' in library '" ++ library ++ "'"
  | .sectionId id place => "Duplicate section id '" ++ id ++ "' under " ++ place

/-- The breaches in a section forest below `place`, depth first: each section's identifier
against those of its earlier siblings, `earlier` before the forest's own, then the breaches
below it. -/
def sectionViolations (place : String) (earlier : List String) : List Section → List Violation
  | [] => []
  | ⟨id, _, _, _, _, _, children⟩ :: rest =>
    (if id ∈ earlier then [.sectionId id place] else []) ++
      sectionViolations (place ++ "/" ++ id) [] children ++
      sectionViolations place (id :: earlier) rest

/-- The breaches in the pages of a library, in order: each page's path against those of the
earlier pages, then the breaches in its sections. -/
def pageViolations (libraryId : String) (earlier : List String) : List Page → List Violation
  | [] => []
  | page :: rest =>
    (if page.path ∈ earlier then [.pagePath page.path libraryId] else []) ++
      sectionViolations (libraryId ++ ":" ++ page.path) [] page.sections ++
      pageViolations libraryId (page.path :: earlier) rest

/-- The breaches in libraries, in order: each library's identifier against those of the
earlier libraries, then the breaches in its pages. -/
def libraryViolations (earlier : List String) : List Library → List Violation
  | [] => []
  | library :: rest =>
    (if library.id ∈ earlier then [.libraryId library.id] else []) ++
      pageViolations library.id [] library.pages ++
      libraryViolations (library.id :: earlier) rest

/-- The breaches of an index, in the order validation meets them. -/
def Index.violations (index : Index) : List Violation :=
  libraryViolations [] index.libraries

/-! ## Reporting the first breach -/

/-- A check that stops at the first of the breaches it meets: it passes when there are none,
and otherwise fails for the schema with the first one's text. -/
def firstReport : List Violation → Except Failure Unit
  | [] => .ok ()
  | violation :: _ => .error (.schema violation.message)

@[simp]
theorem firstReport_nil : firstReport [] = .ok () := rfl

@[simp]
theorem firstReport_cons (violation : Violation) (later : List Violation) :
    firstReport (violation :: later) = .error (.schema violation.message) := rfl

/-- Breaches met one after the other are reported as the second check run after the
first. -/
theorem firstReport_append (first second : List Violation) :
    firstReport (first ++ second) = (firstReport first >>= fun _ => firstReport second) := by
  cases first <;> rfl

theorem firstReport_eq_ok_iff (violations : List Violation) :
    firstReport violations = .ok () ↔ violations = [] := by
  cases violations <;> simp

theorem firstReport_eq_error_iff (violations : List Violation) (failure : Failure) :
    firstReport violations = .error failure ↔
      ∃ violation later,
        violations = violation :: later ∧ failure = .schema violation.message := by
  cases violations with
  | nil => simp
  | cons violation later =>
    simp only [firstReport_cons, Except.error.injEq, List.cons.injEq]
    constructor
    · rintro rfl
      exact ⟨violation, later, ⟨rfl, rfl⟩, rfl⟩
    · rintro ⟨_, _, ⟨rfl, rfl⟩, rfl⟩
      rfl

/-! ## Each check reports its first breach -/

theorem checkSections_eq_firstReport :
    ∀ (place : String) (seen : List String) (sections : List Section),
      checkSections place seen sections = firstReport (sectionViolations place seen sections)
  | _, _, [] => by rw [checkSections, sectionViolations, firstReport_nil]
  | place, seen, ⟨id, shortLabel, label, detail, key, role, children⟩ :: rest => by
    rw [checkSections, sectionViolations]
    by_cases taken : id ∈ seen
    · rw [if_pos (List.contains_iff_mem.mpr taken), if_pos taken, List.append_assoc]
      rfl
    · rw [if_neg (by simpa using taken), if_neg taken, List.nil_append, firstReport_append,
        checkSections_eq_firstReport (place ++ "/" ++ id) [] children,
        checkSections_eq_firstReport place (id :: seen) rest]

theorem checkPages_eq_firstReport (libraryId : String) :
    ∀ (seen : List String) (pages : List Page),
      checkPages libraryId seen pages = firstReport (pageViolations libraryId seen pages)
  | _, [] => rfl
  | seen, page :: rest => by
    rw [checkPages, pageViolations]
    by_cases taken : page.path ∈ seen
    · rw [if_pos (List.contains_iff_mem.mpr taken), if_pos taken, List.append_assoc]
      rfl
    · rw [if_neg (by simpa using taken), if_neg taken, List.nil_append, firstReport_append,
        checkSections_eq_firstReport, checkPages_eq_firstReport libraryId (page.path :: seen) rest]

theorem checkLibraries_eq_firstReport :
    ∀ (seen : List String) (libraries : List Library),
      checkLibraries seen libraries = firstReport (libraryViolations seen libraries)
  | _, [] => rfl
  | seen, library :: rest => by
    rw [checkLibraries, libraryViolations]
    by_cases taken : library.id ∈ seen
    · rw [if_pos (List.contains_iff_mem.mpr taken), if_pos taken, List.append_assoc]
      rfl
    · rw [if_neg (by simpa using taken), if_neg taken, List.nil_append, firstReport_append,
        checkPages_eq_firstReport, checkLibraries_eq_firstReport (library.id :: seen) rest]

/-- Validation reports the first breach of an index. -/
theorem Index.validate_eq_firstReport (index : Index) :
    index.validate = firstReport index.violations :=
  checkLibraries_eq_firstReport [] index.libraries

/-! ## No section lies below itself -/

/-- Every section a forest reaches is smaller than the forest. -/
theorem sizeOf_lt_of_mem_reached :
    ∀ {sections : List Section}, ∀ path ∈ reached sections, sizeOf path.2 < sizeOf sections
  | [], path, member => by simp [reached] at member
  | ⟨id, shortLabel, label, detail, key, role, children⟩ :: rest, path, member => by
    rw [reached, List.cons_append, List.mem_cons, List.mem_append] at member
    rcases member with rfl | below | later
    · simp only [List.cons.sizeOf_spec]
      omega
    · obtain ⟨deeper, deeperMember, rfl⟩ := List.mem_map.mp below
      have smaller := sizeOf_lt_of_mem_reached deeper deeperMember
      simp only [List.cons.sizeOf_spec, Section.mk.sizeOf_spec]
      omega
    · have smaller := sizeOf_lt_of_mem_reached path later
      simp only [List.cons.sizeOf_spec]
      omega

/-- A section that a forest reaches is smaller than every section above it on its path. -/
theorem sizeOf_lt_of_mem_above :
    ∀ {sections : List Section}, ∀ path ∈ reached sections, ∀ above ∈ path.1,
      sizeOf path.2 < sizeOf above
  | [], path, member => by simp [reached] at member
  | ⟨id, shortLabel, label, detail, key, role, children⟩ :: rest, path, member => by
    rw [reached, List.cons_append, List.mem_cons, List.mem_append] at member
    intro above onPath
    rcases member with rfl | below | later
    · cases onPath
    · obtain ⟨deeper, deeperMember, rfl⟩ := List.mem_map.mp below
      rcases List.mem_cons.mp onPath with rfl | deeperAbove
      · -- the top of the path holds the forest the rest of the path is reached in
        have smaller := sizeOf_lt_of_mem_reached deeper deeperMember
        simp only [Section.mk.sizeOf_spec]
        omega
      · exact sizeOf_lt_of_mem_above deeper deeperMember above deeperAbove
    · exact sizeOf_lt_of_mem_above path later above onPath

/-- No section is met again on its own path: a section tree has no cycle. -/
theorem reached_not_mem_above {sections : List Section} :
    ∀ path ∈ reached sections, path.2 ∉ path.1 := by
  intro path member again
  exact Nat.lt_irrefl _ (sizeOf_lt_of_mem_above path member path.2 again)

/-! ## Validation -/

/-- Validation passes exactly on the well-formed indexes: library identifiers pairwise
distinct, page paths pairwise distinct within each library, and sibling section identifiers
pairwise distinct at every node of every section forest, while the same identifier may
stand under different parents. Otherwise it fails, and only with the schema failure naming
the first breach in the order it meets them. No section lies on its own path from its page,
so a check for sections met again on their path could never fire. -/
theorem Index.validate_reports_first_violation (index : Index) :
    (index.validate = .ok () ↔ index.WellFormed) ∧
      (∀ failure, index.validate = .error failure ↔
        ∃ violation later, index.violations = violation :: later ∧
          failure = .schema violation.message) ∧
      ∀ pair ∈ index.pages, ∀ path ∈ reached pair.2.sections, path.2 ∉ path.1 := by
  refine ⟨Index.validate_eq_ok_iff index, fun failure => ?_,
    fun _ _ path member => reached_not_mem_above path member⟩
  rw [Index.validate_eq_firstReport, firstReport_eq_error_iff]

end DocIndex.Document
