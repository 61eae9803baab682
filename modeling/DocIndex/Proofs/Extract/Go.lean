import DocIndex.Go.Extract
import DocIndex.Proofs.Disk.WalkPaths

/-!
# Admissible Go indexes

Collecting a package records a function, a type or a method only when no earlier one of
its kind has its name, in the package's own list or in the method list of its receiver, so
every list holds distinct names; the receivers have one method list each. A package page
puts the methods of each type below it and the two categories beside each other, and every
package directory gives one page at its own path. The index the Go reader makes therefore
passes validation, whatever the files hold.
-/

namespace DocIndex.Go

open DocIndex.Document DocIndex.Disk DocIndex.Search

/-! ## Receivers -/

section Lookup

variable {α : Type}

theorem lookup_eq_some_of_mem {entries : List (String × α)} {key : String} {value : α}
    (distinct : (entries.map Prod.fst).Nodup) (member : (key, value) ∈ entries) :
    entries.lookup key = some value := by
  induction entries with
  | nil => cases member
  | cons entry rest ih =>
    obtain ⟨first, held⟩ := entry
    rw [List.map_cons, List.nodup_cons] at distinct
    rw [List.lookup_cons]
    rcases List.mem_cons.mp member with same | later
    · cases same
      simp
    · have keyIn : key ∈ rest.map Prod.fst := List.mem_map.mpr ⟨_, later, rfl⟩
      have differ : (key == first) = false :=
        beq_false_of_ne fun same => distinct.1 (by simpa [same] using keyIn)
      simp [differ, ih distinct.2 later]

theorem not_mem_of_lookup_eq_none {entries : List (String × α)} {key : String}
    (missing : entries.lookup key = none) : key ∉ entries.map Prod.fst := by
  induction entries with
  | nil => simp
  | cons entry rest ih =>
    obtain ⟨first, held⟩ := entry
    rw [List.lookup_cons] at missing
    split at missing
    · cases missing
    · rename_i differ
      simp only [List.map_cons, List.mem_cons, not_or]
      exact ⟨fun same => by simp [same] at differ, ih missing⟩

theorem mem_of_lookup_eq_some {entries : List (String × α)} {key : String} {value : α}
    (found : entries.lookup key = some value) : ∃ owner, (owner, value) ∈ entries := by
  induction entries with
  | nil => cases found
  | cons entry rest ih =>
    obtain ⟨first, held⟩ := entry
    rw [List.lookup_cons] at found
    split at found
    · cases found
      exact ⟨first, List.mem_cons_self⟩
    · obtain ⟨owner, member⟩ := ih found
      exact ⟨owner, List.mem_cons_of_mem _ member⟩

end Lookup

/-! ## Collecting a package -/

/-- What collecting keeps of a package: functions and types with distinct names, and one
method list per receiver, each with distinct names. -/
structure Package.Admissible (package : Package) : Prop where
  functions : SiblingsDistinct package.functions
  types : SiblingsDistinct package.types
  receivers : (package.methods.map Prod.fst).Nodup
  methods : ∀ entry ∈ package.methods, SiblingsDistinct entry.2

theorem Package.admissible_empty (directory : String) : (Package.empty directory).Admissible where
  functions := siblingsDistinct_nil
  types := siblingsDistinct_nil
  receivers := List.nodup_nil
  methods := by simp [Package.empty]

/-- A leaf whose name no sibling has keeps siblings distinct when it is put last. -/
theorem siblingsDistinct_append_leaf {sections : List Section} {leaf : Section}
    (distinct : SiblingsDistinct sections) (fresh : sections.any (·.id == leaf.id) = false)
    (childless : leaf.children = []) : SiblingsDistinct (sections ++ [leaf]) := by
  refine (siblingsDistinct_append _ _).mpr ⟨distinct, ?_, ?_⟩
  · rw [siblingsDistinct_cons, childless]
    exact ⟨by simp, siblingsDistinct_nil, siblingsDistinct_nil⟩
  · intro earlier member last single same
    rw [List.mem_singleton] at single
    subst single
    have differ := List.any_eq_false.mp fresh earlier member
    simp_all

theorem Package.Admissible.addFunction {package : Package} (admissible : package.Admissible)
    (importPath docs name parameters result : String) :
    (package.addFunction importPath docs name parameters result).Admissible := by
  unfold Package.addFunction
  split
  · exact admissible
  · rename_i recorded
    simp only [Bool.or_eq_true, Bool.not_eq_true', not_or, Bool.not_eq_true] at recorded
    exact ⟨siblingsDistinct_append_leaf admissible.functions recorded.2 rfl, admissible.types,
      admissible.receivers, admissible.methods⟩

theorem Package.Admissible.addTypes {package : Package} (admissible : package.Admissible)
    (importPath docs : String) (specs : List TypeSpec) :
    (package.addTypes importPath docs specs).Admissible := by
  unfold Package.addTypes
  induction specs generalizing package with
  | nil => exact admissible
  | cons spec rest ih =>
    rw [List.foldl_cons]
    apply ih
    split
    · exact admissible
    · rename_i recorded
      simp only [Bool.or_eq_true, Bool.not_eq_true', not_or, Bool.not_eq_true] at recorded
      exact ⟨admissible.functions, siblingsDistinct_append_leaf admissible.types recorded.2 rfl,
        admissible.receivers, admissible.methods⟩

theorem Package.Admissible.addMethod {package : Package} (admissible : package.Admissible)
    (importPath docs receiver : String) (receiverType : Option String)
    (name parameters result : String) :
    (package.addMethod importPath docs receiver receiverType name parameters result).Admissible := by
  unfold Package.addMethod
  dsimp only
  split
  · exact admissible
  split
  · exact admissible
  rename_i fresh
  split
  · -- the receiver has a method list: the method goes last in it
    rename_i known
    obtain ⟨list, found⟩ := Option.isSome_iff_exists.mp known
    rw [found, Option.getD_some] at fresh
    refine ⟨admissible.functions, admissible.types, ?_, ?_⟩
    · rw [List.map_map]
      convert admissible.receivers using 1
      apply List.map_congr_left
      intro entry _
      simp only [Function.comp]
      split <;> rfl
    · intro entry member
      obtain ⟨⟨key, methods⟩, inMethods, rfl⟩ := List.mem_map.mp member
      dsimp only
      split
      · rename_i same
        -- receivers are distinct, so the list checked is this one
        have checked : methods = list := by
          rw [beq_iff_eq] at same
          subst same
          exact Option.some.inj
            ((lookup_eq_some_of_mem admissible.receivers inMethods).symm.trans found)
        subst checked
        exact siblingsDistinct_append_leaf (admissible.methods _ inMethods) (by simpa using fresh) rfl
      · exact admissible.methods _ inMethods
  · -- a new receiver gets a list of its own
    rename_i unknown
    have missing : package.methods.lookup (receiverName receiverType) = none := by
      cases found : package.methods.lookup (receiverName receiverType) with
      | none => rfl
      | some _ => simp [found] at unknown
    refine ⟨admissible.functions, admissible.types, ?_, ?_⟩
    · rw [List.map_append, List.nodup_append]
      refine ⟨admissible.receivers, List.nodup_singleton _, ?_⟩
      intro key member other single same
      simp only [List.map_cons, List.map_nil, List.mem_singleton] at single
      exact not_mem_of_lookup_eq_none missing (by rw [← single, ← same]; exact member)
    · intro entry member
      rcases List.mem_append.mp member with old | new
      · exact admissible.methods entry old
      · rw [List.mem_singleton] at new
        subst new
        exact siblingsDistinct_of_childless (by simp) (by simp)

theorem Package.Admissible.addDecl {package : Package} (admissible : package.Admissible)
    (importPath docs : String) :
    ∀ kind, (package.addDecl importPath docs kind).Admissible
  | .comment _ => admissible
  | .packageClause _ => by
    unfold Package.addDecl
    dsimp only
    split <;> split <;>
      exact ⟨admissible.functions, admissible.types, admissible.receivers, admissible.methods⟩
  | .function .. => admissible.addFunction ..
  | .method .. => admissible.addMethod ..
  | .typeDecl specs => admissible.addTypes importPath docs specs
  | .other => admissible

theorem Package.Admissible.collect {package : Package} (admissible : package.Admissible)
    (importPath : String) (pending decls : List Decl) :
    (package.collect importPath pending decls).Admissible := by
  induction decls generalizing package pending with
  | nil => exact admissible
  | cons decl rest ih =>
    rw [Package.collect]
    split
    · exact ih admissible _
    · exact ih (admissible.addDecl _ _ _) _

theorem Package.addTypes_directory (package : Package) (importPath docs : String)
    (specs : List TypeSpec) :
    (package.addTypes importPath docs specs).directory = package.directory := by
  unfold Package.addTypes
  induction specs generalizing package with
  | nil => rfl
  | cons spec rest ih =>
    rw [List.foldl_cons, ih]
    split <;> rfl

theorem Package.addDecl_directory (package : Package) (importPath docs : String)
    (kind : DeclKind) : (package.addDecl importPath docs kind).directory = package.directory := by
  cases kind with
  | packageClause _ =>
    simp only [Package.addDecl]
    split <;> split <;> rfl
  | function name parameters result =>
    simp only [Package.addDecl, Package.addFunction]
    split <;> rfl
  | method receiver receiverType name parameters result =>
    simp only [Package.addDecl, Package.addMethod]
    split
    · rfl
    split <;> rfl
  | typeDecl specs => exact Package.addTypes_directory package importPath docs specs
  | comment _ | other => rfl

/-- Collecting declarations keeps a package's directory. -/
theorem Package.collect_directory (package : Package) (importPath : String)
    (pending decls : List Decl) :
    (package.collect importPath pending decls).directory = package.directory := by
  induction decls generalizing package pending with
  | nil => rfl
  | cons decl rest ih =>
    rw [Package.collect]
    split
    · exact ih package _
    · rw [ih, Package.addDecl_directory]

/-! ## Packages of a directory -/

section Reading

variable {parse : List UInt8 → List Decl}

/-- Packages of distinct directories, each admissible. -/
def PackagesAdmissible (packages : List Package) : Prop :=
  (packages.map Package.directory).Nodup ∧ ∀ package ∈ packages, package.Admissible

/-- Adding a file keeps one admissible package per directory. -/
theorem addFile_admissible {packages : List Package}
    (admissible : PackagesAdmissible packages) (base : String) (file : SourceFile) :
    PackagesAdmissible (addFile parse base packages file) := by
  obtain ⟨distinct, each⟩ := admissible
  unfold addFile
  dsimp only
  split
  · -- the directory has a package: its declarations join it
    refine ⟨?_, ?_⟩
    · rw [List.map_map]
      convert distinct using 1
      apply List.map_congr_left
      intro package _
      simp only [Function.comp]
      split
      · exact Package.collect_directory _ _ _ _
      · rfl
    · intro package member
      obtain ⟨old, inPackages, rfl⟩ := List.mem_map.mp member
      split
      · exact (each old inPackages).collect _ _ _
      · exact each old inPackages
  · -- the directory is new: it gets a package of its own, put last
    rename_i unseen
    refine ⟨?_, ?_⟩
    · rw [List.map_append, List.nodup_append]
      refine ⟨distinct, List.nodup_singleton _, ?_⟩
      intro directory member other single same
      simp only [List.map_cons, List.map_nil, List.mem_singleton,
        Package.collect_directory] at single
      obtain ⟨package, inPackages, rfl⟩ := List.mem_map.mp member
      exact unseen (List.any_eq_true.mpr ⟨package, inPackages, by simp [same, single, Package.empty]⟩)
    · intro package member
      rcases List.mem_append.mp member with old | new
      · exact each package old
      · rw [List.mem_singleton] at new
        subst new
        exact (Package.admissible_empty _).collect _ _ _

/-! ## Pages and the index -/

/-- A package page has distinct siblings at every node: each type keeps its name and takes
its receiver's methods below it. -/
theorem Package.Admissible.page_siblingsDistinct {package : Package}
    (admissible : package.Admissible) (importPath : String) :
    SiblingsDistinct (package.page importPath).sections := by
  have typesBelow := ((siblingsDistinct_iff _).mp admissible.types).2
  refine siblingsDistinct_categories (by decide) "Functions" "Types" admissible.functions
    (siblingsDistinct_map admissible.types _ (fun entry _ => ?_) (fun entry member => ?_))
  · split
    · split <;> rfl
    · rfl
  · split
    · rename_i methods found
      split
      · exact typesBelow entry member
      · obtain ⟨_, inMethods⟩ := mem_of_lookup_eq_some found
        exact admissible.methods _ inMethods
    · exact typesBelow entry member

theorem foldl_addFile_admissible (base : String) (files : List SourceFile) :
    ∀ packages, PackagesAdmissible packages →
      PackagesAdmissible (files.foldl (addFile parse base) packages) := by
  induction files with
  | nil => exact fun _ admissible => admissible
  | cons file rest ih =>
    intro packages admissible
    exact ih _ (addFile_admissible admissible base file)

/-- The Go index of any tree is of the Go language, under the latest schema, with one
library, and well formed. -/
theorem indexDirectory_admissible {halt : Halt} {location name : String} {root : Node}
    {index : Index} (made : indexDirectory parse halt location name root = .ok index) :
    index.language = Extract.goLanguage ∧ index.schemaVersion = latestVersion ∧
      index.libraries.length = 1 ∧ index.WellFormed := by
  unfold indexDirectory at made
  obtain ⟨modulePath, -, made⟩ := bind_eq_ok made
  obtain ⟨files, -, made⟩ := bind_eq_ok made
  obtain ⟨_, -, made⟩ := bind_eq_ok made
  cases made
  obtain ⟨distinct, each⟩ := foldl_addFile_admissible _ _ [] ⟨List.nodup_nil, by simp⟩
  refine ⟨rfl, rfl, rfl, Index.wellFormed_of_single rfl ?_ ?_⟩
  · rw [List.map_map]
    exact distinct
  · intro page member
    obtain ⟨package, inPackages, rfl⟩ := List.mem_map.mp member
    exact (each package inPackages).page_siblingsDistinct _

theorem readModulePath_failsOnly (location : String) (directory : Node) :
    FailsOnly (fun failure => ¬ failure.IsSchema) (readModulePath location directory) := by
  unfold readModulePath
  dsimp only
  split
  · split
    · exact FailsOnly.error fun ⟨_, wrong⟩ => Failure.noConfusion wrong
    · split
      · exact FailsOnly.ok _
      · exact FailsOnly.error fun ⟨_, wrong⟩ => Failure.noConfusion wrong
  · exact FailsOnly.ok _

/-- The Go reader fails only on a broken module file or a cancellation, never for the
schema. -/
theorem indexDirectory_failsOnly (halt : Halt) (location name : String) (root : Node) :
    FailsOnly (fun failure => ¬ failure.IsSchema) (indexDirectory parse halt location name root) := by
  unfold indexDirectory
  exact (readModulePath_failsOnly location root).bind fun _ _ =>
    (walk_failsOnly halt root).bind fun _ _ =>
      (FailsOnly.forIn_list (fun _ _ _ => (checkpoint_failsOnly halt).bind fun _ _ =>
        FailsOnly.pure _) _).bind fun _ _ => FailsOnly.pure _

end Reading

end DocIndex.Go
