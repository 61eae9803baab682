import DocIndex.Proofs.Indexing.Project
import DocIndex.Proofs.Search.Cache

/-!
# A cancelled token is seen at the first checkpoint

A token that was already cancelled is observed at each operation's first cancellation
checkpoint, and only there: whatever an operation checks or computes before that checkpoint
runs as it would without the token, and when the operation never reaches a checkpoint it
answers exactly as an uncancelled one. Each operation has its own order:

* the walk, dispatch and the Python and Markdown readers stop at the walked root when it is a
  directory; the Go reader reads `go.mod` first, so a broken module file is reported instead;
* flattening an index stops before its first page, so an index with pages gives nothing;
* a put stops only after its key, language and validation checks, and a get after its key
  check; both leave the store as it was;
* a build hands out a kept index of the current generation without any checkpoint, and stops
  only when it would load at least one stored index; the engine stays as it was;
* a query stops only when it has terms and candidates, whatever its project filter;
* indexing a project, or several, stops at the first dispatch after the directory checks,
  with the store untouched.

Main statement: `cancelled_at_first_checkpoint`.
-/

namespace DocIndex

open DocIndex.Disk DocIndex.Document DocIndex.Extract DocIndex.Search

variable (reason : String)

/-! ## Walking and reading directories -/

/-- A root that is not a directory has no files, whatever the token. -/
theorem walk_of_not_dir {root : Node} (notDir : root.isDir = false) (halt : Halt) :
    walk halt root = .ok [] := by
  cases root with
  | file content => simp [walk, walkNode]
  | dir entries => cases notDir

/-- The walk stops at a root directory, its first checkpoint. -/
theorem walk_cancelled (root : Node) :
    walk (some reason) root =
      if root.isDir then .error (.cancelled reason) else walk none root := by
  cases root with
  | file content => simp [walk, walkNode, Node.isDir]
  | dir entries => simp [walk, walkNode, Node.isDir, checkpoint, bind, Except.bind]

/-- Dispatch stops where its walk does. -/
theorem dispatch_cancelled (registry : Registry) (root : Node) :
    registry.dispatch (some reason) root =
      if root.isDir then .error (.cancelled reason) else registry.dispatch none root := by
  unfold Registry.dispatch
  rw [walk_cancelled]
  split
  · rfl
  · rfl

/-- The Python reader stops where its walk does. -/
theorem python_cancelled (parse : List UInt8 → List Python.Statement) (name : String)
    (root : Node) :
    Python.indexDirectory parse (some reason) name root =
      if root.isDir then .error (.cancelled reason)
      else Python.indexDirectory parse none name root := by
  split
  · rename_i isDir
    simp [Python.indexDirectory, walk_cancelled, isDir, bind, Except.bind]
  · rename_i notDir
    simp [Python.indexDirectory, walk_of_not_dir (Bool.eq_false_iff.mpr notDir), bind,
      Except.bind]

/-- The Markdown reader stops where its walk does. -/
theorem markdown_cancelled (load : Yaml.Loader) (name : String) (root : Node) :
    Markdown.indexDirectory load (some reason) name root =
      if root.isDir then .error (.cancelled reason)
      else Markdown.indexDirectory load none name root := by
  split
  · rename_i isDir
    simp [Markdown.indexDirectory, walk_cancelled, isDir, bind, Except.bind]
  · rename_i notDir
    simp [Markdown.indexDirectory, walk_of_not_dir (Bool.eq_false_iff.mpr notDir), bind,
      Except.bind]

/-- The Go reader reads the module path before it walks: a broken `go.mod` is reported as it
would be without the token, and otherwise it stops where its walk does. -/
theorem go_cancelled (parse : List UInt8 → List Go.Decl) (location name : String)
    (root : Node) :
    Go.indexDirectory parse (some reason) location name root =
      if root.isDir && (Go.readModulePath location root).isOk then .error (.cancelled reason)
      else Go.indexDirectory parse none location name root := by
  cases reading : Go.readModulePath location root with
  | error failure =>
    simp [Go.indexDirectory, reading, Except.isOk, Except.toBool, bind, Except.bind]
  | ok modulePath =>
    split
    · rename_i isDir
      simp at isDir
      simp [Go.indexDirectory, reading, walk_cancelled, isDir, bind, Except.bind]
    · rename_i notDir
      have notDir : root.isDir = false := by simpa [Except.isOk, Except.toBool] using notDir
      simp [Go.indexDirectory, reading, walk_of_not_dir notDir, bind, Except.bind]

/-! ## Flattening, storing and loading -/

/-- Flattening an index stops before its first page: an index with pages gives nothing. -/
theorem entriesChecked_cancelled (project : String) (index : Index) (withCategories : Bool) :
    entriesChecked (some reason) project index withCategories =
      if index.pages.isEmpty then entriesChecked none project index withCategories
      else .error (.cancelled reason) := by
  unfold entriesChecked
  split
  · rfl
  · rfl

/-- A put stops only after its key, language and validation checks pass; before that it
fails as it would without the token. -/
theorem put_cancelled (store : Store) (project language : String) (index : Index) :
    store.put (some reason) project language index =
      if (checkKey project language).isOk && index.language == language && index.validate.isOk
      then .error (.cancelled reason) else store.put none project language index := by
  rw [Store.put_eq, Store.put_eq, putChecks_eq, putChecks_eq]
  cases keyed : checkKey project language with
  | error failure => simp [Except.isOk, Except.toBool, bind, Except.bind, Except.map]
  | ok passed =>
    by_cases same : index.language = language
    · cases validated : index.validate with
      | error failure => simp [same, Except.isOk, Except.toBool, bind, Except.bind, Except.map]
      | ok passed =>
        simp [same, checkpoint, Except.isOk, Except.toBool, bind, Except.bind, Except.map]
    · simp [same, Except.isOk, Except.toBool, bind, Except.bind, Except.map]

/-- A get stops only after its key check passes. -/
theorem get_cancelled (store : Store) (project language : String) :
    store.get (some reason) project language =
      if (checkKey project language).isOk then .error (.cancelled reason)
      else store.get none project language := by
  unfold Store.get
  cases checkKey project language with
  | error failure => rfl
  | ok passed => rfl

/-! ## Building and querying -/

/-- Loading the stored indexes of some keys stops before the first of them. -/
theorem entriesUnder_cancelled (store : Store) (withCategories : Bool)
    (keys : List (String × String)) :
    entriesUnder store (some reason) withCategories keys =
      if keys.isEmpty then .ok [] else .error (.cancelled reason) := by
  cases keys with
  | nil => rfl
  | cons key rest => rfl

/-- A build hands out a kept index of the current generation without a checkpoint, and stops
only when it would load at least one stored index of its scope. -/
theorem build_cancelled (engine : Engine) (store : Store) (scope : Option String) :
    engine.build store (some reason) scope =
      if store.fault = none ∧ engine.cached? scope store.generation = none ∧
          scopeKeys store scope ≠ []
      then .error (.cancelled reason) else engine.build store none scope := by
  cases fault : store.fault with
  | some message => simp [Engine.build_of_fault fault]
  | none =>
    rw [Engine.build_of_usable fault, Engine.build_of_usable fault]
    cases kept : engine.cached? scope store.generation with
    | some index => simp
    | none =>
      cases keys : scopeKeys store scope with
      | nil => simp [entriesUnder]
      | cons key rest => simp [entriesUnder_cancelled, Except.map]

/-- A query stops only when it has terms and candidates, whatever its project filter. -/
theorem query_cancelled (index : SearchIndex) (query : String) (scope : Option String)
    (limit : Option Int) :
    index.query (some reason) query scope limit =
      if !(queryTerms query).isEmpty && !(index.candidates (queryTerms query)).isEmpty
      then .error (.cancelled reason) else index.query none query scope limit := by
  unfold SearchIndex.query
  by_cases noTerms : (queryTerms query).isEmpty
  · simp [noTerms]
  · by_cases noCandidates : (index.candidates (queryTerms query)).isEmpty
    · simp [noTerms, noCandidates]
    · simp [noTerms, noCandidates, checkpoint, bind, Except.bind]

/-! ## Indexing projects -/

/-- Finding the jobs for a checked directory stops at its dispatch. -/
theorem jobsFor_of_dir (parsers : Parsers) (project : String) (root : SourceRoot)
    (entries : List (String × Node)) :
    jobsFor parsers (some reason) project root (.dir entries) = .error (.cancelled reason) := by
  simp [jobsFor, readersFor, dispatch_cancelled, Node.isDir, bind, Except.bind]

/-- A checked directory is a directory. -/
theorem eq_dir_of_checkRoot {project : String} {root : SourceRoot} {node : Node}
    (checked : checkRoot project root = .ok node) : ∃ entries, node = .dir entries := by
  unfold checkRoot at checked
  split at checked
  · split at checked
    · cases checked
    · cases checked
      exact ⟨_, rfl⟩
  · cases checked

/-- Indexing a project stops at its dispatch, once the workers and the directory are
checked, and leaves the store untouched either way. -/
theorem indexProject_cancelled (parsers : Parsers) (pool : Scheduler) (workers : Int)
    (project : String) (root : SourceRoot) (store : Store) :
    ((indexProject parsers pool (some reason) workers project root).run).run store =
      ((do checkWorkers workers; let _ ← checkRoot project root; throw (.cancelled reason)),
        store) := by
  unfold indexProject
  cases workersChecked : checkWorkers workers with
  | error failure =>
    rw [Indexing.run_lift_error_bind rfl]
    rfl
  | ok passed =>
    rw [Indexing.run_lift_ok_bind rfl]
    cases rootChecked : checkRoot project root with
    | error failure =>
      rw [Indexing.run_lift_error_bind rfl]
      rfl
    | ok node =>
      rw [Indexing.run_lift_ok_bind rfl]
      obtain ⟨entries, rfl⟩ := eq_dir_of_checkRoot rootChecked
      rw [Indexing.run_lift_error_bind (jobsFor_of_dir reason parsers project root entries)]
      rfl

/-- Checking the first of several directories, then the rest. -/
theorem checkRoots_cons_eq_ok {project : String} {root : SourceRoot}
    {rest : List (String × SourceRoot)} {checked : List (String × SourceRoot × Node)}
    (passed : checkRoots ((project, root) :: rest) = .ok checked) :
    ∃ node others, checked = (project, root, node) :: others ∧
      checkRoot project root = .ok node := by
  simp only [checkRoots, bind, Except.bind] at passed
  cases rootChecked : checkRoot project root with
  | error failure => simp [rootChecked] at passed
  | ok node =>
    cases restChecked : checkRoots rest with
    | error failure => simp [rootChecked, restChecked] at passed
    | ok others =>
      simp only [rootChecked, restChecked, pure, Except.pure, Except.ok.injEq] at passed
      exact ⟨node, others, passed.symm, rfl⟩

/-- Indexing several projects stops at the first dispatch, once the workers and every
directory are checked; with no project it has nothing to stop. The store is untouched either
way. -/
theorem indexProjects_cancelled (parsers : Parsers) (pool : Scheduler) (workers : Int)
    (roots : List (String × SourceRoot)) (store : Store) :
    ((indexProjects parsers pool (some reason) workers roots).run).run store =
      ((do
        checkWorkers workers
        let _ ← checkRoots roots
        if roots.isEmpty then pure [] else throw (.cancelled reason)), store) := by
  unfold indexProjects
  cases workersChecked : checkWorkers workers with
  | error failure =>
    rw [Indexing.run_lift_error_bind rfl]
    rfl
  | ok passed =>
    rw [Indexing.run_lift_ok_bind rfl]
    cases rootsChecked : checkRoots roots with
    | error failure =>
      rw [Indexing.run_lift_error_bind rfl]
      rfl
    | ok checked =>
      rw [Indexing.run_lift_ok_bind rfl]
      cases roots with
      | nil =>
        simp only [checkRoots, Except.ok.injEq] at rootsChecked
        subst rootsChecked
        have noJobs : jobsOfAll parsers (some reason) [] = .ok [] := rfl
        rw [Indexing.run_lift_ok_bind noJobs, Indexing.run_bind_ok (runPool_nil _ _ store)]
        rfl
      | cons first rest =>
        obtain ⟨project, root⟩ := first
        obtain ⟨node, others, rfl, rootChecked⟩ := checkRoots_cons_eq_ok rootsChecked
        obtain ⟨entries, rfl⟩ := eq_dir_of_checkRoot rootChecked
        have stopped : jobsOfAll parsers (some reason) ((project, root, .dir entries) :: others) =
            .error (.cancelled reason) := by
          simp [jobsOfAll, jobsFor_of_dir, bind, Except.bind]
        rw [Indexing.run_lift_error_bind stopped]
        rfl

/-! ## Every operation -/

/-- What a token cancelled with `reason` before the call does to each operation, whatever
parsers and pool the readers and indexing use: the operation stops with the cancellation
exactly in the case given, at its first checkpoint, and in every other case runs as it would
without the token. -/
structure StopsAtFirstCheckpoint (reason : String) : Prop where
  walking : ∀ root : Node,
    walk (some reason) root = if root.isDir then .error (.cancelled reason) else walk none root
  dispatching : ∀ (registry : Registry) (root : Node),
    registry.dispatch (some reason) root =
      if root.isDir then .error (.cancelled reason) else registry.dispatch none root
  readingPython : ∀ (parse : List UInt8 → List Python.Statement) (name : String) (root : Node),
    Python.indexDirectory parse (some reason) name root =
      if root.isDir then .error (.cancelled reason)
      else Python.indexDirectory parse none name root
  readingGo : ∀ (parse : List UInt8 → List Go.Decl) (location name : String) (root : Node),
    Go.indexDirectory parse (some reason) location name root =
      if root.isDir && (Go.readModulePath location root).isOk then .error (.cancelled reason)
      else Go.indexDirectory parse none location name root
  readingMarkdown : ∀ (load : Yaml.Loader) (name : String) (root : Node),
    Markdown.indexDirectory load (some reason) name root =
      if root.isDir then .error (.cancelled reason)
      else Markdown.indexDirectory load none name root
  flattening : ∀ (project : String) (index : Index) (withCategories : Bool),
    entriesChecked (some reason) project index withCategories =
      if index.pages.isEmpty then entriesChecked none project index withCategories
      else .error (.cancelled reason)
  putting : ∀ (store : Store) (project language : String) (index : Index),
    store.put (some reason) project language index =
      if (checkKey project language).isOk && index.language == language && index.validate.isOk
      then .error (.cancelled reason) else store.put none project language index
  getting : ∀ (store : Store) (project language : String),
    store.get (some reason) project language =
      if (checkKey project language).isOk then .error (.cancelled reason)
      else store.get none project language
  building : ∀ (engine : Engine) (store : Store) (scope : Option String),
    engine.build store (some reason) scope =
      if store.fault = none ∧ engine.cached? scope store.generation = none ∧
          scopeKeys store scope ≠ []
      then .error (.cancelled reason) else engine.build store none scope
  querying : ∀ (index : SearchIndex) (query : String) (scope : Option String)
      (limit : Option Int),
    index.query (some reason) query scope limit =
      if !(queryTerms query).isEmpty && !(index.candidates (queryTerms query)).isEmpty
      then .error (.cancelled reason) else index.query none query scope limit
  indexingProject : ∀ (parsers : Parsers) (pool : Scheduler) (workers : Int) (project : String)
      (root : SourceRoot) (store : Store),
    ((indexProject parsers pool (some reason) workers project root).run).run store =
      ((do checkWorkers workers; let _ ← checkRoot project root; throw (.cancelled reason)),
        store)
  indexingProjects : ∀ (parsers : Parsers) (pool : Scheduler) (workers : Int)
      (roots : List (String × SourceRoot)) (store : Store),
    ((indexProjects parsers pool (some reason) workers roots).run).run store =
      ((do
        checkWorkers workers
        let _ ← checkRoots roots
        if roots.isEmpty then pure [] else throw (.cancelled reason)), store)

/-- A token cancelled before the call is seen exactly at each operation's first checkpoint:
the walk, dispatch and the readers stop at a root directory (the Go reader only after its
module file is read), flattening before the first page, a put after its key, language and
validation checks, a get after its key check, a build only on a cache miss with something to
load, a query only with terms and candidates, and indexing at its first dispatch after its
directory checks. An operation it stops has changed nothing, and one it does not stop runs
as without the token. -/
theorem cancelled_at_first_checkpoint (reason : String) : StopsAtFirstCheckpoint reason where
  walking := walk_cancelled reason
  dispatching := dispatch_cancelled reason
  readingPython := python_cancelled reason
  readingGo := go_cancelled reason
  readingMarkdown := markdown_cancelled reason
  flattening := entriesChecked_cancelled reason
  putting := put_cancelled reason
  getting := get_cancelled reason
  building := build_cancelled reason
  querying := query_cancelled reason
  indexingProject := indexProject_cancelled reason
  indexingProjects := indexProjects_cancelled reason

end DocIndex
