import DocIndex.Store.Basic
import DocIndex.Extract.Registry
import DocIndex.Python.Extract
import DocIndex.Go.Extract
import DocIndex.Markdown.Extract

/-!
# Indexing projects

Indexing a project runs, for each language found under its directory, that language's
reader and stores the index it makes under the project and the language, replacing the
one stored before. Languages stored for the project that were not found this time are
then deleted, so the store mirrors the directory. The readers read files with parsers given
as parameters: one for Python modules, one for Go files and a YAML loader for front matter.

The runs are jobs on a pool, which may end them in any order; a `Schedule` is one such order.
Once a job has failed the pool cancels the others: a job that had not yet passed its last
checkpoint then ends with no effect, while one that had still stores its index. The first
failure is reported, what was stored stays stored, and no stale language is deleted.
Otherwise each language's index is returned in the registry's order.

Before anything runs, the number of workers must be at least one and each directory must
be a directory; then its project name must not be empty. Indexing several projects checks
all their directories first, so that one bad path leaves the store untouched.
-/

namespace DocIndex

open DocIndex.Disk DocIndex.Document DocIndex.Extract DocIndex.Search

/-- A directory to index: its path as messages name it, its own name, and what is there,
nothing when no directory or file is there. -/
structure SourceRoot where
  location : String
  name : String
  node : Option Node

/-- The parsers the readers use: of a Python module's bytes, of a Go file's bytes, and of a
YAML block. -/
structure Parsers where
  python : List UInt8 → List Python.Statement
  go : List UInt8 → List Go.Decl
  yaml : Yaml.Loader

/-- A language's rules for files with its way of indexing a directory. -/
structure Reader where
  rules : Extractor
  read : Halt → SourceRoot → Node → Except Failure Index

/-- The built-in readers, reading with the given parsers. -/
def readers (parsers : Parsers) : List Reader :=
  [⟨pythonExtractor, fun halt root node =>
      Python.indexDirectory parsers.python halt root.name node⟩,
   ⟨goExtractor, fun halt root node =>
      Go.indexDirectory parsers.go halt root.location root.name node⟩,
   ⟨markdownExtractor, fun halt root node =>
      Markdown.indexDirectory parsers.yaml halt root.name node⟩]

/-- The reader of an extractor's language. -/
def readerOf (parsers : Parsers) (extractor : Extractor) : Option Reader :=
  (readers parsers).find? fun reader => reader.rules.language == extractor.language

/-- The readers with something to index under a directory, in registration order. -/
def readersFor (parsers : Parsers) (halt : Halt) (node : Node) :
    Except Failure (List Reader) := do
  let found ← Registry.standard.dispatch halt node
  pure (found.filterMap (readerOf parsers))

/-- Work on a store whose changes stay made when a later step fails. -/
abbrev Indexing := ExceptT Failure (StateM Store)

namespace Indexing

/-- A step that cannot change the store. -/
def lift {α : Type} (result : Except Failure α) : Indexing α :=
  match result with
  | .ok value => pure value
  | .error failure => throw failure

/-- A step that changes the store when it succeeds. -/
def change {α : Type} (step : Store → Except Failure (α × Store)) : Indexing α := do
  let (value, store) ← lift (step (← get))
  set store
  pure value

end Indexing

/-- Check the number of workers. -/
def checkWorkers (workers : Int) : Except Failure Unit :=
  if workers < 1 then .error (.badValue ("max_workers must be >= 1, got " ++ toString workers))
  else .ok ()

/-- Check a directory to index for a project: it must be a directory, and then the project
name must not be empty. -/
def checkRoot (project : String) (root : SourceRoot) : Except Failure Node :=
  match root.node with
  | some (.dir entries) =>
    if project.isEmpty then .error (.badValue "Project name must not be empty")
    else .ok (.dir entries)
  | _ => .error (.badValue ("Not a directory: " ++ root.location))

/-- One run: a reader over a project's directory. -/
structure Job where
  project : String
  root : SourceRoot
  node : Node
  reader : Reader

/-- The language a job indexes. -/
def Job.language (job : Job) : String :=
  job.reader.rules.language

/-- Run a job: index the directory and store the index. -/
def Job.run (halt : Halt) (job : Job) : Indexing Index := do
  Indexing.lift (checkpoint halt)
  let index ← Indexing.lift (job.reader.read halt job.root job.node)
  Indexing.change fun store => do
    let stored ← store.put halt job.project job.language index
    pure ((), stored)
  pure index

/-- Where a job stands when a sibling's failure makes the pool cancel the rest: a `committed`
job had passed its last checkpoint and ends as it would alone, a `cancellable` one sees the
cancellation and ends with no effect. A job that ends before any failure runs in full either
way. -/
inductive Fate where
  | committed
  | cancellable
  deriving DecidableEq, Repr

/-- An order in which a pool ends the jobs `0, …, count - 1`, each with its fate. -/
structure Schedule (count : Nat) where
  order : List (Fin count × Fate)
  perm : (order.map Prod.fst).Perm (List.finRange count)

/-- The schedule a pool follows for each number of jobs. -/
abbrev Scheduler := (count : Nat) → Schedule count

/-- The jobs ended one after another in submission order, each cancellable. -/
def Schedule.inOrder (count : Nat) : Schedule count :=
  ⟨(List.finRange count).map fun position => (position, .cancellable), by
    simp [Function.comp_def]⟩

/-- What a pool has seen of its jobs so far: the index of each finished job, by position, and
the first failure. -/
structure Pool (count : Nat) where
  finished : List (Fin count × Index)
  failure : Option Failure

/-- One job ends: a cancellable job after a failure has no effect; any other runs, and its
index joins the finished ones, or its failure is kept unless one came before. -/
def endJob (halt : Halt) (jobs : List Job) (pool : Pool jobs.length) :
    Fin jobs.length × Fate → StateM Store (Pool jobs.length)
  | (position, fate) =>
    match pool.failure, fate with
    | some _, .cancellable => pure pool
    | _, _ => do
      match ← ((jobs.get position).run halt).run with
      | .ok index => pure { pool with finished := pool.finished ++ [(position, index)] }
      | .error failure => pure { pool with failure := some (pool.failure.getD failure) }

/-- The finished jobs' indexes with their projects and languages, in submission order. -/
def Pool.results (jobs : List Job) (pool : Pool jobs.length) : List ((String × String) × Index) :=
  (List.finRange jobs.length).filterMap fun position =>
    (pool.finished.lookup position).map fun index =>
      (((jobs.get position).project, (jobs.get position).language), index)

/-- Run jobs on a pool that ends them in the schedule's order: the first failure is reported,
and otherwise each job's index with its project and language, in submission order. -/
def runPool (halt : Halt) (jobs : List Job) (schedule : Schedule jobs.length) :
    Indexing (List ((String × String) × Index)) := do
  let pool ← (schedule.order.foldlM (endJob halt jobs) ⟨[], none⟩ : StateM Store _)
  match pool.failure with
  | some failure => throw failure
  | none => pure (pool.results jobs)

/-- Delete the languages of a project not among those kept. -/
def dropLanguages (project : String) (kept : List String) : List String → Indexing Unit
  | [] => pure ()
  | language :: rest => do
    if !kept.contains language then
      let _ ← Indexing.change fun store => store.delete project language
    dropLanguages project kept rest

/-- Delete the stored languages of a project that were not indexed this time. -/
def removeStale (project : String) (kept : List String) : Indexing Unit := do
  let stored ← Indexing.lift ((← get).languages project)
  dropLanguages project kept stored

/-- The jobs for a checked directory: one per reader with something to index there. -/
def jobsFor (parsers : Parsers) (halt : Halt) (project : String) (root : SourceRoot)
    (node : Node) : Except Failure (List Job) := do
  let found ← readersFor parsers halt node
  pure (found.map fun reader => ⟨project, root, node, reader⟩)

/-- Index a project's directory with the given parsers on a pool following `pool`; the result
holds each language's index, in registration order. -/
def indexProject (parsers : Parsers) (pool : Scheduler) (halt : Halt) (workers : Int)
    (project : String) (root : SourceRoot) : Indexing (List (String × Index)) := do
  Indexing.lift (checkWorkers workers)
  let node ← Indexing.lift (checkRoot project root)
  let jobs ← Indexing.lift (jobsFor parsers halt project root node)
  let results ← runPool halt jobs (pool jobs.length)
  let indexes := results.map fun (key, index) => (key.2, index)
  removeStale project (indexes.map Prod.fst)
  pure indexes

/-- Check every directory of several projects, in order. -/
def checkRoots : List (String × SourceRoot) → Except Failure (List (String × SourceRoot × Node))
  | [] => .ok []
  | (project, root) :: rest => do
    let node ← checkRoot project root
    let others ← checkRoots rest
    pure ((project, root, node) :: others)

/-- The jobs of checked directories, in order. -/
def jobsOfAll (parsers : Parsers) (halt : Halt) :
    List (String × SourceRoot × Node) → Except Failure (List Job)
  | [] => .ok []
  | (project, root, node) :: rest => do
    let here ← jobsFor parsers halt project root node
    let others ← jobsOfAll parsers halt rest
    pure (here ++ others)

/-- Delete the stale languages of each project. -/
def removeStaleOfAll : List (String × List (String × Index)) → Indexing Unit
  | [] => pure ()
  | (project, indexes) :: rest => do
    removeStale project (indexes.map Prod.fst)
    removeStaleOfAll rest

/-- Index several projects' directories with the given parsers, all their jobs on one pool
following `pool`; the result holds each project, in the given order, with its languages'
indexes. -/
def indexProjects (parsers : Parsers) (pool : Scheduler) (halt : Halt) (workers : Int)
    (roots : List (String × SourceRoot)) : Indexing (List (String × List (String × Index))) := do
  Indexing.lift (checkWorkers workers)
  let checked ← Indexing.lift (checkRoots roots)
  let jobs ← Indexing.lift (jobsOfAll parsers halt checked)
  let results ← runPool halt jobs (pool jobs.length)
  let indexed := roots.map fun (project, _) =>
    (project, (results.filter fun (key, _) => key.1 == project).map fun (key, index) =>
      (key.2, index))
  removeStaleOfAll indexed
  pure indexed

end DocIndex
