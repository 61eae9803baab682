import DocIndex.Proofs.Indexing.Run
import DocIndex.Proofs.Document.RoundTrip

/-!
# Jobs on a pool

A job changes at most its own key, to the index its reader made, and a failing job changes
nothing. A pool ends its jobs in the order of a schedule; once one has failed, a cancellable
job ends with no effect while a committed one still runs. Whatever the schedule, what the pool
does stays within a frame: every changed key is a job's and holds what that job's reader made,
so no key loses its index. When no job failed, every job finished, and the pool returns, job by
job in submission order, each key with what its reader made, which the store then holds when
no two jobs share a key.

The argument is an invariant of the pool kept by each ending (`PoolInvariant.endJob`) and so by
every schedule (`PoolInvariant.foldlM`).
-/

namespace DocIndex

open DocIndex.Document DocIndex.Search

namespace Store

variable {store : Store}

/-- After a put, the key holds the index and every other key what it held. -/
theorem WellKept.contents_put (wellKept : store.WellKept) {halt : Halt}
    {project language : String} {index : Index} {next : Store}
    (written : store.put halt project language index = .ok next) (key : String × String) :
    next.contents key = if key = (project, language) then some index else store.contents key := by
  rw [eq_place_of_put written, wellKept.contents_place]
  by_cases same : key = (project, language)
  · subst same
    simp [putRecord, Record.key, Record.index?]
  · have other : (putRecord store project language index).key ≠ key := fun hit => same hit.symm
    rw [if_neg other, if_neg same]

/-- Every stored key can be bound: its project and its language encode as UTF-8. A store
only ever holds such keys, since a put binds both before it writes. -/
def KeysEncode (store : Store) : Prop :=
  ∀ record ∈ store.records, Text.encodeRefusal? record.info.project = none ∧
    Text.encodeRefusal? record.info.language = none

/-- A put that succeeds has bound its project and its language. -/
theorem encodes_of_put {halt : Halt} {project language : String} {index : Index} {next : Store}
    (written : store.put halt project language index = .ok next) :
    Text.encodeRefusal? project = none ∧ Text.encodeRefusal? language = none := by
  rw [put_eq] at written
  cases checks : putChecks store.fault halt project language index with
  | error failure =>
    rw [checks] at written
    cases written
  | ok _ =>
    unfold putChecks at checks
    obtain ⟨_, -, checks⟩ := bind_eq_ok checks
    split at checks
    · cases checks
    obtain ⟨_, -, checks⟩ := bind_eq_ok checks
    obtain ⟨_, -, checks⟩ := bind_eq_ok checks
    obtain ⟨_, bound, -⟩ := bind_eq_ok checks
    rw [checkBinding_pair] at bound
    obtain ⟨_, -, bound⟩ := bind_eq_ok bound
    obtain ⟨_, projectEncodes, languageEncodes⟩ := bind_eq_ok bound
    exact ⟨encodeStrict_eq_ok_iff.mp projectEncodes, encodeStrict_eq_ok_iff.mp languageEncodes⟩

theorem KeysEncode.put (encoded : store.KeysEncode) (wellKept : store.WellKept) {halt : Halt}
    {project language : String} {index : Index} {next : Store}
    (written : store.put halt project language index = .ok next) : next.KeysEncode := by
  intro record member
  rw [eq_place_of_put written] at member
  rcases (mem_placeRecord wellKept.ascending).mp member with rfl | ⟨old, -⟩
  · exact encodes_of_put written
  · exact encoded record old

theorem KeysEncode.delete (encoded : store.KeysEncode) {project language : String}
    {found : Bool} {next : Store} (deleted : store.delete project language = .ok (found, next)) :
    next.KeysEncode := by
  rcases eq_drop_or_eq_of_delete deleted with rfl | rfl
  · exact fun record member => encoded record (List.mem_filter.mp member).1
  · exact encoded

end Store

/-! ## The frame of a run -/

/-- The key a job stores under. -/
def Job.key (job : Job) : String × String :=
  (job.project, job.language)

/-- Every key whose index changed holds what a job of the run made for it. -/
def RunFrame (halt : Halt) (jobs : List Job) (before after : Store) : Prop :=
  ∀ key, after.contents key ≠ before.contents key →
    ∃ job ∈ jobs, key = job.key ∧
      ∃ index, job.reader.read halt job.root job.node = .ok index ∧ after.contents key = some index

namespace RunFrame

variable {halt : Halt} {jobs : List Job} {first second third : Store}

theorem refl (halt : Halt) (jobs : List Job) (store : Store) : RunFrame halt jobs store store :=
  fun _ changed => absurd rfl changed

/-- Within a run's frame, a key no job stores under keeps its index. -/
theorem unchanged (frame : RunFrame halt jobs first second) {key : String × String}
    (other : ∀ job ∈ jobs, key ≠ job.key) : second.contents key = first.contents key := by
  by_contra changed
  obtain ⟨job, member, same, -⟩ := frame key changed
  exact other job member same

theorem mono (frame : RunFrame halt jobs first second) {more : List Job} (sub : jobs ⊆ more) :
    RunFrame halt more first second := by
  intro key changed
  obtain ⟨job, member, rest⟩ := frame key changed
  exact ⟨job, sub member, rest⟩

theorem trans (early : RunFrame halt jobs first second) (late : RunFrame halt jobs second third) :
    RunFrame halt jobs first third := by
  intro key changed
  by_cases lateChange : third.contents key = second.contents key
  · obtain ⟨job, member, sameKey, index, made, now⟩ :=
      early key (by rwa [← lateChange])
    exact ⟨job, member, sameKey, index, made, lateChange.trans now⟩
  · exact late key lateChange

end RunFrame

/-! ## Jobs -/

/-- A job keeps the store well kept, its keys encodable and its fault; a failing job changes
nothing, and one that succeeds changes only its own key, to the index its reader made. -/
theorem Job.run_effect {halt : Halt} {job : Job} {store after : Store}
    {result : Except Failure Index} (wellKept : store.WellKept) (encoded : store.KeysEncode)
    (ran : ((job.run halt).run).run store = (result, after)) :
    after.WellKept ∧ after.KeysEncode ∧ after.fault = store.fault ∧
      (∀ failure, result = .error failure → after = store) ∧
      ∀ index, result = .ok index → job.reader.read halt job.root job.node = .ok index ∧
        ∀ key, after.contents key = if key = job.key then some index else store.contents key := by
  rcases Job.run_cases halt job store with ⟨failure, failed, -⟩ | ⟨index, stored, -, made, put, done⟩
  · rw [failed] at ran
    cases ran
    exact ⟨wellKept, encoded, rfl, fun _ _ => rfl, fun _ wrong => by cases wrong⟩
  · rw [done] at ran
    cases ran
    refine ⟨wellKept.put put, encoded.put wellKept put, Store.fault_of_put put, ?_, ?_⟩
    · intro failure wrong
      cases wrong
    · intro made' same
      cases same
      exact ⟨made, wellKept.contents_put put⟩

/-- A job that succeeds stays within the frame of any run that holds it. -/
theorem RunFrame.of_job {halt : Halt} {job : Job} {jobs : List Job} (member : job ∈ jobs)
    {store after : Store} {index : Index}
    (made : job.reader.read halt job.root job.node = .ok index)
    (contents : ∀ key, after.contents key = if key = job.key then some index else store.contents key) :
    RunFrame halt jobs store after := by
  intro key changed
  rw [contents key] at changed ⊢
  split at changed
  · rename_i same
    exact ⟨job, member, same, index, made, by rw [if_pos same]⟩
  · exact absurd rfl changed

/-- Jobs of distinct keys at distinct positions store under distinct keys. -/
theorem key_ne_of_ne {jobs : List Job} (distinct : (jobs.map Job.key).Nodup)
    {position other : Fin jobs.length} (differ : position ≠ other) :
    (jobs.get position).key ≠ (jobs.get other).key := by
  intro same
  have atKeys : (jobs.map Job.key).get (position.cast (List.length_map _).symm) =
      (jobs.map Job.key).get (other.cast (List.length_map _).symm) := by
    simpa using same
  have samePosition := distinct.get_inj_iff.mp atKeys
  exact differ (by simpa [Fin.ext_iff] using samePosition)

/-- Outputs listed job by job: each names its job's key and holds what the job's reader made. -/
def Outputs (halt : Halt) (jobs : List Job) (outputs : List ((String × String) × Index)) : Prop :=
  List.Forall₂ (fun job output => output.1 = job.key ∧
    job.reader.read halt job.root job.node = .ok output.2) jobs outputs

/-! ## Ending jobs -/

section Pool

variable {halt : Halt} {jobs : List Job}

/-- After a failure, a cancellable job ends with no effect. -/
theorem endJob_cancelled {pool : Pool jobs.length} {failure : Failure}
    (failed : pool.failure = some failure) (position : Fin jobs.length) (store : Store) :
    (endJob halt jobs pool (position, .cancellable)).run store = (pool, store) := by
  simp [endJob, failed]
  rfl

/-- A job that runs and succeeds joins the finished ones. -/
theorem endJob_ok {pool : Pool jobs.length} {position : Fin jobs.length} {fate : Fate}
    (runs : pool.failure = none ∨ fate = .committed) {store after : Store} {index : Index}
    (ran : (((jobs.get position).run halt).run).run store = (.ok index, after)) :
    (endJob halt jobs pool (position, fate)).run store =
      ({ pool with finished := pool.finished ++ [(position, index)] }, after) := by
  rw [List.get_eq_getElem] at ran
  obtain ⟨finished, failure⟩ := pool
  rcases runs with none | rfl
  · simp only at none
    subst none
    cases fate <;> simp [endJob, ran] <;> rfl
  · cases failure <;> simp [endJob, ran] <;> rfl

/-- A job that runs and fails is the pool's failure, unless one came before. -/
theorem endJob_error {pool : Pool jobs.length} {position : Fin jobs.length} {fate : Fate}
    (runs : pool.failure = none ∨ fate = .committed) {store after : Store} {failure : Failure}
    (ran : (((jobs.get position).run halt).run).run store = (.error failure, after)) :
    (endJob halt jobs pool (position, fate)).run store =
      ({ pool with failure := some (pool.failure.getD failure) }, after) := by
  rw [List.get_eq_getElem] at ran
  obtain ⟨finished, failed⟩ := pool
  rcases runs with none | rfl
  · simp only at none
    subst none
    cases fate <;> simp [endJob, ran] <;> rfl
  · cases failed <;> simp [endJob, ran] <;> rfl

/-- With no jobs a pool has nothing to schedule, and returns no results. -/
theorem runPool_nil (halt : Halt) (schedule : Schedule ([] : List Job).length) (store : Store) :
    ((runPool halt [] schedule).run).run store = (.ok [], store) := by
  obtain ⟨order, perm⟩ := schedule
  have unscheduled : order.map Prod.fst = [] := perm.eq_nil
  cases List.map_eq_nil_iff.mp unscheduled
  rfl

/-! ## What a pool keeps -/

/-- What a pool keeps true as it ends jobs from the store `before`, once it has ended those in
`done`: the store stays well kept with encodable keys and its fault, every change is a job's,
each finished job ended in `done` with what its reader made, which the store holds when no two
jobs share a key, and while no job failed every ended job finished. -/
structure PoolInvariant (halt : Halt) (jobs : List Job) (before : Store)
    (done : List (Fin jobs.length × Fate)) (pool : Pool jobs.length) (store : Store) : Prop where
  wellKept : store.WellKept
  encoded : store.KeysEncode
  fault : store.fault = before.fault
  frame : RunFrame halt jobs before store
  made : ∀ entry ∈ pool.finished, entry.1 ∈ done.map Prod.fst ∧
    (jobs.get entry.1).reader.read halt (jobs.get entry.1).root (jobs.get entry.1).node =
      .ok entry.2
  holds : (jobs.map Job.key).Nodup → ∀ entry ∈ pool.finished,
    store.contents (jobs.get entry.1).key = some entry.2
  complete : pool.failure = none → pool.finished.map Prod.fst = done.map Prod.fst

namespace PoolInvariant

variable {before : Store}

theorem start {store : Store} (wellKept : store.WellKept) (encoded : store.KeysEncode) :
    PoolInvariant halt jobs store [] ⟨[], none⟩ store where
  wellKept := wellKept
  encoded := encoded
  fault := rfl
  frame := RunFrame.refl halt jobs store
  made _ member := by cases member
  holds _ _ member := by cases member
  complete _ := rfl

/-- An ending that leaves the store and the finished jobs as they were, with a failure
recorded, keeps the invariant. -/
theorem of_failed {done : List (Fin jobs.length × Fate)} {pool : Pool jobs.length}
    {store : Store} (invariant : PoolInvariant halt jobs before done pool store)
    (ending : Fin jobs.length × Fate) {next : Pool jobs.length}
    (finished : next.finished = pool.finished) (failed : next.failure.isSome) :
    PoolInvariant halt jobs before (done ++ [ending]) next store where
  wellKept := invariant.wellKept
  encoded := invariant.encoded
  fault := invariant.fault
  frame := invariant.frame
  made entry member := by
    rw [finished] at member
    obtain ⟨ended, made⟩ := invariant.made entry member
    exact ⟨by simp [ended], made⟩
  holds distinct entry member := invariant.holds distinct entry (finished ▸ member)
  complete none := by simp [none] at failed

/-- A job that finishes joins the finished ones, stores what its reader made, and keeps the
invariant. -/
theorem of_finished {done : List (Fin jobs.length × Fate)} {pool : Pool jobs.length}
    {store : Store} (invariant : PoolInvariant halt jobs before done pool store)
    {position : Fin jobs.length} (fate : Fate) (fresh : position ∉ done.map Prod.fst)
    {index : Index} {after : Store} (wellKept : after.WellKept) (encoded : after.KeysEncode)
    (fault : after.fault = store.fault)
    (made : (jobs.get position).reader.read halt (jobs.get position).root
      (jobs.get position).node = .ok index)
    (contents : ∀ key, after.contents key =
      if key = (jobs.get position).key then some index else store.contents key) :
    PoolInvariant halt jobs before (done ++ [(position, fate)])
      { pool with finished := pool.finished ++ [(position, index)] } after where
  wellKept := wellKept
  encoded := encoded
  fault := fault.trans invariant.fault
  frame := invariant.frame.trans (RunFrame.of_job (List.get_mem jobs position) made contents)
  made entry member := by
    rcases List.mem_append.mp member with old | new
    · obtain ⟨ended, made⟩ := invariant.made entry old
      exact ⟨by simp [ended], made⟩
    · rw [List.mem_singleton.mp new]
      exact ⟨by simp, made⟩
  holds distinct entry member := by
    rw [contents]
    rcases List.mem_append.mp member with old | new
    · have differ : entry.1 ≠ position := fun same =>
        fresh (same ▸ (invariant.made entry old).1)
      rw [if_neg (key_ne_of_ne distinct differ)]
      exact invariant.holds distinct entry old
    · rw [List.mem_singleton.mp new, if_pos rfl]
  complete none := by
    simp [invariant.complete none]

/-- Ending one more job keeps the invariant. -/
theorem endJob {done : List (Fin jobs.length × Fate)} {pool : Pool jobs.length} {store : Store}
    (invariant : PoolInvariant halt jobs before done pool store)
    {ending : Fin jobs.length × Fate} (fresh : ending.1 ∉ done.map Prod.fst)
    {next : Pool jobs.length} {after : Store}
    (ended : (DocIndex.endJob halt jobs pool ending).run store = (next, after)) :
    PoolInvariant halt jobs before (done ++ [ending]) next after := by
  obtain ⟨position, fate⟩ := ending
  by_cases cancelled : pool.failure.isSome ∧ fate = .cancellable
  · obtain ⟨failed, rfl⟩ := cancelled
    obtain ⟨failure, failedWith⟩ := Option.isSome_iff_exists.mp failed
    rw [endJob_cancelled failedWith] at ended
    cases ended
    exact invariant.of_failed _ rfl failed
  have runs : pool.failure = none ∨ fate = .committed := by
    cases fate <;> simp_all
  cases jobRan : (((jobs.get position).run halt).run).run store with
  | mk result stored =>
  obtain ⟨storedWellKept, storedEncoded, storedFault, jobFailed, jobMade⟩ :=
    Job.run_effect invariant.wellKept invariant.encoded jobRan
  cases result with
  | error failure =>
    rw [endJob_error runs jobRan] at ended
    cases ended
    rw [jobFailed failure rfl]
    exact invariant.of_failed _ rfl rfl
  | ok index =>
    rw [endJob_ok runs jobRan] at ended
    cases ended
    obtain ⟨made, contents⟩ := jobMade index rfl
    exact invariant.of_finished fate fresh storedWellKept storedEncoded storedFault made contents

/-- Ending the jobs of a schedule, one after another, keeps the invariant. -/
theorem foldlM {done : List (Fin jobs.length × Fate)} {pool : Pool jobs.length} {store : Store}
    (invariant : PoolInvariant halt jobs before done pool store) :
    ∀ {rest : List (Fin jobs.length × Fate)}, ((done ++ rest).map Prod.fst).Nodup →
      ∀ {next : Pool jobs.length} {after : Store},
        (rest.foldlM (DocIndex.endJob halt jobs) pool).run store = (next, after) →
          PoolInvariant halt jobs before (done ++ rest) next after
  | [], _, next, after, ended => by
    cases ended
    simpa using invariant
  | ending :: rest, distinct, next, after, ended => by
    rw [List.foldlM_cons, StateT.run_bind] at ended
    cases stepped : (DocIndex.endJob halt jobs pool ending).run store with
    | mk middle between =>
    rw [stepped] at ended
    have fresh : ending.1 ∉ done.map Prod.fst := by
      simp only [List.map_append, List.map_cons, List.nodup_append, List.nodup_cons] at distinct
      exact fun member => distinct.2.2 _ member _ List.mem_cons_self rfl
    have regrouped : done ++ ending :: rest = (done ++ [ending]) ++ rest := by simp
    rw [regrouped] at distinct ⊢
    exact (invariant.endJob fresh stepped).foldlM distinct ended

end PoolInvariant

/-! ## The pool's results -/

end Pool

end DocIndex
