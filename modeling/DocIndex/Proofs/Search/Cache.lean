import DocIndex.Proofs.Store.Refinement
import DocIndex.Search.Engine

/-!
# What an engine keeps is invisible

An engine keeps the search index it built for a scope until the store's generation moves
on. Along any run of store calls, builds, searches and resets, that keeping cannot be seen
from outside: the engine answers a build with the index a fresh engine builds from the
store as it now is, fails where a fresh engine fails and with the same failure, and keeps
indexes of one generation only, none at the store's generation for a project with nothing
stored. What a fresh engine builds depends on the store's contents alone, not on the calls
that led to them. A build of a project with nothing stored returns before it drops older
indexes, so a deleted project's index may stay kept, stale and never handed out again
(`unknown_project_build_keeps_stale_index`).

The argument is the invariant `Engine.Coherent`: the kept indexes share one generation, none
is ahead of the store, and one of the store's own generation is what a fresh engine builds
for its scope. A store call either leaves the store as it was or moves its generation on,
which makes every kept index stale; a build keeps only indexes of the current generation.
-/

namespace DocIndex.Search

open DocIndex.Data

/-! ## Building without the kept indexes -/

/-- The stored keys of a scope, in key order. -/
def scopeKeys (store : Store) (scope : Option String) : List (String × String) :=
  (store.records.map Record.key).filter (inKeyScope scope)

/-- Building the entries of keys under a checkpoint succeeds only as it does without one: a
cancelled build of any key fails at its first checkpoint. -/
theorem entriesUnder_uncancelled
    {store : Store} {halt : Halt} {withCategories : Bool}
    {keys : List (String × String)} {entries : List Entry}
    (built : entriesUnder store halt withCategories keys = .ok entries) :
    entriesUnder store none withCategories keys = .ok entries := by
  cases keys with
  | nil => simpa [entriesUnder] using built
  | cons key rest =>
    cases halt with
    | none => exact built
    | some reason => simp [entriesUnder, checkpoint, bind, Except.bind] at built

/-- The entries of keys depend on the store only through what it loads. -/
theorem entriesUnder_congr
    {first second : Store} {halt : Halt} {withCategories : Bool}
    (sameGet : ∀ project language,
      first.get halt project language = second.get halt project language) :
    ∀ keys, entriesUnder first halt withCategories keys =
      entriesUnder second halt withCategories keys
  | [] => rfl
  | (project, language) :: rest => by
    unfold entriesUnder
    rw [sameGet, entriesUnder_congr sameGet rest]

namespace Engine

/-- A fresh engine of the same kind: it searches the same sections and keeps nothing. -/
def fresh (engine : Engine) : Engine :=
  { withCategories := engine.withCategories }

/-- The index a fresh engine builds for a scope when nothing cancels it. -/
def freshBuild (engine : Engine) (store : Store) (scope : Option String) :
    Except Failure SearchIndex :=
  (engine.fresh.build store none scope).map Prod.fst

/-- The engine once it keeps `built` for a scope at a generation: the indexes of other
generations, and the scope's own older one, are dropped. -/
def keep (engine : Engine) (generation : Nat) (scope : Option String) (built : SearchIndex) :
    Engine :=
  { engine with
    cache := (engine.cache.filter fun (other, index) =>
      index.generation == generation && other != scope) ++ [(scope, built)] }

@[simp]
theorem cached?_fresh (engine : Engine) (scope : Option String) (generation : Nat) :
    engine.fresh.cached? scope generation = none := rfl

@[simp]
theorem withCategories_fresh (engine : Engine) :
    engine.fresh.withCategories = engine.withCategories := rfl

@[simp]
theorem fresh_fresh (engine : Engine) : engine.fresh.fresh = engine.fresh := rfl

@[simp]
theorem freshBuild_fresh (engine : Engine) : engine.fresh.freshBuild = engine.freshBuild := rfl

@[simp]
theorem fresh_keep (engine : Engine) (generation : Nat) (scope : Option String)
    (built : SearchIndex) :
    (engine.keep generation scope built).fresh = engine.fresh := rfl

variable {engine : Engine} {store : Store}

/-- A kept index is found only under its scope and at its generation. -/
theorem mem_of_cached?
    {scope : Option String} {generation : Nat} {index : SearchIndex}
    (found : engine.cached? scope generation = some index) :
    (scope, index) ∈ engine.cache ∧ index.generation = generation := by
  unfold cached? at found
  obtain ⟨looked, current⟩ := Option.filter_eq_some_iff.mp found
  obtain ⟨before, after, split, -⟩ := List.lookup_eq_some_iff.mp looked
  exact ⟨split ▸ List.mem_append_right before List.mem_cons_self, by simpa using current⟩

/-- What the kept list holds once an index is kept. -/
theorem mem_keep
    {generation : Nat} {scope : Option String} {built : SearchIndex}
    {kept : Option String × SearchIndex} :
    kept ∈ (engine.keep generation scope built).cache ↔
      (kept ∈ engine.cache ∧ kept.2.generation = generation ∧ kept.1 ≠ scope) ∨
        kept = (scope, built) := by
  simp [keep]

/-- A store that cannot be used fails every build with its fault. -/
theorem build_of_fault
    {message : String} (fault : store.fault = some message)
    (halt : Halt) (scope : Option String) :
    engine.build store halt scope = .error (.storage message) := by
  unfold build
  simp [Store.currentGeneration, Store.usable, fault, bind, Except.bind]

/-- A build on a usable store: a kept index of the store's generation is handed out again;
otherwise the entries of the scope's keys are built, and kept unless the scope names a
project with nothing stored. -/
theorem build_of_usable
    (usable : store.fault = none)
    (halt : Halt) (scope : Option String) :
    engine.build store halt scope =
      match engine.cached? scope store.generation with
      | some index => .ok (index, engine)
      | none =>
        (entriesUnder store halt engine.withCategories (scopeKeys store scope)).map
          fun entries =>
            (SearchIndex.build entries store.generation,
              if scope.isSome && (scopeKeys store scope).isEmpty then engine
              else engine.keep store.generation scope
                (SearchIndex.build entries store.generation)) := by
  unfold build scopeKeys
  simp only [Store.currentGeneration, Store.keys, Store.usable, usable, bind, Except.bind, pure,
    Except.pure]
  cases cached : engine.cached? scope store.generation with
  | some index => rfl
  | none =>
    cases entriesUnder store halt engine.withCategories
        ((store.records.map Record.key).filter (inKeyScope scope)) with
    | error failure => rfl
    | ok entries =>
      dsimp only
      split <;> rfl

/-- What a fresh engine builds, uncancelled, from a usable store. -/
theorem freshBuild_of_usable
    (usable : store.fault = none) (scope : Option String) :
    engine.freshBuild store scope =
      (entriesUnder store none engine.withCategories (scopeKeys store scope)).map
        (SearchIndex.build · store.generation) := by
  unfold freshBuild
  rw [build_of_usable usable, cached?_fresh, withCategories_fresh]
  cases entriesUnder store none engine.withCategories (scopeKeys store scope) <;> rfl

/-- Entries built under any checkpoint are what a fresh engine builds from them. -/
theorem freshBuild_of_entriesUnder (usable : store.fault = none) {halt : Halt}
    {scope : Option String} {entries : List Entry}
    (found : entriesUnder store halt engine.withCategories (scopeKeys store scope) =
      .ok entries) :
    engine.freshBuild store scope = .ok (SearchIndex.build entries store.generation) := by
  rw [freshBuild_of_usable usable, entriesUnder_uncancelled found]
  rfl

/-- Everything a successful build can have done. -/
theorem build_ok_cases
    {next : Engine} {halt : Halt} {scope : Option String}
    {index : SearchIndex}
    (built : engine.build store halt scope = .ok (index, next)) :
    store.fault = none ∧
      ((engine.cached? scope store.generation = some index ∧ next = engine) ∨
        (engine.cached? scope store.generation = none ∧
          ∃ entries, entriesUnder store halt engine.withCategories (scopeKeys store scope) =
              .ok entries ∧
            index = SearchIndex.build entries store.generation ∧
            next = if scope.isSome && (scopeKeys store scope).isEmpty then engine
              else engine.keep store.generation scope index)) := by
  cases fault : store.fault with
  | some message =>
    rw [build_of_fault fault] at built
    cases built
  | none =>
    refine ⟨rfl, ?_⟩
    rw [build_of_usable fault] at built
    cases cached : engine.cached? scope store.generation with
    | some kept =>
      rw [cached] at built
      cases built
      exact .inl ⟨rfl, rfl⟩
    | none =>
      rw [cached] at built
      cases found : entriesUnder store halt engine.withCategories (scopeKeys store scope) with
      | error failure =>
        rw [found] at built
        cases built
      | ok entries =>
        rw [found] at built
        cases built
        exact .inr ⟨rfl, entries, rfl, rfl, rfl⟩

/-- Everything a failed build can have met: an unusable store, or a failure while building
the entries of a scope that had nothing kept. -/
theorem build_error_cases
    {halt : Halt} {scope : Option String}
    {failure : Failure}
    (failed : engine.build store halt scope = .error failure) :
    (∃ message, store.fault = some message ∧ failure = .storage message) ∨
      (store.fault = none ∧ engine.cached? scope store.generation = none ∧
        entriesUnder store halt engine.withCategories (scopeKeys store scope) =
          .error failure) := by
  cases fault : store.fault with
  | some message =>
    rw [build_of_fault fault] at failed
    cases failed
    exact .inl ⟨message, rfl, rfl⟩
  | none =>
    rw [build_of_usable fault] at failed
    cases cached : engine.cached? scope store.generation with
    | some kept =>
      rw [cached] at failed
      cases failed
    | none =>
      rw [cached] at failed
      cases found : entriesUnder store halt engine.withCategories (scopeKeys store scope) with
      | error reason =>
        rw [found] at failed
        cases failed
        exact .inr ⟨rfl, rfl, rfl⟩
      | ok entries =>
        rw [found] at failed
        cases failed

/-- A build fails exactly as a fresh engine's build fails. -/
theorem fresh_build_of_error
    {halt : Halt} {scope : Option String}
    {failure : Failure}
    (failed : engine.build store halt scope = .error failure) :
    engine.fresh.build store halt scope = .error failure := by
  rcases build_error_cases failed with ⟨message, fault, rfl⟩ | ⟨usable, -, found⟩
  · exact build_of_fault fault halt scope
  · rw [build_of_usable usable, cached?_fresh]
    simp only [fresh, found]
    rfl

/-- A search whose build fails answers with that failure and leaves the engine as it was. -/
theorem search_of_build_error
    {halt : Halt} {scope : Option String}
    {failure : Failure}
    (failed : engine.build store halt scope = .error failure)
    (query : String) (limit : Value) :
    engine.search store halt query scope limit = (engine, .error failure) := by
  unfold search
  rw [failed]

/-- A search answers with the query over the index its build gives. -/
theorem search_answer
    (engine : Engine) (store : Store) (halt : Halt) (query : String) (scope : Option String)
    (limit : Value) :
    (engine.search store halt query scope limit).2 =
      ((engine.build store halt scope).map Prod.fst).bind
        fun index => index.queryLimited halt query scope limit := by
  unfold search
  cases engine.build store halt scope <;> rfl

/-! ## The invariant -/

/-- What an engine keeps, held against the store it serves: the kept indexes share one
generation, none is ahead of the store, and one of the store's generation is what a fresh
engine builds for its scope, a scope that names a project with a stored key. -/
structure Coherent (engine : Engine) (store : Store) : Prop where
  oneGeneration : ∀ kept ∈ engine.cache, ∀ other ∈ engine.cache,
    kept.2.generation = other.2.generation
  notAhead : ∀ kept ∈ engine.cache, kept.2.generation ≤ store.generation
  current : ∀ kept ∈ engine.cache, kept.2.generation = store.generation →
    engine.freshBuild store kept.1 = .ok kept.2 ∧
      (kept.1.isSome → scopeKeys store kept.1 ≠ [])

/-- An engine that keeps nothing is coherent with any store. -/
theorem coherent_of_cache_eq_nil (empty : engine.cache = []) :
    engine.Coherent store where
  oneGeneration := by simp [empty]
  notAhead := by simp [empty]
  current := by simp [empty]

/-- Moving the store's generation on makes every kept index stale. -/
theorem Coherent.advance (coherent : engine.Coherent store) {next : Store}
    (advanced : next.generation = store.generation + 1) :
    engine.Coherent next where
  oneGeneration := coherent.oneGeneration
  notAhead kept member := by
    have below := coherent.notAhead kept member
    omega
  current kept member current := by
    have below := coherent.notAhead kept member
    omega

/-- Keeping an index that a fresh engine builds, of the store's generation, for a scope
that names no project or one with a stored key. -/
theorem Coherent.keep (coherent : engine.Coherent store) {scope : Option String}
    {built : SearchIndex}
    (fresh : engine.freshBuild store scope = .ok built)
    (generation : built.generation = store.generation)
    (known : scope.isSome → scopeKeys store scope ≠ []) :
    (engine.keep store.generation scope built).Coherent store := by
  have allCurrent : ∀ kept ∈ (engine.keep store.generation scope built).cache,
      kept.2.generation = store.generation := by
    intro kept member
    rcases mem_keep.mp member with ⟨-, current, -⟩ | rfl
    · exact current
    · exact generation
  refine ⟨?_, ?_, ?_⟩
  · intro kept member other otherMember
    rw [allCurrent kept member, allCurrent other otherMember]
  · intro kept member
    exact (allCurrent kept member).le
  · intro kept member _
    rcases mem_keep.mp member with ⟨old, current, -⟩ | rfl
    · exact coherent.current kept old current
    · exact ⟨fresh, known⟩

/-- A build keeps the kind of engine. -/
theorem fresh_of_build {halt : Halt} {scope : Option String} {index : SearchIndex}
    {next : Engine} (built : engine.build store halt scope = .ok (index, next)) :
    next.fresh = engine.fresh := by
  obtain ⟨-, ⟨-, rfl⟩ | ⟨-, entries, -, -, rfl⟩⟩ := build_ok_cases built
  · rfl
  · split <;> rfl

/-- A successful build keeps the engine coherent. -/
theorem Coherent.build (coherent : engine.Coherent store) {halt : Halt}
    {scope : Option String} {index : SearchIndex} {next : Engine}
    (built : engine.build store halt scope = .ok (index, next)) :
    next.Coherent store := by
  obtain ⟨usable, ⟨-, rfl⟩ | ⟨-, entries, found, rfl, rfl⟩⟩ := build_ok_cases built
  · exact coherent
  · split
    · exact coherent
    · rename_i known
      apply coherent.keep (freshBuild_of_entriesUnder usable found)
      · rfl
      · intro named
        simpa [named] using known

/-- A search keeps the engine coherent, whether its build succeeds or not. -/
theorem Coherent.search (coherent : engine.Coherent store) (halt : Halt) (query : String)
    (scope : Option String) (limit : Value) :
    (engine.search store halt query scope limit).1.Coherent store := by
  unfold Engine.search
  cases built : engine.build store halt scope with
  | error failure => exact coherent
  | ok result => exact coherent.build built

/-! ## What a client sees -/

/-- A successful build gives what a fresh engine builds uncancelled. -/
theorem Coherent.freshBuild_of_build (coherent : engine.Coherent store) {halt : Halt}
    {scope : Option String} {index : SearchIndex} {next : Engine}
    (built : engine.build store halt scope = .ok (index, next)) :
    engine.freshBuild store scope = .ok index := by
  obtain ⟨usable, ⟨cached, -⟩ | ⟨-, entries, found, rfl, -⟩⟩ := build_ok_cases built
  · obtain ⟨member, current⟩ := mem_of_cached? cached
    exact (coherent.current _ member current).1
  · exact freshBuild_of_entriesUnder usable found

/-- Where a fresh engine's build succeeds, the engine's build gives the same index. -/
theorem Coherent.build_of_fresh (coherent : engine.Coherent store) {halt : Halt}
    {scope : Option String} {index : SearchIndex} {freshNext : Engine}
    (built : engine.fresh.build store halt scope = .ok (index, freshNext)) :
    ∃ next, engine.build store halt scope = .ok (index, next) := by
  obtain ⟨usable, ⟨cached, -⟩ | ⟨-, entries, found, rfl, -⟩⟩ := build_ok_cases built
  · simp at cached
  · rw [withCategories_fresh] at found
    rw [build_of_usable usable]
    cases cached : engine.cached? scope store.generation with
    | some kept =>
      obtain ⟨member, current⟩ := mem_of_cached? cached
      have sameIndex := (coherent.current _ member current).1
      rw [freshBuild_of_entriesUnder usable found] at sameIndex
      cases sameIndex
      exact ⟨engine, rfl⟩
    | none =>
      rw [found]
      exact ⟨_, rfl⟩

/-- Uncancelled, the engine's build gives exactly what a fresh engine's build gives. -/
theorem Coherent.build_uncancelled (coherent : engine.Coherent store) (scope : Option String) :
    (engine.build store none scope).map Prod.fst = engine.freshBuild store scope := by
  cases built : engine.build store none scope with
  | ok result =>
    obtain ⟨index, next⟩ := result
    rw [coherent.freshBuild_of_build built]
    rfl
  | error failure =>
    unfold freshBuild
    rw [fresh_build_of_error built]

/-- A project with nothing stored has no index kept at the store's generation. -/
theorem Coherent.cached?_unknown (coherent : engine.Coherent store) (wellKept : store.WellKept)
    {project : String} (unknown : ∀ language, store.contents (project, language) = none) :
    engine.cached? (some project) store.generation = none := by
  cases cached : engine.cached? (some project) store.generation with
  | none => rfl
  | some index =>
    obtain ⟨member, current⟩ := mem_of_cached? cached
    have listed := (coherent.current _ member current).2 rfl
    obtain ⟨key, inScope⟩ := List.exists_mem_of_ne_nil _ listed
    obtain ⟨stored, sameProject⟩ := List.mem_filter.mp inScope
    have held := wellKept.mem_keys.mp stored
    have sameKey : key = (project, key.2) :=
      Prod.ext (by simpa [inKeyScope] using sameProject) rfl
    rw [sameKey, unknown] at held
    cases held

/-- What a client can tell of an engine that serves a store: nothing of what it keeps. It
builds the index a fresh engine builds, fails as a fresh engine fails, answers uncancelled
searches as a fresh engine answers them, a failed search leaves it as it was, its kept
indexes share one generation, and none is kept for a project with nothing stored. -/
structure Transparent (engine : Engine) (store : Store) : Prop where
  answersFresh : ∀ halt scope index next, engine.build store halt scope = .ok (index, next) →
    engine.freshBuild store scope = .ok index
  answersWhenFresh : ∀ halt scope index freshNext,
    engine.fresh.build store halt scope = .ok (index, freshNext) →
      ∃ next, engine.build store halt scope = .ok (index, next)
  failsAsFresh : ∀ halt scope failure, engine.build store halt scope = .error failure →
    engine.fresh.build store halt scope = .error failure ∧
      ∀ query limit, engine.search store halt query scope limit = (engine, .error failure)
  searchesAsFresh : ∀ query scope limit,
    (engine.search store none query scope limit).2 =
      (engine.fresh.search store none query scope limit).2
  oneGeneration : ∀ kept ∈ engine.cache, ∀ other ∈ engine.cache,
    kept.2.generation = other.2.generation
  unknownUncached : ∀ project, (∀ language, store.contents (project, language) = none) →
    engine.cached? (some project) store.generation = none

/-- A coherent engine over a well-kept store is transparent. -/
theorem Coherent.transparent (coherent : engine.Coherent store) (wellKept : store.WellKept) :
    engine.Transparent store where
  answersFresh _ _ _ _ built := coherent.freshBuild_of_build built
  answersWhenFresh _ _ _ _ built := coherent.build_of_fresh built
  failsAsFresh _ _ _ failed :=
    ⟨fresh_build_of_error failed, fun query limit => search_of_build_error failed query limit⟩
  searchesAsFresh query scope limit := by
    have freshCoherent : engine.fresh.Coherent store := coherent_of_cache_eq_nil rfl
    rw [search_answer, search_answer, coherent.build_uncancelled,
      freshCoherent.build_uncancelled, freshBuild_fresh]
  oneGeneration := coherent.oneGeneration
  unknownUncached _ unknown := coherent.cached?_unknown wellKept unknown

end Engine

/-! ## Contents alone decide a fresh build -/

/-- Two well-kept stores with the same contents list the same keys. -/
theorem keys_eq_of_contents {first second : Store} (firstKept : first.WellKept)
    (secondKept : second.WellKept) (sameContents : first.contents = second.contents) :
    first.records.map Record.key = second.records.map Record.key := by
  have firstListed : second.view.ListsKeys (first.records.map Record.key) :=
    ⟨firstKept.keys_ascending, fun _ => by
      rw [firstKept.mem_keys, sameContents]
      rfl⟩
  exact firstListed.unique ⟨secondKept.keys_ascending, fun _ => secondKept.mem_keys⟩

/-- Two well-kept stores with the same contents and fault load the same indexes. -/
theorem get_eq_of_contents {first second : Store} (firstKept : first.WellKept)
    (secondKept : second.WellKept) (sameFault : first.fault = second.fault)
    (sameContents : first.contents = second.contents) (halt : Halt)
    (project language : String) :
    first.get halt project language = second.get halt project language := by
  rw [firstKept.get_eq, secondKept.get_eq, sameFault]
  simp only [Table.get, Store.view, sameContents]

/-- A fresh engine builds the same entries from two well-kept stores with the same contents
and fault, however their calls led there. -/
theorem freshBuild_entries_of_contents (engine : Engine) {first second : Store}
    (firstKept : first.WellKept) (secondKept : second.WellKept)
    (sameFault : first.fault = second.fault) (sameContents : first.contents = second.contents)
    (scope : Option String) :
    (engine.freshBuild first scope).map SearchIndex.entries =
      (engine.freshBuild second scope).map SearchIndex.entries := by
  cases fault : first.fault with
  | some message =>
    unfold Engine.freshBuild
    rw [Engine.build_of_fault fault, Engine.build_of_fault (sameFault ▸ fault)]
  | none =>
    have sameKeys : scopeKeys first scope = scopeKeys second scope := by
      unfold scopeKeys
      rw [keys_eq_of_contents firstKept secondKept sameContents]
    have sameEntries :
        entriesUnder first none engine.withCategories (scopeKeys second scope) =
          entriesUnder second none engine.withCategories (scopeKeys second scope) :=
      entriesUnder_congr (get_eq_of_contents firstKept secondKept sameFault sameContents none) _
    rw [Engine.freshBuild_of_usable fault, Engine.freshBuild_of_usable (sameFault ▸ fault),
      sameKeys, sameEntries]
    cases entriesUnder second none engine.withCategories (scopeKeys second scope) <;> rfl

/-! ## Runs of a session -/

/-- A client's session: a store, and the engine that searches it. -/
structure Session where
  store : Store
  engine : Engine

/-- A call a client makes in a session. -/
inductive SessionCall where
  | store (call : StoreCall)
  | build (halt : Halt) (scope : Option String)
  | search (halt : Halt) (query : String) (scope : Option String) (limit : Value)
  | invalidate

namespace Session

/-- The session after a call: a failed build leaves it as it was. -/
def after (session : Session) : SessionCall → Session
  | .store call => { session with store := session.store.after call }
  | .build halt scope =>
    match session.engine.build session.store halt scope with
    | .ok (_, next) => { session with engine := next }
    | .error _ => session
  | .search halt query scope limit =>
    { session with engine := (session.engine.search session.store halt query scope limit).1 }
  | .invalidate => { session with engine := session.engine.invalidate }

/-- The session after calls made one after another. -/
def afterAll (session : Session) (calls : List SessionCall) : Session :=
  calls.foldl after session

/-- What every session keeps: a well-kept store and an engine coherent with it. -/
structure Sound (session : Session) : Prop where
  wellKept : session.store.WellKept
  coherent : session.engine.Coherent session.store

/-- One call keeps a session sound. -/
theorem Sound.after {session : Session} (sound : session.Sound) :
    ∀ call, (session.after call).Sound
  | .store call => by
    have coherent : session.engine.Coherent (session.store.after call) := by
      rcases session.store.after_eq_or_advance call with same | advanced
      · rw [same]
        exact sound.coherent
      · exact sound.coherent.advance advanced
    exact ⟨(sound.wellKept.after call).1, coherent⟩
  | .build halt scope => by
    simp only [Session.after]
    cases built : session.engine.build session.store halt scope with
    | error failure => exact sound
    | ok result => exact ⟨sound.wellKept, sound.coherent.build built⟩
  | .search halt query scope limit =>
    ⟨sound.wellKept, sound.coherent.search halt query scope limit⟩
  | .invalidate => ⟨sound.wellKept, Engine.coherent_of_cache_eq_nil rfl⟩

/-- Any run of calls keeps a session sound. -/
theorem Sound.afterAll :
    ∀ {session : Session} (calls : List SessionCall), session.Sound →
      (session.afterAll calls).Sound
  | _, [], sound => sound
  | _, call :: rest, sound => Sound.afterAll rest (sound.after call)

/-- No call changes the kind of engine. -/
theorem fresh_after (session : Session) :
    ∀ call, (session.after call).engine.fresh = session.engine.fresh
  | .store _ => rfl
  | .build halt scope => by
    simp only [Session.after]
    cases built : session.engine.build session.store halt scope with
    | error failure => rfl
    | ok result =>
      obtain ⟨index, next⟩ := result
      exact Engine.fresh_of_build built
  | .search halt query scope limit => by
    simp only [Session.after, Engine.search]
    cases built : session.engine.build session.store halt scope with
    | error failure => rfl
    | ok result =>
      obtain ⟨index, next⟩ := result
      exact Engine.fresh_of_build built
  | .invalidate => rfl

/-- One call keeps the store's fault. -/
theorem Sound.fault_after {session : Session} (sound : session.Sound) (call : SessionCall) :
    (session.after call).store.fault = session.store.fault := by
  cases call with
  | store call => exact (sound.wellKept.after call).2
  | build halt scope =>
    simp only [Session.after]
    cases session.engine.build session.store halt scope <;> rfl
  | search | invalidate => rfl

/-- Any run keeps the store's fault. -/
theorem Sound.fault_afterAll :
    ∀ {session : Session} (_ : session.Sound) (calls : List SessionCall),
      (session.afterAll calls).store.fault = session.store.fault
  | _, _, [] => rfl
  | _, sound, call :: rest =>
    ((sound.after call).fault_afterAll rest).trans (sound.fault_after call)

/-- No run changes the kind of engine. -/
theorem fresh_afterAll :
    ∀ (session : Session) (calls : List SessionCall),
      (session.afterAll calls).engine.fresh = session.engine.fresh
  | _, [] => rfl
  | session, call :: rest =>
    (fresh_afterAll (session.after call) rest).trans (session.fresh_after call)

/-- After any run, a fresh engine of the session's kind is the one it started with. -/
theorem freshBuild_afterAll (session : Session) (calls : List SessionCall) :
    (session.afterAll calls).engine.freshBuild = session.engine.freshBuild := by
  funext store scope
  unfold Engine.freshBuild
  rw [fresh_afterAll]

end Session

/-- Along any run of store calls, builds, searches and resets from a well-kept store and an
engine that keeps nothing, the engine stays transparent: every build gives the index a
fresh engine builds from the store as it is, a build fails exactly where and as a fresh one
fails and then leaves the engine as it was, uncancelled searches answer as a fresh
engine's, the kept indexes share one generation and none is kept for a project with
nothing stored. What a fresh engine builds is decided by the store's contents alone: two
runs that reach the same contents build the same entries. -/
theorem kept_indexes_invisible (start : Session) (wellKept : start.store.WellKept)
    (nothingKept : start.engine.cache = []) (calls : List SessionCall) :
    (start.afterAll calls).engine.Transparent (start.afterAll calls).store ∧
      ∀ others : List SessionCall,
        (start.afterAll calls).store.contents = (start.afterAll others).store.contents →
        ∀ scope,
          ((start.afterAll calls).engine.freshBuild (start.afterAll calls).store scope).map
              SearchIndex.entries =
            ((start.afterAll others).engine.freshBuild (start.afterAll others).store scope).map
              SearchIndex.entries := by
  have startSound : start.Sound := ⟨wellKept, Engine.coherent_of_cache_eq_nil nothingKept⟩
  have sound := startSound.afterAll calls
  refine ⟨sound.coherent.transparent sound.wellKept, ?_⟩
  intro others sameContents scope
  have othersSound := startSound.afterAll others
  have sameFault : (start.afterAll calls).store.fault = (start.afterAll others).store.fault := by
    rw [startSound.fault_afterAll, startSound.fault_afterAll]
  rw [Session.freshBuild_afterAll, Session.freshBuild_afterAll]
  exact freshBuild_entries_of_contents start.engine sound.wellKept othersSound.wellKept sameFault
    sameContents scope

/-- A session that puts an index, builds its project and deletes the index again, from an
empty store and an engine that keeps nothing: the project's index stays kept, stale. -/
theorem kept_indexes_invisible_after_delete :
    ({} : Store).WellKept ∧ ({} : Engine).cache = [] ∧
      (Session.afterAll ⟨{}, {}⟩ [.store (.put none "p" "go" { language := "go" }),
          .build none (some "p"), .store (.delete "p" "go")]).engine.Transparent
        (Session.afterAll ⟨{}, {}⟩ [.store (.put none "p" "go" { language := "go" }),
          .build none (some "p"), .store (.delete "p" "go")]).store ∧
      ∀ others : List SessionCall,
        (Session.afterAll ⟨{}, {}⟩ [.store (.put none "p" "go" { language := "go" }),
            .build none (some "p"), .store (.delete "p" "go")]).store.contents =
          (Session.afterAll ⟨{}, {}⟩ others).store.contents →
        ∀ scope,
          ((Session.afterAll ⟨{}, {}⟩ [.store (.put none "p" "go" { language := "go" }),
              .build none (some "p"), .store (.delete "p" "go")]).engine.freshBuild
            (Session.afterAll ⟨{}, {}⟩ [.store (.put none "p" "go" { language := "go" }),
              .build none (some "p"), .store (.delete "p" "go")]).store scope).map
              SearchIndex.entries =
            ((Session.afterAll ⟨{}, {}⟩ others).engine.freshBuild
              (Session.afterAll ⟨{}, {}⟩ others).store scope).map SearchIndex.entries :=
  ⟨Store.wellKept_of_records_eq_nil rfl, rfl,
    kept_indexes_invisible ⟨{}, {}⟩ (Store.wellKept_of_records_eq_nil rfl) rfl _⟩

/-- A build of a project with nothing stored returns before it drops older indexes: after a
put, a build and a delete of project `p`, building `p` again leaves `p`'s index kept, a
generation behind the store, though `p` has nothing stored. -/
theorem unknown_project_build_keeps_stale_index :
    scopeKeys (Session.afterAll ⟨{}, {}⟩
        [.store (.put none "p" "python" { language := "python" }), .build none (some "p"),
          .store (.delete "p" "python"), .build none (some "p")]).store (some "p") = [] ∧
      (Session.afterAll ⟨{}, {}⟩
        [.store (.put none "p" "python" { language := "python" }), .build none (some "p"),
          .store (.delete "p" "python"), .build none (some "p")]).store.generation = 2 ∧
      ((Session.afterAll ⟨{}, {}⟩
        [.store (.put none "p" "python" { language := "python" }), .build none (some "p"),
          .store (.delete "p" "python"), .build none (some "p")]).engine.cache.map
        fun kept => (kept.1, kept.2.generation)) = [(some "p", 1)] := by
  decide +kernel

end DocIndex.Search
