import DocIndex.Proofs.Store.Records
import Mathlib.Data.List.Sort
import Mathlib.Logic.Function.Basic

/-!
# The store refines a finite map

A client of the store sees a finite map from keys to indexes with a counter of its changes
(`Table`), and the store answers every call as that map does (`Store.AnswersAsTable`): a put
runs its checks in order (the key, the index's language and structure, cancellation, the
store's usability, the 64-bit columns) and then maps its key to the index and moves the
counter on, a delete unmaps a present key and moves the counter on, and a get, a lookup and
the listings read the map. Each call that binds texts into a statement first finds the store
usable and then each text encodable as UTF-8 (`checkBinding`); a put binds its numbers after
the key and its document last. A failed call writes nothing. The store keeps these answers over
any run of calls (`Store.refines_table`): what it keeps of its records (`Store.WellKept`)
holds after every put and delete.
-/

namespace DocIndex

open DocIndex.Document DocIndex.Search

/-- Fail with a store's fault, if it has one. -/
def checkUsable : Option String → Except Failure Unit
  | some message => .error (.storage message)
  | none => .ok ()

theorem Store.usable_eq (store : Store) : store.usable = checkUsable store.fault := rfl

/-- The checks a call makes as it binds texts into a statement: the store must be usable, and
each text, in order, must encode as UTF-8. -/
def checkBinding (fault : Option String) (texts : List String) : Except Failure Unit := do
  checkUsable fault
  texts.forM encodeStrict

theorem checkBinding_single (fault : Option String) (text : String) :
    checkBinding fault [text] = (do checkUsable fault; encodeStrict text) := by
  simp [checkBinding]

theorem checkBinding_pair (fault : Option String) (first second : String) :
    checkBinding fault [first, second] =
      (do checkUsable fault; encodeStrict first; encodeStrict second) := by
  simp [checkBinding]

/-- A call that binds one text and goes on binds it through `checkBinding`. -/
theorem checkBinding_single_bind {α : Type} (fault : Option String) (text : String)
    (rest : Except Failure α) :
    (do checkUsable fault; encodeStrict text; rest) = (do checkBinding fault [text]; rest) := by
  rw [checkBinding_single]
  simp only [bind_assoc]

/-- A call that binds a key and goes on binds it through `checkBinding`. -/
theorem checkBinding_pair_bind {α : Type} (fault : Option String) (first second : String)
    (rest : Except Failure α) :
    (do checkUsable fault; encodeStrict first; encodeStrict second; rest) =
      (do checkBinding fault [first, second]; rest) := by
  rw [checkBinding_pair]
  simp only [bind_assoc]

/-- Checks that only decide whether a call goes on give its value as a bind. -/
theorem map_const_eq_bind {α : Type} (checks : Except Failure Unit) (value : α) :
    checks.map (fun _ => value) = checks >>= fun _ => pure value :=
  map_eq_pure_bind (fun _ => value) checks

/-- The checks a put makes before it writes, in the order it makes them. -/
def putChecks
    (fault : Option String) (halt : Halt) (project language : String) (index : Index) :
    Except Failure Unit := do
  checkKey project language
  if index.language != language then
    throw (.schema ("Index language '" ++ index.language ++
      "' does not match key language '" ++ language ++ "'"))
  index.validate
  checkpoint halt
  checkBinding fault [project, language]
  checkColumns [index.schemaVersion, index.fileCount, index.byteCount]
  encodeStrict (payloadOf index)

/-- The record a put writes. -/
def putRecord (store : Store) (project language : String) (index : Index) : Record :=
  ⟨⟨project, language, index.schemaVersion, index.fileCount, index.byteCount, store.clock⟩,
    .index index⟩

/-- A put is its checks, then the placing of its record. -/
theorem Store.put_eq
    (store : Store) (halt : Halt) (project language : String) (index : Index) :
    store.put halt project language index =
      (putChecks store.fault halt project language index).map
        fun _ => store.place (putRecord store project language index) := by
  unfold Store.put putChecks
  rw [Store.usable_eq, map_const_eq_bind, checkBinding_pair]
  simp only [bind_assoc]
  -- the code binds what follows the language test into both branches of the test
  congr 1
  funext
  split <;> simp only [bind_assoc] <;> rfl

/-! ## The finite map -/

/-- A finite map from keys to indexes with a counter of its changes: the store as its
clients see it. -/
structure Table where
  contents : String × String → Option Index
  generation : Nat

/-- What a client sees of a store. -/
def Store.view (store : Store) : Table :=
  ⟨store.contents, store.generation⟩

namespace Table

/-- Put an index under a key once the put checks pass: the key maps to the index, the
counter moves on, and no other key changes. -/
def put (table : Table) (fault : Option String) (halt : Halt) (project language : String)
    (index : Index) : Except Failure Table :=
  (putChecks fault halt project language index).map fun _ =>
    { contents := Function.update table.contents (project, language) (some index),
      generation := table.generation + 1 }

/-- Load the index under a key: one of a newer schema is refused. -/
def get (table : Table) (fault : Option String) (halt : Halt) (project language : String) :
    Except Failure Index := do
  checkKey project language
  checkpoint halt
  checkBinding fault [project, language]
  match table.contents (project, language) with
  | none => throw (.notStored project language)
  | some index =>
    if index.schemaVersion > latestVersion then
      throw (.newerSchema index.schemaVersion latestVersion (some (project ++ "/" ++ language)))
    else pure index

/-- Whether a key holds an index. -/
def contains (table : Table) (fault : Option String) (project language : String) :
    Except Failure Bool :=
  (checkBinding fault [project, language]).map fun _ => (table.contents (project, language)).isSome

/-- Unmap a key, telling whether it held an index; the counter moves on only then. -/
def delete (table : Table) (fault : Option String) (project language : String) :
    Except Failure (Bool × Table) :=
  (checkBinding fault [project, language]).map fun _ =>
    if (table.contents (project, language)).isSome then
      (true, {
        contents := Function.update table.contents (project, language) none,
        generation := table.generation + 1 })
    else (false, table)

/-- The counter of changes. -/
def currentGeneration (table : Table) (fault : Option String) : Except Failure Nat :=
  (checkUsable fault).map fun _ => table.generation

/-- The keys holding an index, each once, in ascending key order. -/
def ListsKeys (table : Table) (keys : List (String × String)) : Prop :=
  keys.Pairwise (fun a b => keyBefore a b = true) ∧
    ∀ key, key ∈ keys ↔ (table.contents key).isSome

/-- The projects with an index under some language, each once, in ascending order. -/
def ListsProjects (table : Table) (names : List String) : Prop :=
  names.Pairwise (fun a b => compareText a b = .lt) ∧
    ∀ project, project ∈ names ↔ ∃ language, (table.contents (project, language)).isSome

/-- The languages holding an index of a project, each once, in ascending order. -/
def ListsLanguages (table : Table) (project : String) (names : List String) : Prop :=
  names.Pairwise (fun a b => compareText a b = .lt) ∧
    ∀ language, language ∈ names ↔ (table.contents (project, language)).isSome

instance keyBefore_irrefl : Std.Irrefl (fun a b : String × String => keyBefore a b = true) :=
  ⟨fun key => by simp⟩

instance keyBefore_antisymm :
    Std.Antisymm (fun a b : String × String => keyBefore a b = true) :=
  ⟨fun a _ before after => absurd (keyBefore_trans before after) (by simp)⟩

instance compareText_lt_irrefl : Std.Irrefl (fun a b : String => compareText a b = .lt) :=
  ⟨fun name => by simp⟩

instance compareText_lt_antisymm : Std.Antisymm (fun a b : String => compareText a b = .lt) :=
  ⟨fun a _ before after => absurd (compareText_lt_trans before after) (by simp)⟩

/-- A finite map lists its keys in one way only. -/
theorem ListsKeys.unique {table : Table} {keys others : List (String × String)}
    (listed : table.ListsKeys keys) (listedToo : table.ListsKeys others) :
    keys = others :=
  listed.1.eq_of_mem_iff listedToo.1 fun key => (listed.2 key).trans (listedToo.2 key).symm

/-- A finite map lists its projects in one way only. -/
theorem ListsProjects.unique {table : Table} {names others : List String}
    (listed : table.ListsProjects names) (listedToo : table.ListsProjects others) :
    names = others :=
  listed.1.eq_of_mem_iff listedToo.1 fun name => (listed.2 name).trans (listedToo.2 name).symm

/-- A finite map lists a project's languages in one way only. -/
theorem ListsLanguages.unique {table : Table} {project : String} {names others : List String}
    (listed : table.ListsLanguages project names)
    (listedToo : table.ListsLanguages project others) :
    names = others :=
  listed.1.eq_of_mem_iff listedToo.1 fun name => (listed.2 name).trans (listedToo.2 name).symm

end Table

/-! ## Each call through the view -/

namespace Store

/-- A put's record holds its index and tells its schema version. -/
theorem putRecord_written (store : Store) (project language : String) (index : Index) :
    (putRecord store project language index).Written :=
  ⟨index, rfl, rfl⟩

/-- A put that succeeds places its record. -/
theorem eq_place_of_put {store next : Store} {halt : Halt} {project language : String}
    {index : Index} (written : store.put halt project language index = .ok next) :
    next = store.place (putRecord store project language index) := by
  rw [Store.put_eq] at written
  cases checks : putChecks store.fault halt project language index with
  | error failure =>
    rw [checks] at written
    cases written
  | ok _ =>
    rw [checks] at written
    cases written
    rfl

section WellKept

variable {store : Store}

/-- Placing a put's record maps its key to the index and moves the counter on. -/
theorem WellKept.view_place
    (wellKept : store.WellKept) (project language : String) (index : Index) :
    (store.place (putRecord store project language index)).view =
      { contents := Function.update store.contents (project, language) (some index),
        generation := store.generation + 1 } := by
  unfold Store.view
  congr 1
  funext key
  rw [wellKept.contents_place]
  by_cases sameKey : (project, language) = key
  · subst sameKey
    simp [putRecord, Record.key, Record.index?]
  · have otherKey : (putRecord store project language index).key ≠ key := sameKey
    rw [if_neg otherKey, Function.update_of_ne (Ne.symm sameKey)]

/-- A put through the view: the put checks, then the key maps to the index. -/
theorem WellKept.put_view
    (wellKept : store.WellKept) (halt : Halt) (project language : String) (index : Index) :
    (store.put halt project language index).map Store.view =
      store.view.put store.fault halt project language index := by
  rw [Store.put_eq, Table.put]
  cases putChecks store.fault halt project language index with
  | error failure => rfl
  | ok _ =>
    show Except.ok _ = Except.ok _
    rw [wellKept.view_place]
    rfl

/-- A put keeps a store well kept. -/
theorem WellKept.put
    (wellKept : store.WellKept) {halt : Halt} {project language : String} {index : Index}
    {next : Store} (written : store.put halt project language index = .ok next) :
    next.WellKept := by
  rw [eq_place_of_put written]
  exact wellKept.place (putRecord_written store project language index)

/-- A get through the view. -/
theorem WellKept.get_eq
    (wellKept : store.WellKept) (halt : Halt) (project language : String) :
    store.get halt project language = store.view.get store.fault halt project language := by
  unfold Store.get Table.get
  rw [Store.usable_eq, checkBinding_pair]
  cases found : store.find? project language with
  | none =>
    have missing : store.contents (project, language) = none := by
      simp [Store.contents, found]
    simp [Store.view, missing]
  | some record =>
    obtain ⟨member, -⟩ := wellKept.find?_eq_some_iff.mp found
    obtain ⟨index, payload, version⟩ := wellKept.written record member
    have present : store.contents (project, language) = some index := by
      simp [Store.contents, found, Record.index?, payload]
    simp [Store.view, present, payload, version]
    -- the code writes a refusal as a mapped `throw`
    rfl

/-- A key holds an index exactly when a record of it is found. -/
theorem WellKept.contents_isSome_eq
    (wellKept : store.WellKept) (project language : String) :
    (store.contents (project, language)).isSome = (store.find? project language).isSome := by
  cases found : store.find? project language with
  | none => simp [Store.contents, found]
  | some record =>
    obtain ⟨member, -⟩ := wellKept.find?_eq_some_iff.mp found
    obtain ⟨index, payload, -⟩ := wellKept.written record member
    simp [Store.contents, found, Record.index?, payload]

/-- A lookup through the view. -/
theorem WellKept.contains_eq
    (wellKept : store.WellKept) (project language : String) :
    store.contains project language = store.view.contains store.fault project language := by
  unfold Store.contains Table.contains
  rw [Store.usable_eq, checkBinding_pair_bind]
  cases checkBinding store.fault [project, language] with
  | error failure => rfl
  | ok _ =>
    show Except.ok _ = Except.ok _
    rw [Store.view, wellKept.contents_isSome_eq]

/-- Dropping a key's records unmaps the key and moves the counter on. -/
theorem view_drop (project language : String) :
    ({ store with
        records := store.records.filter fun record => record.key != (project, language),
        generation := store.generation + 1 } : Store).view =
      { contents := Function.update store.contents (project, language) none,
        generation := store.generation + 1 } := by
  unfold Store.view
  congr 1
  funext key
  rw [contents_drop]
  by_cases sameKey : key = (project, language)
  · subst sameKey
    simp
  · rw [if_neg sameKey, Function.update_of_ne sameKey]

/-- A delete through the view: a present key is unmapped and the counter moves on. -/
theorem WellKept.delete_view
    (wellKept : store.WellKept) (project language : String) :
    (store.delete project language).map (Prod.map id Store.view) =
      store.view.delete store.fault project language := by
  unfold Store.delete Table.delete
  rw [Store.usable_eq, checkBinding_pair_bind]
  cases checkBinding store.fault [project, language] with
  | error failure => rfl
  | ok _ =>
    have same := wellKept.contents_isSome_eq project language
    by_cases found : (store.find? project language).isSome
    · have held : (store.view.contents (project, language)).isSome := by
        show (store.contents (project, language)).isSome
        rw [same]
        exact found
      simp only [found, held, if_true]
      show Except.ok (Prod.map id Store.view _) = Except.ok _
      rw [Prod.map_apply, id_eq, view_drop]
      rfl
    · have notHeld : ¬ (store.view.contents (project, language)).isSome := by
        show ¬ (store.contents (project, language)).isSome
        rw [same]
        exact found
      simp only [found, notHeld, if_false, Bool.false_eq_true]
      rfl

/-- A delete that succeeds drops the key's record and moves the counter on, or finds no
record and leaves the store as it was. -/
theorem eq_drop_or_eq_of_delete {project language : String} {found : Bool} {next : Store}
    (deleted : store.delete project language = .ok (found, next)) :
    next = { store with
        records := store.records.filter fun record => record.key != (project, language),
        generation := store.generation + 1 } ∨ next = store := by
  unfold Store.delete at deleted
  rw [Store.usable_eq, checkBinding_pair_bind] at deleted
  cases usable : checkBinding store.fault [project, language] with
  | error failure =>
    rw [usable] at deleted
    cases deleted
  | ok _ =>
    rw [usable] at deleted
    change (if _ then _ else _) = _ at deleted
    split at deleted
    · cases deleted
      exact .inl rfl
    · cases deleted
      exact .inr rfl

/-- A delete keeps a store well kept. -/
theorem WellKept.delete
    (wellKept : store.WellKept) {project language : String} {found : Bool} {next : Store}
    (deleted : store.delete project language = .ok (found, next)) :
    next.WellKept := by
  rcases eq_drop_or_eq_of_delete deleted with rfl | rfl
  · exact wellKept.drop _ _
  · exact wellKept

/-- The keys are listed as the finite map lists them. -/
theorem WellKept.keys_listed (wellKept : store.WellKept) :
    ∃ keys, store.keys = (checkUsable store.fault).map (fun _ => keys) ∧
      store.view.ListsKeys keys := by
  refine ⟨store.records.map Record.key, ?_, wellKept.keys_ascending, fun _ => wellKept.mem_keys⟩
  unfold Store.keys
  rw [Store.usable_eq]
  cases checkUsable store.fault <;> rfl

/-- The projects are listed as the finite map lists them. -/
theorem WellKept.projects_listed (wellKept : store.WellKept) :
    ∃ names, store.projects = (checkUsable store.fault).map (fun _ => names) ∧
      store.view.ListsProjects names := by
  refine ⟨(store.records.map fun record => record.info.project).eraseDups, ?_,
    wellKept.projects_ascending, fun _ => wellKept.mem_projects⟩
  unfold Store.projects
  rw [Store.usable_eq]
  cases checkUsable store.fault <;> rfl

/-- The languages of a project are listed as the finite map lists them. -/
theorem WellKept.languages_listed (wellKept : store.WellKept) (project : String) :
    ∃ names,
      store.languages project = (checkBinding store.fault [project]).map (fun _ => names) ∧
        store.view.ListsLanguages project names := by
  refine ⟨(store.records.filter fun record => record.info.project == project).map
      fun record => record.info.language, ?_,
    wellKept.languages_ascending project, fun _ => wellKept.mem_languages⟩
  unfold Store.languages
  rw [Store.usable_eq, map_const_eq_bind, checkBinding_single_bind]

/-- The generation through the view. -/
theorem currentGeneration_eq (store : Store) :
    store.currentGeneration = store.view.currentGeneration store.fault := by
  unfold Store.currentGeneration Table.currentGeneration
  rw [Store.usable_eq]
  cases checkUsable store.fault <;> rfl

end WellKept

/-! ## Runs of calls -/

/-- A store answers every call the way its view, a finite map with a counter of its
changes, does; the listings list the map's keys, projects and languages. -/
structure AnswersAsTable (store : Store) : Prop where
  put : ∀ halt project language index,
    (store.put halt project language index).map Store.view =
      store.view.put store.fault halt project language index
  get : ∀ halt project language,
    store.get halt project language = store.view.get store.fault halt project language
  contains : ∀ project language,
    store.contains project language = store.view.contains store.fault project language
  delete : ∀ project language,
    (store.delete project language).map (Prod.map id Store.view) =
      store.view.delete store.fault project language
  keys : ∃ keys, store.keys = (checkUsable store.fault).map (fun _ => keys) ∧
    store.view.ListsKeys keys
  projects : ∃ names, store.projects = (checkUsable store.fault).map (fun _ => names) ∧
    store.view.ListsProjects names
  languages : ∀ project, ∃ names,
    store.languages project = (checkBinding store.fault [project]).map (fun _ => names) ∧
      store.view.ListsLanguages project names
  generation : store.currentGeneration = store.view.currentGeneration store.fault

/-- A well-kept store answers as its view. -/
theorem WellKept.answersAsTable {store : Store} (wellKept : store.WellKept) :
    store.AnswersAsTable where
  put := wellKept.put_view
  get := wellKept.get_eq
  contains := wellKept.contains_eq
  delete := wellKept.delete_view
  keys := wellKept.keys_listed
  projects := wellKept.projects_listed
  languages := wellKept.languages_listed
  generation := currentGeneration_eq store

end Store

/-- A call a client makes on a store. -/
inductive StoreCall where
  | put (halt : Halt) (project language : String) (index : Index)
  | get (halt : Halt) (project language : String)
  | contains (project language : String)
  | delete (project language : String)
  | keys
  | projects
  | languages (project : String)
  | generation

namespace Store

/-- The store after a call: a put or a delete that succeeds writes, and any other call, or
one that fails, leaves the store as it was. -/
def after (store : Store) : StoreCall → Store
  | .put halt project language index =>
    match store.put halt project language index with
    | .ok next => next
    | .error _ => store
  | .delete project language =>
    match store.delete project language with
    | .ok (_, next) => next
    | .error _ => store
  | .get .. | .contains .. | .keys | .projects | .languages .. | .generation => store

/-- The store after calls made one after another. -/
def afterAll (store : Store) (calls : List StoreCall) : Store :=
  calls.foldl after store

/-- A put keeps the store's fault. -/
theorem fault_of_put {store next : Store} {halt : Halt} {project language : String}
    {index : Index} (written : store.put halt project language index = .ok next) :
    next.fault = store.fault := by
  rw [eq_place_of_put written]
  rfl

/-- A delete keeps the store's fault. -/
theorem fault_of_delete {store next : Store} {project language : String} {found : Bool}
    (deleted : store.delete project language = .ok (found, next)) :
    next.fault = store.fault := by
  rcases eq_drop_or_eq_of_delete deleted with rfl | rfl <;> rfl

/-- One call keeps a store well kept and keeps its fault. -/
theorem WellKept.after {store : Store} (wellKept : store.WellKept) :
    ∀ call, (store.after call).WellKept ∧ (store.after call).fault = store.fault
  | .put halt project language index => by
    cases written : store.put halt project language index with
    | ok next =>
      simp only [Store.after, written]
      exact ⟨wellKept.put written, fault_of_put written⟩
    | error failure =>
      simp only [Store.after, written, and_true]
      exact wellKept
  | .delete project language => by
    cases deleted : store.delete project language with
    | ok result =>
      obtain ⟨found, next⟩ := result
      simp only [Store.after, deleted]
      exact ⟨wellKept.delete deleted, fault_of_delete deleted⟩
    | error failure =>
      simp only [Store.after, deleted, and_true]
      exact wellKept
  | .get .. | .contains .. | .keys | .projects | .languages .. | .generation => ⟨wellKept, rfl⟩

/-- Any run of calls keeps a store well kept and keeps its fault. -/
theorem WellKept.afterAll :
    ∀ {store : Store} (calls : List StoreCall), store.WellKept →
      (store.afterAll calls).WellKept ∧ (store.afterAll calls).fault = store.fault
  | _, [], wellKept => ⟨wellKept, rfl⟩
  | store, call :: rest, wellKept => by
    obtain ⟨kept, sameFault⟩ := wellKept.after call
    obtain ⟨keptAfter, sameFaultAfter⟩ := WellKept.afterAll rest kept
    exact ⟨keptAfter, sameFaultAfter.trans sameFault⟩

/-- A call leaves the store as it was or moves its counter on by one. -/
theorem after_eq_or_advance (store : Store) :
    ∀ call, store.after call = store ∨ (store.after call).generation = store.generation + 1
  | .put halt project language index => by
    cases written : store.put halt project language index with
    | error failure =>
      left
      simp only [Store.after, written]
    | ok next =>
      right
      simp only [Store.after, written]
      rw [eq_place_of_put written]
      rfl
  | .delete project language => by
    cases deleted : store.delete project language with
    | error failure =>
      left
      simp only [Store.after, deleted]
    | ok result =>
      obtain ⟨found, next⟩ := result
      simp only [Store.after, deleted]
      rcases eq_drop_or_eq_of_delete deleted with rfl | rfl
      · exact .inr rfl
      · exact .inl rfl
  | .get .. | .contains .. | .keys | .projects | .languages .. | .generation => .inl rfl

/-- After any run of calls from a well-kept store, the store answers every call as a
finite map from keys to indexes with a counter of its changes: a put fails by its checks
in order (the key, the index's language and structure, cancellation, the store's usability,
then its key, numbers and document as they are bound) and otherwise maps its key to the
index and counts one change, a get refuses a key it cannot bind, a missing key or a newer
schema and otherwise returns the key's index, a delete unmaps a present key and counts one
change, a failed call changes nothing, and the listings list the map. The store's usability
stays what it was. -/
theorem refines_table (start : Store) (wellKept : start.WellKept) (calls : List StoreCall) :
    (start.afterAll calls).fault = start.fault ∧ (start.afterAll calls).AnswersAsTable := by
  obtain ⟨kept, sameFault⟩ := wellKept.afterAll calls
  exact ⟨sameFault, kept.answersAsTable⟩

/-- An empty store answers as a finite map after a put and a delete. -/
theorem refines_table_after_put_and_delete :
    ({} : Store).WellKept ∧
      (({} : Store).afterAll
        [.put none "doctree" "python" { language := "python" }, .delete "doctree" "go"]).fault =
          ({} : Store).fault ∧
      (({} : Store).afterAll
        [.put none "doctree" "python" { language := "python" },
          .delete "doctree" "go"]).AnswersAsTable :=
  ⟨wellKept_of_records_eq_nil rfl,
    refines_table {} (wellKept_of_records_eq_nil rfl) _⟩

/-- A count of 2 ^ 63, too large for a 64-bit column, makes a put fail with an overflow, and
a lone surrogate as the project makes it fail as the project is encoded: neither is a bad key,
a schema error, a cancellation or a storage failure. A store that cannot be used answers a
get of a key it never held with a storage failure, not as a missing index. -/
theorem put_fails_outside_storage_failures :
    ({} : Store).put none "doctree" "python"
        { language := "python", byteCount := 9223372036854775808 } =
        .error (.overflow "Python int too large to convert to SQLite INTEGER") ∧
      ({} : Store).put none (String.singleton (Text.standIn 0xD800)) "python"
          { language := "python" } =
        .error (.unencodable
          "'utf-8' codec can't encode character '\\ud800' in position 0: surrogates not allowed") ∧
      (Store.unusable "unable to open database file").get none "doctree" "python" =
        .error (.storage "unable to open database file") :=
  ⟨rfl, rfl, rfl⟩

end Store

end DocIndex
