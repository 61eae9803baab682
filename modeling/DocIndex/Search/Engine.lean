import DocIndex.Store.Basic
import DocIndex.Search.Limit

/-!
# Search engine

An engine answers queries over a store. For a scope (every project, or one) it builds a
search index over the stored indexes of that scope, in key order, and keeps it for as long
as the store's generation stays the same: a kept index is handed out again without
reading the store beyond its generation, and without a cancellation checkpoint. Building
anew drops the kept indexes of older generations. A scope naming a project with nothing
stored gets an empty index that is not kept.

Building checks for cancellation before loading each stored index; a key whose index has
gone since the keys were listed is skipped.
-/

namespace DocIndex.Search

open DocIndex.Data

/-- A search engine: whether category sections are searchable, and the search indexes
kept per scope. -/
structure Engine where
  withCategories : Bool := false
  cache : List (Option String × SearchIndex) := []

/-- The entries of the indexes stored under keys, in order. -/
def entriesUnder (store : Store) (halt : Halt) (withCategories : Bool) :
    List (String × String) → Except Failure (List Entry)
  | [] => .ok []
  | (project, language) :: rest => do
    checkpoint halt
    let here ← match store.get halt project language with
      | .ok index => entriesChecked halt project index withCategories
      | .error (.notStored _ _) => pure []
      | .error failure => throw failure
    let others ← entriesUnder store halt withCategories rest
    pure (here ++ others)

/-- Whether a key lies in a scope. -/
def inKeyScope (scope : Option String) (key : String × String) : Bool :=
  match scope with
  | some project => key.1 == project
  | none => true

namespace Engine

/-- The index kept for a scope, if it was built at the given generation. -/
def cached? (engine : Engine) (scope : Option String) (generation : Nat) : Option SearchIndex :=
  (engine.cache.lookup scope).filter fun index => index.generation == generation

/-- The search index of a scope, and the engine that keeps it. -/
def build (engine : Engine) (store : Store) (halt : Halt) (scope : Option String) :
    Except Failure (SearchIndex × Engine) := do
  let generation ← store.currentGeneration
  if let some index := engine.cached? scope generation then return (index, engine)
  let keys := (← store.keys).filter (inKeyScope scope)
  let entries ← entriesUnder store halt engine.withCategories keys
  let built := SearchIndex.build entries generation
  if scope.isSome && keys.isEmpty then return (built, engine)
  let kept := engine.cache.filter fun (other, index) =>
    index.generation == generation && other != scope
  return (built, { engine with cache := kept ++ [(scope, built)] })

/-- Rank the entries of a scope for a query, cut by a limit given as a value. The engine
keeps what it built even when the query itself fails. -/
def search (engine : Engine) (store : Store) (halt : Halt) (query : String)
    (scope : Option String) (limit : Value) : Engine × Except Failure (List Result) :=
  match engine.build store halt scope with
  | .error failure => (engine, .error failure)
  | .ok (index, built) => (built, index.queryLimited halt query scope limit)

/-- Forget every kept index. -/
def invalidate (engine : Engine) : Engine :=
  { engine with cache := [] }

end Engine

/-- Search a store once with a fresh engine; where no store exists there is nothing to
find. -/
def searchOnce (store : Option Store) (halt : Halt) (query : String) (scope : Option String)
    (limit : Value) : Except Failure (List Result) :=
  match store with
  | none => .ok []
  | some store => (({} : Engine).search store halt query scope limit).2

end DocIndex.Search
