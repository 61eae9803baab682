import DocIndex.Search.Inverted
import DocIndex.Data.Value

/-!
# Limits given as values

A limit that arrives as a document value is compared with zero and then used to cut the
ranked results. `null` means no limit; a whole number `n` keeps `max n 0` results and a
truth value counts as 0 or 1. A negative fraction keeps nothing, since zero is then the
larger; any other fraction cannot cut a list, and a value of another kind cannot be compared
with zero. The limit is read only after ranking, so a query without terms never reads it
and a cancelled query fails first.
-/

namespace DocIndex.Search

open DocIndex.Data

/-- The limit a value stands for. -/
def limitOf : Value → Except Failure (Option Int)
  | .null => .ok none
  | .int n => .ok (some n)
  | .bool flag => .ok (some (if flag then 1 else 0))
  | .float x =>
    if x < 0 then .ok (some 0)
    else .error (.badType "slice indices must be integers or None or have an __index__ method")
  | other =>
    .error (.badType ("'>' not supported between instances of 'int' and '" ++
      other.kindName ++ "'"))

/-- Rank the entries of a search index for a query, cut by a limit given as a value. -/
def SearchIndex.queryLimited (index : SearchIndex) (halt : Halt) (query : String)
    (scope : Option String) (limit : Value) : Except Failure (List Result) :=
  if (queryTerms query).isEmpty then .ok []
  else do
    let results ← index.query halt query scope none
    let cut ← limitOf limit
    pure (truncate cut results)

end DocIndex.Search
