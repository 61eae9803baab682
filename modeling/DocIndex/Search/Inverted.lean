import DocIndex.Search.Ranking

/-!
# Inverted index

A search index keeps its entries with the postings of their terms: each term maps to the
ascending positions of the entries that carry it, and the terms are kept in code-point
order. A query scores only the candidates, the entries carrying a term that contains one
of the query's terms; every other entry scores zero, so ranking the candidates gives the
same results as ranking everything (`rankAll`). A cancellation checkpoint precedes the
scoring of the first candidate.
-/

namespace DocIndex.Search

/-- A term with the ascending positions of the entries that carry it. -/
abbrev Posting := String × List Nat

/-- Add a position to the end of a term's posting, keeping the terms in code-point order.
Positions arrive in ascending order, so each posting stays ascending. -/
def addPosting (term : String) (position : Nat) : List Posting → List Posting
  | [] => [(term, [position])]
  | (other, positions) :: rest =>
    match compareText term other with
    | .lt => (term, [position]) :: (other, positions) :: rest
    | .eq =>
      (other, if positions.getLast? == some position then positions
        else positions ++ [position]) :: rest
    | .gt => (other, positions) :: addPosting term position rest

/-- The postings of entries numbered from `position`, added to `postings`. -/
def postingsFrom (postings : List Posting) : Nat → List Entry → List Posting
  | _, [] => postings
  | position, entry :: rest =>
    postingsFrom (entry.terms.foldl (fun acc term => addPosting term position acc) postings)
      (position + 1) rest

/-- Texts in code-point order without repeats. -/
def sortedDistinct (texts : List String) : List String :=
  (texts.mergeSort fun a b => compareText a b != .gt).eraseDups

/-- A search index: its entries, the store generation it was built from, the projects it
covers and the postings of its terms. -/
structure SearchIndex where
  entries : List Entry
  generation : Nat
  projects : List String
  postings : List Posting

/-- Build a search index over entries. -/
def SearchIndex.build (entries : List Entry) (generation : Nat) : SearchIndex :=
  { entries, generation,
    projects := sortedDistinct (entries.map Entry.project),
    postings := postingsFrom [] 0 entries }

/-- The number of entries. -/
def SearchIndex.size (index : SearchIndex) : Nat :=
  index.entries.length

/-- Merge two ascending lists of positions into one without repeats. -/
def mergePositions : List Nat → List Nat → List Nat
  | [], ys => ys
  | xs, [] => xs
  | x :: xs, y :: ys =>
    if x < y then x :: mergePositions xs (y :: ys)
    else if y < x then y :: mergePositions (x :: xs) ys
    else x :: mergePositions xs ys

/-- The ascending positions of the candidates for query terms: the entries carrying a term
that contains one of them. -/
def SearchIndex.candidates (index : SearchIndex) (queryTerms : List String) : List Nat :=
  index.postings.foldl (fun acc (term, positions) =>
    if queryTerms.any (fun queryTerm => Text.occursIn queryTerm term)
    then mergePositions acc positions else acc) []

/-- The entries at the given positions. -/
def SearchIndex.entriesAt (index : SearchIndex) (positions : List Nat) : List Entry :=
  positions.filterMap fun position => index.entries[position]?

/-- Rank the entries for a query within a project scope, cut to the limit. Nothing is
checked for cancellation when the query has no terms or no candidates. -/
def SearchIndex.query (index : SearchIndex) (halt : Halt) (query : String)
    (scope : Option String) (limit : Option Int) : Except Failure (List Result) :=
  let terms := queryTerms query
  if terms.isEmpty then .ok []
  else
    let positions := index.candidates terms
    if positions.isEmpty then .ok []
    else do
      checkpoint halt
      pure (truncate limit (rankHits query ((index.entriesAt positions).filter (inScope scope))))

end DocIndex.Search
