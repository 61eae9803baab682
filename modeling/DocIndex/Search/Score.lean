import DocIndex.Text.Basic

/-!
# Alignment score

A query's terms are aligned with an entry's terms in order: each aligned pair earns
`matchWeight` when the query term occurs in the entry term, and `exactBonus` more when the
two are equal. `score` is the best total over all in-order alignments, computed row by row
over the query terms; an empty side scores zero. Scores are whole numbers.
-/

namespace DocIndex.Search

open DocIndex.Text

/-- What aligning a query term with an entry term earns. -/
def matchWeight : Nat := 10

/-- What an exact match earns on top of `matchWeight`. -/
def exactBonus : Nat := 5

/-- What a result earns when the query names its project. -/
def projectBonus : Nat := 3

/-- What aligning one query term with one entry term earns, if they may be aligned. -/
def pairWeight (queryTerm entryTerm : String) : Option Nat :=
  if queryTerm = entryTerm then some (matchWeight + exactBonus)
  else if occursIn queryTerm entryTerm then some matchWeight
  else none

/--
One row of the alignment table. `above` is the previous row from the current column on,
`diagonal` the previous row's value one column to the left and `left` the value just
computed in this row; the result is this row from the current column on.
-/
def nextRow (queryTerm : String) : List String → List Nat → Nat → Nat → List Nat
  | entryTerm :: entryRest, up :: aboveRest, diagonal, left =>
    let carried := max left up
    let best := match pairWeight queryTerm entryTerm with
      | some weight => max carried (diagonal + weight)
      | none => carried
    best :: nextRow queryTerm entryRest aboveRest up best
  | _, _, _, _ => []

/-- The alignment table's last row after the given query terms, starting from `row`, the
row of the terms before them (without its leading zero). -/
def finalRow (entryTerms : List String) : List String → List Nat → List Nat
  | [], row => row
  | queryTerm :: rest, row => finalRow entryTerms rest (nextRow queryTerm entryTerms row 0 0)

/-- The best in-order alignment score of query terms against entry terms. -/
def score (queryTerms entryTerms : List String) : Nat :=
  (finalRow entryTerms queryTerms (entryTerms.map fun _ => 0)).getLastD 0

end DocIndex.Search
