import DocIndex.Search.Entry
import DocIndex.Search.Score
import DocIndex.Text.Case
import DocIndex.Text.Basic

/-!
# Ranking

A query ranks entries by their alignment score. The query's terms are the terms of its
tokens; an entry whose score is positive is a hit, and earns `projectBonus` more when the
query names its project. Hits are ordered by descending score, then ascending depth, path,
project, language, page path and section path; texts compare by code point and the sort is
stable, so equal keys keep the entries' order. A limit keeps the first `max limit 0` results.

`rankAll` is that ranking over every entry: the definition the fast search is measured by.
-/

namespace DocIndex.Search

open DocIndex.Text

/-- A ranked match. -/
structure Result where
  project : String
  language : String
  library : String
  pagePath : String
  sectionPath : List String
  label : String
  detail : String
  score : Nat
  searchKey : String
  deriving DecidableEq

/-- An entry with its score. -/
structure Hit where
  entry : Entry
  score : Nat

/-- The result a hit reports. -/
def Hit.result (hit : Hit) : Result :=
  { project := hit.entry.project, language := hit.entry.language,
    library := hit.entry.library, pagePath := hit.entry.pagePath,
    sectionPath := hit.entry.sectionPath, label := hit.entry.label,
    detail := hit.entry.detail, score := hit.score, searchKey := hit.entry.path }

/-- Texts compared by code point, a lone surrogate by its code unit. -/
def compareText (a b : String) : Ordering :=
  compare (a.toList.map codePoint) (b.toList.map codePoint)

/-- Lists of texts compared element by element; a proper prefix comes first. -/
def compareTexts : List String → List String → Ordering
  | [], [] => .eq
  | [], _ :: _ => .lt
  | _ :: _, [] => .gt
  | a :: rest, b :: others => (compareText a b).then (compareTexts rest others)

/-- The ranking order of hits: higher score first, then lower depth, then path, project,
language, page path and section path. -/
def compareHits (a b : Hit) : Ordering :=
  (compare b.score a.score).then <|
  (compare a.entry.depth b.entry.depth).then <|
  (compareText a.entry.path b.entry.path).then <|
  (compareText a.entry.project b.entry.project).then <|
  (compareText a.entry.language b.entry.language).then <|
  (compareText a.entry.pagePath b.entry.pagePath).then <|
  compareTexts a.entry.sectionPath b.entry.sectionPath

/-- Whether hit `a` may stand before hit `b`. -/
def hitBefore (a b : Hit) : Bool :=
  compareHits a b != .gt

/-- Hits in ranking order; equal keys keep their order. -/
def sortHits (hits : List Hit) : List Hit :=
  hits.mergeSort hitBefore

/-- The first `max limit 0` items, or all of them without a limit. -/
def truncate (limit : Option Int) (items : List α) : List α :=
  match limit with
  | none => items
  | some n => items.take n.toNat

/-- The terms of a query: the terms of its tokens. -/
def queryTerms (query : String) : List String :=
  terms (tokenize query)

/-- Whether a query names a project: the project's lower-case form is one of the query's
terms or one of the blank-separated words of the lower-cased query. -/
def namesProject (query : String) (project : String) : Bool :=
  let name := lower project
  (queryTerms query).contains name || (splitBlank (lower query)).contains name

/-- Whether an entry lies in the scope of a project filter. -/
def inScope (scope : Option String) (entry : Entry) : Bool :=
  match scope with
  | none => true
  | some project => entry.project == project

/-- The hit an entry makes for a query, if it scores at all. -/
def hitOf (query : String) (entry : Entry) : Option Hit :=
  let points := score (queryTerms query) entry.terms
  if points = 0 then none
  else some ⟨entry, if namesProject query entry.project then points + projectBonus else points⟩

/-- Rank the hits among entries for a query, as results. -/
def rankHits (query : String) (entries : List Entry) : List Result :=
  (sortHits (entries.filterMap (hitOf query))).map Hit.result

/-- The ranking of every entry in scope for a query, cut to the limit: nothing when the
query has no terms. -/
def rankAll (entries : List Entry) (query : String) (scope : Option String)
    (limit : Option Int) : List Result :=
  if (queryTerms query).isEmpty then []
  else truncate limit (rankHits query (entries.filter (inScope scope)))

end DocIndex.Search
