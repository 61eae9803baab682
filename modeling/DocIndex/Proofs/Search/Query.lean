import DocIndex.Proofs.Search.Postings
import Mathlib.Data.List.Basic
import Mathlib.Data.List.Sort

/-!
# The inverted index ranks like an exhaustive scan

A query scores only its candidates, the entries carrying a term that contains a query term.
An entry with no such term has nothing to align and scores zero, so it could never rank:
ranking the candidates gives exactly the ranking of every entry (`rankAll`), with ties in
entry order, since the candidates are visited in ascending position.
-/

namespace DocIndex.Search

open DocIndex.Text

/-! ## Entries without a matching term score zero -/

/-- A text occurs in itself. -/
@[simp]
theorem occursIn_self (text : String) : occursIn text text = true := by
  unfold occursIn
  cases text.toList with
  | nil => rfl
  | cons c rest => simp [occursWithin]

/-- Terms may be aligned only when the query term occurs in the entry term. -/
theorem pairWeight_eq_none
    {queryTerm entryTerm : String}
    (absent : occursIn queryTerm entryTerm = false) :
    pairWeight queryTerm entryTerm = none := by
  have distinct : queryTerm ≠ entryTerm := by
    rintro rfl
    simp at absent
  simp [pairWeight, distinct, absent]

/-- With nothing to align, a row computed from zeros is zeros. -/
theorem nextRow_zero
    {queryTerm : String} {entryTerms : List String} {above : List Nat}
    {diagonal left : Nat}
    (unaligned : ∀ entryTerm ∈ entryTerms, pairWeight queryTerm entryTerm = none)
    (aboveZero : ∀ value ∈ above, value = 0)
    (diagonalZero : diagonal = 0) (leftZero : left = 0) :
    ∀ value ∈ nextRow queryTerm entryTerms above diagonal left, value = 0 := by
  fun_induction nextRow queryTerm entryTerms above diagonal left with
  | case1 entryTerm entryRest up aboveRest diagonal left carried best ih =>
    have upZero := aboveZero up (by simp)
    have weight := unaligned entryTerm (by simp)
    have bestZero : best = 0 := by
      simp only [best, carried, weight, upZero, leftZero, Nat.max_self]
    intro value member
    rcases List.mem_cons.mp member with rfl | later
    · exact bestZero
    · exact ih (fun other inRest => unaligned other (by simp [inRest]))
        (fun other inRest => aboveZero other (by simp [inRest])) upZero bestZero value later
  | case2 => simp

/-- With nothing to align, every later row of zeros is zeros. -/
theorem finalRow_zero
    {entryTerms : List String} :
    ∀ (queryTerms : List String) (row : List Nat),
      (∀ queryTerm ∈ queryTerms, ∀ entryTerm ∈ entryTerms,
        pairWeight queryTerm entryTerm = none) →
      (∀ value ∈ row, value = 0) →
      ∀ value ∈ finalRow entryTerms queryTerms row, value = 0
  | [], _, _, rowZero => rowZero
  | queryTerm :: rest, row, unaligned, rowZero =>
    finalRow_zero rest _ (fun other inRest => unaligned other (by simp [inRest]))
      (nextRow_zero (unaligned queryTerm (by simp)) rowZero rfl rfl)

/-- An entry none of whose terms contains a query term scores zero. -/
theorem score_eq_zero_of_unmatched
    {queryTerms entryTerms : List String}
    (unmatched : ∀ entryTerm ∈ entryTerms,
      queryTerms.any (fun queryTerm => occursIn queryTerm entryTerm) = false) :
    score queryTerms entryTerms = 0 := by
  have unaligned : ∀ queryTerm ∈ queryTerms, ∀ entryTerm ∈ entryTerms,
      pairWeight queryTerm entryTerm = none := by
    intro queryTerm queryMember entryTerm entryMember
    apply pairWeight_eq_none
    have := unmatched entryTerm entryMember
    simp only [List.any_eq_false] at this
    simpa using this queryTerm queryMember
  have zeros := finalRow_zero queryTerms (entryTerms.map fun _ => 0) unaligned (by simp)
  unfold score
  rw [List.getLastD_eq_getLast?]
  cases last : (finalRow entryTerms queryTerms (entryTerms.map fun _ => 0)).getLast? with
  | none => rfl
  | some value => exact zeros value (List.mem_of_getLast? last)

/-- An entry none of whose terms contains a query term makes no hit. -/
theorem hitOf_eq_none_of_unmatched
    {query : String} {entry : Entry}
    (unmatched : ∀ term ∈ entry.terms,
      (queryTerms query).any (fun queryTerm => occursIn queryTerm term) = false) :
    hitOf query entry = none := by
  simp [hitOf, score_eq_zero_of_unmatched unmatched]

/-- An entry that scores is a candidate: the candidates never drop a hit. -/
theorem mem_candidates_of_score_ne_zero
    {entries : List Entry} {generation position : Nat} {entry : Entry}
    {queryTerms : List String}
    (found : entries[position]? = some entry)
    (scores : score queryTerms entry.terms ≠ 0) :
    position ∈ (SearchIndex.build entries generation).candidates queryTerms := by
  refine (mem_candidates entries generation queryTerms position).mpr ⟨entry, found, ?_⟩
  by_contra unmatched
  simp only [not_exists, not_and, Bool.not_eq_true] at unmatched
  exact scores (score_eq_zero_of_unmatched unmatched)

/-! ## Candidates in order -/

/-- Reading a list at every position in order gives the list back. -/
theorem filterMap_getElem?_range {α : Type} :
    ∀ (items : List α),
      (List.range items.length).filterMap (fun position => items[position]?) = items
  | [] => rfl
  | first :: rest => by
    rw [List.length_cons, List.range_succ_eq_map, List.filterMap_cons, List.filterMap_map]
    simp only [List.getElem?_cons_zero, Function.comp_def, List.getElem?_cons_succ]
    rw [filterMap_getElem?_range rest]

/-- The candidates are the positions below the number of entries that are candidates, in
order. -/
theorem candidates_eq_filter_range
    (entries : List Entry) (generation : Nat) (queryTerms : List String) :
    (SearchIndex.build entries generation).candidates queryTerms =
      (List.range entries.length).filter
        (· ∈ (SearchIndex.build entries generation).candidates queryTerms) := by
  apply List.Pairwise.eq_of_mem_iff (r := (· < ·))
  · exact candidates_ascending entries generation queryTerms
  · exact List.pairwise_lt_range.filter _
  · intro position
    simp only [List.mem_filter, List.mem_range, decide_eq_true_eq, iff_and_self]
    intro member
    obtain ⟨entry, found, -⟩ :=
      (mem_candidates entries generation queryTerms position).mp member
    exact (List.getElem?_eq_some_iff.mp found).1

/-- Picking from the candidates what is picked only from entries with a matching term
picks the same as picking from every entry, in the same order. -/
theorem filterMap_entriesAt_candidates
    (entries : List Entry) (generation : Nat) (queryTerms : List String)
    (pick : Entry → Option Hit)
    (picksMatched : ∀ entry, (∀ term ∈ entry.terms,
      queryTerms.any (fun queryTerm => occursIn queryTerm term) = false) → pick entry = none) :
    ((SearchIndex.build entries generation).entriesAt
        ((SearchIndex.build entries generation).candidates queryTerms)).filterMap pick =
      entries.filterMap pick := by
  set index := SearchIndex.build entries generation with indexDef
  have skipped : ∀ position ∈ List.range entries.length,
      (if decide (position ∈ index.candidates queryTerms) then
        (entries[position]?).bind pick else none) = (entries[position]?).bind pick := by
    intro position _
    by_cases member : position ∈ index.candidates queryTerms
    · simp [member]
    · cases found : entries[position]? with
      | none => simp
      | some entry =>
        have unmatched : ∀ term ∈ entry.terms,
            queryTerms.any (fun queryTerm => occursIn queryTerm term) = false := by
          intro term carried
          by_contra matched
          exact member ((mem_candidates entries generation queryTerms position).mpr
            ⟨entry, found, term, carried, by simpa using matched⟩)
        simp [member, picksMatched entry unmatched]
  calc (index.entriesAt (index.candidates queryTerms)).filterMap pick
      = ((List.range entries.length).filter (· ∈ index.candidates queryTerms)).filterMap
          (fun position => (entries[position]?).bind pick) := by
        rw [SearchIndex.entriesAt, List.filterMap_filterMap, indexDef,
          ← candidates_eq_filter_range]
        rfl
    _ = (List.range entries.length).filterMap (fun position => (entries[position]?).bind pick) := by
        rw [List.filterMap_filter]
        exact List.filterMap_congr skipped
    _ = entries.filterMap pick := by
        rw [← List.filterMap_filterMap, filterMap_getElem?_range]

/-! ## The fast path agrees with ranking everything -/

@[simp]
theorem sortHits_nil : sortHits [] = [] := by
  simp [sortHits]

@[simp]
theorem truncate_nil {α : Type} (limit : Option Int) : truncate limit ([] : List α) = [] := by
  cases limit <;> simp [truncate]

/-- Ranking the candidates of a search index in scope gives the ranking of every entry in
scope: the inverted index drops no hit, counts none twice and keeps ties in entry order. -/
theorem SearchIndex.query_eq_rankAll
    (entries : List Entry) (generation : Nat) (query : String) (scope : Option String)
    (limit : Option Int) :
    (SearchIndex.build entries generation).query none query scope limit =
      .ok (rankAll entries query scope limit) := by
  have fastPath := filterMap_entriesAt_candidates entries generation (queryTerms query)
    (fun entry => if inScope scope entry then hitOf query entry else none)
    (fun entry unmatched => by simp [hitOf_eq_none_of_unmatched unmatched])
  simp only [← List.filterMap_filter] at fastPath
  unfold SearchIndex.query rankAll rankHits
  by_cases noTerms : (queryTerms query).isEmpty
  · simp [noTerms]
  · simp only [noTerms, Bool.false_eq_true, if_false]
    by_cases noCandidates :
        ((SearchIndex.build entries generation).candidates (queryTerms query)).isEmpty
    · -- no candidate means no hit at all
      have noHits : (entries.filter (inScope scope)).filterMap (hitOf query) = [] := by
        rw [← fastPath, List.isEmpty_iff.mp noCandidates]
        rfl
      simp [noCandidates, noHits]
    · simp [noCandidates, checkpoint, fastPath]

end DocIndex.Search
