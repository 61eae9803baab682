import Mathlib.Algebra.BigOperators.Fin
import Mathlib.Data.List.NodupEquivFin
import Mathlib.Order.Bounds.Basic
import DocIndex.Search.Score

/-!
# The score is the best in-order alignment

An alignment pairs query terms with entry terms in order: the paired positions increase
strictly on both sides, and each query term occurs in the entry term it is paired with. A
pair earns `matchWeight`, and `exactBonus` more when the two terms are equal. The main
statement, `score_isGreatest_alignments`, says that `score` is the greatest weight of an
alignment; the empty alignment weighs nothing, so an empty side scores zero.

The proof reads an alignment as the list of the term pairs it makes (`Pairing`): their
query terms form a subsequence of the query terms, their entry terms one of the entry
terms. The table behind `score` holds, after a prefix of the query, the best weight of a
pairing of that prefix with each prefix of the entry terms (`nextRow_isGreatest`,
`finalRow_isGreatest`). The step is `Pairing.cases_append_singleton`: a pairing of two
longer prefixes leaves out the last query term, or the last entry term, or pairs the two.
-/

namespace DocIndex.Search

open DocIndex.Text

/-! ## Occurrence is the infix relation -/

theorem occursWithin_eq_true_iff (needle : List Char) :
    ∀ hay : List Char, occursWithin needle hay = true ↔ needle <:+: hay
  | [] => by simp [occursWithin, List.infix_nil]
  | c :: rest => by
    rw [occursWithin, Bool.or_eq_true, List.isPrefixOf_iff_prefix,
      occursWithin_eq_true_iff needle rest, List.infix_cons_iff]

theorem occursIn_eq_true_iff (needle hay : String) :
    occursIn needle hay = true ↔ needle.toList <:+: hay.toList :=
  occursWithin_eq_true_iff needle.toList hay.toList

/-! ## What an aligned pair earns -/

/-- What a query term earns aligned with an entry term it occurs in. -/
def termWeight (queryTerm entryTerm : String) : Nat :=
  matchWeight + if queryTerm = entryTerm then exactBonus else 0

/-- Two terms may be aligned exactly when the query term occurs in the entry term, and
then they earn `termWeight`. -/
theorem pairWeight_eq_some_iff {queryTerm entryTerm : String} {weight : Nat} :
    pairWeight queryTerm entryTerm = some weight ↔
      queryTerm.toList <:+: entryTerm.toList ∧ termWeight queryTerm entryTerm = weight := by
  by_cases same : queryTerm = entryTerm
  · subst same
    simp [pairWeight, termWeight]
  · cases occurs : occursIn queryTerm entryTerm with
    | true =>
      have inside := (occursIn_eq_true_iff queryTerm entryTerm).mp occurs
      simp [pairWeight, termWeight, same, occurs, inside]
    | false =>
      have apart : ¬ queryTerm.toList <:+: entryTerm.toList := by
        rw [← occursIn_eq_true_iff, occurs]
        exact Bool.false_ne_true
      simp [pairWeight, same, occurs, apart]

theorem pairWeight_eq_none_iff {queryTerm entryTerm : String} :
    pairWeight queryTerm entryTerm = none ↔ ¬ queryTerm.toList <:+: entryTerm.toList := by
  cases aligned : pairWeight queryTerm entryTerm with
  | none =>
    simp only [true_iff]
    intro inside
    have := pairWeight_eq_some_iff.mpr ⟨inside, rfl⟩
    rw [aligned] at this
    cases this
  | some weight =>
    simp only [reduceCtorEq, false_iff, not_not]
    exact (pairWeight_eq_some_iff.mp aligned).1

/-! ## Alignments -/

/-- An in-order alignment of query terms with entry terms: `size` pairs of positions,
strictly increasing on both sides, each query term occurring in the entry term it is
paired with. -/
structure Alignment (queryTerms entryTerms : List String) where
  size : Nat
  queryAt : Fin size → Fin queryTerms.length
  entryAt : Fin size → Fin entryTerms.length
  queryAt_strictMono : StrictMono queryAt
  entryAt_strictMono : StrictMono entryAt
  occurs : ∀ t, queryTerms[queryAt t].toList <:+: entryTerms[entryAt t].toList

/-- What an alignment earns: each pair its term weight. -/
def Alignment.weight {queryTerms entryTerms : List String}
    (alignment : Alignment queryTerms entryTerms) : Nat :=
  ∑ t, termWeight queryTerms[alignment.queryAt t] entryTerms[alignment.entryAt t]

/-! ## Pairings -/

/-- Aligned term pairs, in order: their query terms form a subsequence of the query terms,
their entry terms a subsequence of the entry terms, and each query term occurs in its entry
term. -/
structure Pairing (queryTerms entryTerms : List String) (pairs : List (String × String)) :
    Prop where
  query_sublist : (pairs.map Prod.fst).Sublist queryTerms
  entry_sublist : (pairs.map Prod.snd).Sublist entryTerms
  occurs : ∀ pair ∈ pairs, pair.1.toList <:+: pair.2.toList

/-- What aligned term pairs earn. -/
def pairsWeight (pairs : List (String × String)) : Nat :=
  (pairs.map fun pair => termWeight pair.1 pair.2).sum

/-- The weights of the pairings of query terms with entry terms. -/
def pairingWeights (queryTerms entryTerms : List String) : Set Nat :=
  {weight | ∃ pairs, Pairing queryTerms entryTerms pairs ∧ pairsWeight pairs = weight}

theorem pairsWeight_append_singleton (pairs : List (String × String))
    (queryTerm entryTerm : String) :
    pairsWeight (pairs ++ [(queryTerm, entryTerm)]) =
      pairsWeight pairs + termWeight queryTerm entryTerm := by
  simp [pairsWeight]

variable {queryTerms entryTerms : List String} {pairs : List (String × String)}

theorem Pairing.nil (queryTerms entryTerms : List String) : Pairing queryTerms entryTerms [] :=
  ⟨List.nil_sublist _, List.nil_sublist _, fun _ member => by cases member⟩

theorem Pairing.mono (pairing : Pairing queryTerms entryTerms pairs)
    {moreQuery moreEntry : List String} (querySub : queryTerms.Sublist moreQuery)
    (entrySub : entryTerms.Sublist moreEntry) :
    Pairing moreQuery moreEntry pairs :=
  ⟨pairing.query_sublist.trans querySub, pairing.entry_sublist.trans entrySub, pairing.occurs⟩

theorem Pairing.append_singleton (pairing : Pairing queryTerms entryTerms pairs)
    {queryTerm entryTerm : String} (inside : queryTerm.toList <:+: entryTerm.toList) :
    Pairing (queryTerms ++ [queryTerm]) (entryTerms ++ [entryTerm])
      (pairs ++ [(queryTerm, entryTerm)]) := by
  refine ⟨?_, ?_, ?_⟩
  · simpa using pairing.query_sublist.append (List.Sublist.refl [queryTerm])
  · simpa using pairing.entry_sublist.append (List.Sublist.refl [entryTerm])
  · intro pair member
    rcases List.mem_append.mp member with earlier | last
    · exact pairing.occurs pair earlier
    · rw [List.mem_singleton.mp last]
      exact inside

theorem Pairing.eq_nil_of_entry_nil (pairing : Pairing queryTerms [] pairs) : pairs = [] :=
  List.map_eq_nil_iff.mp (List.sublist_nil.mp pairing.entry_sublist)

theorem Pairing.eq_nil_of_query_nil (pairing : Pairing [] entryTerms pairs) : pairs = [] :=
  List.map_eq_nil_iff.mp (List.sublist_nil.mp pairing.query_sublist)

/-- A subsequence of a list with one more last element leaves it out or ends with it. -/
theorem sublist_append_singleton_iff {α : Type} {sub whole : List α} {last : α} :
    sub.Sublist (whole ++ [last]) ↔
      sub.Sublist whole ∨ ∃ init, sub = init ++ [last] ∧ init.Sublist whole := by
  rw [List.sublist_append_iff]
  constructor
  · rintro ⟨front, back, rfl, frontSub, backSub⟩
    rcases List.sublist_singleton.mp backSub with rfl | rfl
    · exact .inl (by simpa using frontSub)
    · exact .inr ⟨front, rfl, frontSub⟩
  · rintro (short | ⟨init, rfl, initSub⟩)
    · exact ⟨sub, [], by simp, short, List.nil_sublist _⟩
    · exact ⟨init, [last], rfl, initSub, List.Sublist.refl _⟩

/-- A pairing of two prefixes, each one term longer, leaves out the last query term, or
the last entry term, or ends by pairing the two. -/
theorem Pairing.cases_append_singleton {queryTerm entryTerm : String}
    (pairing : Pairing (queryTerms ++ [queryTerm]) (entryTerms ++ [entryTerm]) pairs) :
    Pairing (queryTerms ++ [queryTerm]) entryTerms pairs ∨
      Pairing queryTerms (entryTerms ++ [entryTerm]) pairs ∨
      ∃ init, pairs = init ++ [(queryTerm, entryTerm)] ∧ Pairing queryTerms entryTerms init ∧
        queryTerm.toList <:+: entryTerm.toList := by
  obtain ⟨querySub, entrySub, occurs⟩ := pairing
  rcases sublist_append_singleton_iff.mp querySub with
    queryShort | ⟨queryInit, queryEq, queryInitSub⟩
  · exact .inr (.inl ⟨queryShort, entrySub, occurs⟩)
  rcases sublist_append_singleton_iff.mp entrySub with
    entryShort | ⟨entryInit, entryEq, entryInitSub⟩
  · exact .inl ⟨querySub, entryShort, occurs⟩
  rcases List.eq_nil_or_concat pairs with rfl | ⟨init, ⟨lastQuery, lastEntry⟩, rfl⟩
  · simp at queryEq
  simp only [List.concat_eq_append] at queryEq entryEq occurs ⊢
  simp only [List.map_append, List.map_cons, List.map_nil] at queryEq entryEq
  obtain ⟨queryInitEq, sameQuery⟩ := List.append_inj' queryEq rfl
  obtain ⟨entryInitEq, sameEntry⟩ := List.append_inj' entryEq rfl
  obtain rfl : lastQuery = queryTerm := by simpa using sameQuery
  obtain rfl : lastEntry = entryTerm := by simpa using sameEntry
  refine .inr (.inr ⟨init, rfl,
    ⟨queryInitEq ▸ queryInitSub, entryInitEq ▸ entryInitSub, ?_⟩, ?_⟩)
  · exact fun pair member => occurs pair (List.mem_append_left _ member)
  · exact occurs (lastQuery, lastEntry) (by simp)

/-! ## The best pairing of two prefixes -/

theorem pairingWeights_mono {moreQuery moreEntry : List String}
    (querySub : queryTerms.Sublist moreQuery) (entrySub : entryTerms.Sublist moreEntry) :
    pairingWeights queryTerms entryTerms ⊆ pairingWeights moreQuery moreEntry := by
  rintro weight ⟨pairs, pairing, rfl⟩
  exact ⟨pairs, pairing.mono querySub entrySub, rfl⟩

theorem isGreatest_pairingWeights_nil_right (queryTerms : List String) :
    IsGreatest (pairingWeights queryTerms []) 0 := by
  refine ⟨⟨[], Pairing.nil _ _, rfl⟩, ?_⟩
  rintro weight ⟨pairs, pairing, rfl⟩
  rw [pairing.eq_nil_of_entry_nil]
  exact Nat.le_refl 0

theorem isGreatest_pairingWeights_nil_left (entryTerms : List String) :
    IsGreatest (pairingWeights [] entryTerms) 0 := by
  refine ⟨⟨[], Pairing.nil _ _, rfl⟩, ?_⟩
  rintro weight ⟨pairs, pairing, rfl⟩
  rw [pairing.eq_nil_of_query_nil]
  exact Nat.le_refl 0

/-- The weight of a pairing of two longer prefixes is one of a pairing without the last
query term, one without the last entry term, or one of the shorter prefixes plus what the
last two terms earn. -/
theorem mem_pairingWeights_append_singleton {queryTerm entryTerm : String} {weight : Nat}
    (member : weight ∈ pairingWeights (queryTerms ++ [queryTerm]) (entryTerms ++ [entryTerm])) :
    weight ∈ pairingWeights (queryTerms ++ [queryTerm]) entryTerms ∨
      weight ∈ pairingWeights queryTerms (entryTerms ++ [entryTerm]) ∨
      ∃ before ∈ pairingWeights queryTerms entryTerms,
        queryTerm.toList <:+: entryTerm.toList ∧
          weight = before + termWeight queryTerm entryTerm := by
  obtain ⟨pairs, pairing, rfl⟩ := member
  rcases pairing.cases_append_singleton with
    noEntry | noQuery | ⟨init, rfl, initPairing, inside⟩
  · exact .inl ⟨pairs, noEntry, rfl⟩
  · exact .inr (.inl ⟨pairs, noQuery, rfl⟩)
  · exact .inr (.inr ⟨_, ⟨init, initPairing, rfl⟩, inside,
      pairsWeight_append_singleton _ _ _⟩)

section Cell

variable {queryTerm entryTerm : String} {diagonal up left : Nat}

/-- Leaving out the last query term, or the last entry term, gives a pairing of the two
longer prefixes. -/
theorem max_mem_pairingWeights
    (upIn : up ∈ pairingWeights queryTerms (entryTerms ++ [entryTerm]))
    (leftIn : left ∈ pairingWeights (queryTerms ++ [queryTerm]) entryTerms) :
    max left up ∈ pairingWeights (queryTerms ++ [queryTerm]) (entryTerms ++ [entryTerm]) := by
  rcases max_choice left up with chosen | chosen <;> rw [chosen]
  · exact pairingWeights_mono (List.Sublist.refl _) (List.sublist_append_left _ _) leftIn
  · exact pairingWeights_mono (List.sublist_append_left _ _) (List.Sublist.refl _) upIn

/-- When the last two terms may be aligned, the best pairing of the two longer prefixes is
the best of leaving out the last query term, leaving out the last entry term, and pairing
the two after the best pairing of the shorter prefixes. -/
theorem isGreatest_cell_of_aligned {weight : Nat}
    (aligned : pairWeight queryTerm entryTerm = some weight)
    (diagonalBest : IsGreatest (pairingWeights queryTerms entryTerms) diagonal)
    (upBest : IsGreatest (pairingWeights queryTerms (entryTerms ++ [entryTerm])) up)
    (leftBest : IsGreatest (pairingWeights (queryTerms ++ [queryTerm]) entryTerms) left) :
    IsGreatest (pairingWeights (queryTerms ++ [queryTerm]) (entryTerms ++ [entryTerm]))
      (max (max left up) (diagonal + weight)) := by
  obtain ⟨inside, rfl⟩ := pairWeight_eq_some_iff.mp aligned
  have diagonalIn : diagonal + termWeight queryTerm entryTerm ∈
      pairingWeights (queryTerms ++ [queryTerm]) (entryTerms ++ [entryTerm]) := by
    obtain ⟨pairs, pairing, sum⟩ := diagonalBest.1
    exact ⟨_, pairing.append_singleton inside, by rw [pairsWeight_append_singleton, sum]⟩
  refine ⟨?_, fun other member => ?_⟩
  · rcases max_choice (max left up) (diagonal + termWeight queryTerm entryTerm) with
      chosen | chosen
    · rw [chosen]
      exact max_mem_pairingWeights upBest.1 leftBest.1
    · rw [chosen]
      exact diagonalIn
  · rcases mem_pairingWeights_append_singleton member with
      noEntry | noQuery | ⟨before, beforeIn, -, rfl⟩
    · exact le_max_of_le_left (le_max_of_le_left (leftBest.2 noEntry))
    · exact le_max_of_le_left (le_max_of_le_right (upBest.2 noQuery))
    · exact le_max_of_le_right (Nat.add_le_add_right (diagonalBest.2 beforeIn) _)

/-- When the last two terms may not be aligned, the best pairing of the two longer prefixes
leaves out the last query term or the last entry term. -/
theorem isGreatest_cell_of_unaligned
    (unaligned : pairWeight queryTerm entryTerm = none)
    (upBest : IsGreatest (pairingWeights queryTerms (entryTerms ++ [entryTerm])) up)
    (leftBest : IsGreatest (pairingWeights (queryTerms ++ [queryTerm]) entryTerms) left) :
    IsGreatest (pairingWeights (queryTerms ++ [queryTerm]) (entryTerms ++ [entryTerm]))
      (max left up) := by
  refine ⟨max_mem_pairingWeights upBest.1 leftBest.1, fun other member => ?_⟩
  rcases mem_pairingWeights_append_singleton member with noEntry | noQuery | ⟨_, _, inside, -⟩
  · exact le_max_of_le_left (leftBest.2 noEntry)
  · exact le_max_of_le_right (upBest.2 noQuery)
  · exact absurd inside (pairWeight_eq_none_iff.mp unaligned)

end Cell

/-! ## The table holds the best pairings of prefixes -/

/-- The prefixes of `done ++ rest` longer than `done`, shortest first: the columns a row
computes after the columns of `done`. -/
def columns (done : List String) : List String → List (List String)
  | [] => []
  | entryTerm :: rest => (done ++ [entryTerm]) :: columns (done ++ [entryTerm]) rest

theorem getLastD_columns :
    ∀ (done rest : List String), (columns done rest).getLastD done = done ++ rest
  | done, [] => by simp [columns]
  | done, entryTerm :: rest => by
    rw [columns, List.getLastD_cons, getLastD_columns (done ++ [entryTerm]) rest]
    simp

/-- A row holds, for every column, the best weight of a pairing of `queryTerms` with it. -/
def BestRow (queryTerms : List String) (row : List Nat) (prefixes : List (List String)) : Prop :=
  List.Forall₂ (fun cell entryPrefix => IsGreatest (pairingWeights queryTerms entryPrefix) cell)
    row prefixes

theorem BestRow.getLastD {row : List Nat} {prefixes : List (List String)}
    (best : BestRow queryTerms row prefixes) {cell : Nat} {entryPrefix : List String}
    (cellBest : IsGreatest (pairingWeights queryTerms entryPrefix) cell) :
    IsGreatest (pairingWeights queryTerms (prefixes.getLastD entryPrefix)) (row.getLastD cell) := by
  induction best generalizing cell entryPrefix with
  | nil => exact cellBest
  | cons headBest _ ih =>
    rw [List.getLastD_cons, List.getLastD_cons]
    exact ih headBest

/-- The first row: with no query terms every column scores zero. -/
theorem bestRow_zeros : ∀ (done rest : List String),
    BestRow [] (rest.map fun _ => 0) (columns done rest)
  | _, [] => List.Forall₂.nil
  | done, entryTerm :: rest =>
    List.Forall₂.cons (isGreatest_pairingWeights_nil_left _)
      (bestRow_zeros (done ++ [entryTerm]) rest)

/-- One more query term: from the best pairings of the shorter query, `nextRow` computes
the best pairings of the longer one, column by column. `diagonal` and `left` are the cells
of the last column done, in the row above and in this row. -/
theorem nextRow_isGreatest (queryTerm : String) (queryTerms : List String) :
    ∀ (done rest : List String) (above : List Nat) (diagonal left : Nat),
      BestRow queryTerms above (columns done rest) →
      IsGreatest (pairingWeights queryTerms done) diagonal →
      IsGreatest (pairingWeights (queryTerms ++ [queryTerm]) done) left →
      BestRow (queryTerms ++ [queryTerm]) (nextRow queryTerm rest above diagonal left)
        (columns done rest)
  | done, [], above, _, _, aboveBest, _, _ => by
    cases aboveBest
    exact List.Forall₂.nil
  | done, entryTerm :: rest, [], _, _, aboveBest, _, _ => by
    cases aboveBest
  | done, entryTerm :: rest, up :: aboveRest, diagonal, left, aboveBest, diagonalBest,
      leftBest => by
    obtain ⟨upBest, restBest⟩ := List.forall₂_cons.mp aboveBest
    obtain ⟨best, row, bestBest⟩ : ∃ best,
        nextRow queryTerm (entryTerm :: rest) (up :: aboveRest) diagonal left =
          best :: nextRow queryTerm rest aboveRest up best ∧
        IsGreatest (pairingWeights (queryTerms ++ [queryTerm]) (done ++ [entryTerm])) best := by
      refine ⟨_, rfl, ?_⟩
      split
      · exact isGreatest_cell_of_aligned ‹_› diagonalBest upBest leftBest
      · exact isGreatest_cell_of_unaligned ‹_› upBest leftBest
    rw [row, columns]
    exact List.Forall₂.cons bestBest
      (nextRow_isGreatest queryTerm queryTerms (done ++ [entryTerm]) rest aboveRest up best
        restBest upBest bestBest)

/-- After more query terms, `finalRow` holds the best pairings of all of them. -/
theorem finalRow_isGreatest (entryTerms : List String) :
    ∀ (done rest : List String) (row : List Nat),
      BestRow done row (columns [] entryTerms) →
      BestRow (done ++ rest) (finalRow entryTerms rest row) (columns [] entryTerms)
  | done, [], row, rowBest => by simpa [finalRow] using rowBest
  | done, queryTerm :: rest, row, rowBest => by
    rw [finalRow]
    have next := nextRow_isGreatest queryTerm done [] entryTerms row 0 0 rowBest
      (isGreatest_pairingWeights_nil_right done) (isGreatest_pairingWeights_nil_right _)
    simpa using finalRow_isGreatest entryTerms (done ++ [queryTerm]) rest _ next

/-- The score is the best weight of a pairing. -/
theorem score_isGreatest_pairingWeights (queryTerms entryTerms : List String) :
    IsGreatest (pairingWeights queryTerms entryTerms) (score queryTerms entryTerms) := by
  have table := finalRow_isGreatest entryTerms [] queryTerms _ (bestRow_zeros [] entryTerms)
  have last := table.getLastD (isGreatest_pairingWeights_nil_right queryTerms)
  rw [getLastD_columns, List.nil_append, List.nil_append] at last
  exact last

/-! ## Alignments are pairings -/

/-- The items at strictly increasing positions of a list form a subsequence of it. -/
theorem ofFn_getElem_sublist {α : Type} (items : List α) {size : Nat}
    (positions : Fin size → Fin items.length) (ascending : StrictMono positions) :
    (List.ofFn fun t => items[positions t]).Sublist items := by
  rw [List.sublist_iff_exists_fin_orderEmbedding_get_eq]
  refine ⟨(Fin.castOrderIso List.length_ofFn).toOrderEmbedding.trans
    (OrderEmbedding.ofStrictMono positions ascending), fun ix => ?_⟩
  simp only [List.get_eq_getElem, List.getElem_ofFn, RelEmbedding.coe_trans, Function.comp_apply,
    OrderIso.coe_toOrderEmbedding, Fin.castOrderIso_apply, OrderEmbedding.coe_ofStrictMono]
  rfl

/-- The term pairs an alignment makes, in order. -/
def Alignment.termPairs (alignment : Alignment queryTerms entryTerms) : List (String × String) :=
  List.ofFn fun t => (queryTerms[alignment.queryAt t], entryTerms[alignment.entryAt t])

theorem Alignment.pairing (alignment : Alignment queryTerms entryTerms) :
    Pairing queryTerms entryTerms alignment.termPairs where
  query_sublist := by
    rw [Alignment.termPairs, List.map_ofFn]
    exact ofFn_getElem_sublist queryTerms alignment.queryAt alignment.queryAt_strictMono
  entry_sublist := by
    rw [Alignment.termPairs, List.map_ofFn]
    exact ofFn_getElem_sublist entryTerms alignment.entryAt alignment.entryAt_strictMono
  occurs := by
    intro pair member
    obtain ⟨t, rfl⟩ := List.mem_ofFn.mp member
    exact alignment.occurs t

theorem Alignment.weight_eq_pairsWeight (alignment : Alignment queryTerms entryTerms) :
    alignment.weight = pairsWeight alignment.termPairs := by
  rw [Alignment.weight, pairsWeight, Alignment.termPairs, List.map_ofFn, List.sum_ofFn]
  rfl

/-- The positions where the terms of a pairing stand make an alignment of the same
weight. -/
theorem Pairing.exists_alignment (pairing : Pairing queryTerms entryTerms pairs) :
    ∃ alignment : Alignment queryTerms entryTerms, alignment.weight = pairsWeight pairs := by
  obtain ⟨queryEmbedding, queryGet⟩ :=
    List.sublist_iff_exists_fin_orderEmbedding_get_eq.mp pairing.query_sublist
  obtain ⟨entryEmbedding, entryGet⟩ :=
    List.sublist_iff_exists_fin_orderEmbedding_get_eq.mp pairing.entry_sublist
  have queryLength : pairs.length = (pairs.map Prod.fst).length := (List.length_map _).symm
  have entryLength : pairs.length = (pairs.map Prod.snd).length := (List.length_map _).symm
  have queryAt : ∀ t : Fin pairs.length,
      queryTerms[queryEmbedding (Fin.cast queryLength t)] = pairs[t].1 := by
    intro t
    have := queryGet (Fin.cast queryLength t)
    simp only [List.get_eq_getElem, Fin.val_cast, List.getElem_map] at this
    exact this.symm
  have entryAt : ∀ t : Fin pairs.length,
      entryTerms[entryEmbedding (Fin.cast entryLength t)] = pairs[t].2 := by
    intro t
    have := entryGet (Fin.cast entryLength t)
    simp only [List.get_eq_getElem, Fin.val_cast, List.getElem_map] at this
    exact this.symm
  refine ⟨{
    size := pairs.length
    queryAt := fun t => queryEmbedding (Fin.cast queryLength t)
    entryAt := fun t => entryEmbedding (Fin.cast entryLength t)
    queryAt_strictMono := queryEmbedding.strictMono.comp (Fin.cast_strictMono queryLength)
    entryAt_strictMono := entryEmbedding.strictMono.comp (Fin.cast_strictMono entryLength)
    occurs := fun t => by
      rw [queryAt t, entryAt t]
      exact pairing.occurs pairs[t] (List.getElem_mem _) }, ?_⟩
  simp only [Alignment.weight, queryAt, entryAt, pairsWeight]
  exact Fin.sum_univ_fun_getElem pairs fun pair => termWeight pair.1 pair.2

/-- The weights of the pairings are the weights of the alignments. -/
theorem pairingWeights_eq_range (queryTerms entryTerms : List String) :
    pairingWeights queryTerms entryTerms =
      Set.range fun alignment : Alignment queryTerms entryTerms => alignment.weight := by
  ext weight
  constructor
  · rintro ⟨pairs, pairing, rfl⟩
    exact pairing.exists_alignment
  · rintro ⟨alignment, rfl⟩
    exact ⟨alignment.termPairs, alignment.pairing, alignment.weight_eq_pairsWeight.symm⟩

/-! ## The score -/

/-- The score of query terms against entry terms is the greatest weight of an in-order
alignment; with no query terms or no entry terms it is zero. -/
theorem score_isGreatest_alignments (queryTerms entryTerms : List String) :
    IsGreatest (Set.range fun alignment : Alignment queryTerms entryTerms => alignment.weight)
        (score queryTerms entryTerms) ∧
      (queryTerms = [] ∨ entryTerms = [] → score queryTerms entryTerms = 0) := by
  refine ⟨pairingWeights_eq_range queryTerms entryTerms ▸
    score_isGreatest_pairingWeights queryTerms entryTerms, ?_⟩
  rintro (rfl | rfl)
  · exact (score_isGreatest_pairingWeights [] entryTerms).unique
      (isGreatest_pairingWeights_nil_left entryTerms)
  · exact (score_isGreatest_pairingWeights queryTerms []).unique
      (isGreatest_pairingWeights_nil_right queryTerms)

end DocIndex.Search
