import Mathlib.Data.List.Induction
import DocIndex.Search.Score

/-!
# Bounds of the alignment score

Every aligned pair earns at most an exact match, `matchWeight + exactBonus`, and each query
term is aligned at most once, so no entry scores more than an exact match per query term
(`score_le`). The table's columns are computed left to right, each from the ones before it:
adding an entry term at the end leaves the earlier columns as they were, and the new last
cell is at least the old score plus what the two new last terms earn (`score_snoc`). Terms
aligned with themselves therefore reach the bound (`score_self`).
-/

namespace DocIndex.Search

/-! ## What a pair earns -/

/-- No pair earns more than an exact match. -/
theorem pairWeight_le {queryTerm entryTerm : String} {weight : Nat}
    (aligned : pairWeight queryTerm entryTerm = some weight) :
    weight ≤ matchWeight + exactBonus := by
  unfold pairWeight at aligned
  split at aligned
  · cases aligned
    exact Nat.le_refl _
  · split at aligned
    · cases aligned
      simp [matchWeight, exactBonus]
    · cases aligned

/-- A term aligned with itself earns an exact match. -/
@[simp]
theorem pairWeight_self (term : String) :
    pairWeight term term = some (matchWeight + exactBonus) := by
  simp [pairWeight]

/-! ## The upper bound -/

/-- A row exceeds the row above by at most one exact match. -/
theorem nextRow_le (queryTerm : String) {bound : Nat} :
    ∀ (entryTerms : List String) (above : List Nat) (diagonal left : Nat),
      (∀ value ∈ above, value ≤ bound) → diagonal ≤ bound →
        left ≤ bound + (matchWeight + exactBonus) →
        ∀ value ∈ nextRow queryTerm entryTerms above diagonal left,
          value ≤ bound + (matchWeight + exactBonus)
  | entryTerm :: entryRest, up :: aboveRest, diagonal, left, aboveBound, diagonalBound,
      leftBound => by
    have upBound : up ≤ bound := aboveBound up List.mem_cons_self
    obtain ⟨best, row, bestBound⟩ : ∃ best,
        nextRow queryTerm (entryTerm :: entryRest) (up :: aboveRest) diagonal left =
          best :: nextRow queryTerm entryRest aboveRest up best ∧
        best ≤ bound + (matchWeight + exactBonus) := by
      refine ⟨_, rfl, ?_⟩
      split
      · rename_i weight aligned
        have := pairWeight_le aligned
        rw [Nat.max_le, Nat.max_le]
        omega
      · rw [Nat.max_le]
        omega
    intro value member
    rw [row] at member
    rcases List.mem_cons.mp member with rfl | later
    · exact bestBound
    · exact nextRow_le queryTerm entryRest aboveRest up best
        (fun other inRest => aboveBound other (List.mem_cons_of_mem _ inRest)) upBound bestBound
        value later
  | [], _, _, _, _, _, _ => by simp [nextRow]
  | _ :: _, [], _, _, _, _, _ => by simp [nextRow]

/-- After some query terms, no cell exceeds its start by more than one exact match per
term. -/
theorem finalRow_le (entryTerms : List String) :
    ∀ (queryTerms : List String) (row : List Nat) (bound : Nat), (∀ value ∈ row, value ≤ bound) →
      ∀ value ∈ finalRow entryTerms queryTerms row,
        value ≤ bound + (matchWeight + exactBonus) * queryTerms.length
  | [], row, bound, rowBound => by simpa [finalRow] using rowBound
  | queryTerm :: rest, row, bound, rowBound => by
    intro value member
    have next := nextRow_le queryTerm entryTerms row 0 0 rowBound (Nat.zero_le _) (Nat.zero_le _)
    have := finalRow_le entryTerms rest _ _ next value member
    rw [List.length_cons, Nat.mul_succ]
    omega

/-- No entry scores more than an exact match per query term. -/
theorem score_le (queryTerms entryTerms : List String) :
    score queryTerms entryTerms ≤ (matchWeight + exactBonus) * queryTerms.length := by
  have bounded := finalRow_le entryTerms queryTerms (entryTerms.map fun _ => 0) 0 (by simp)
  unfold score
  rw [List.getLastD_eq_getLast?]
  cases last : (finalRow entryTerms queryTerms (entryTerms.map fun _ => 0)).getLast? with
  | none => exact Nat.zero_le _
  | some value => simpa using bounded value (List.mem_of_getLast? last)

/-! ## Columns are computed left to right -/

theorem length_nextRow (queryTerm : String) :
    ∀ (entryTerms : List String) (above : List Nat) (diagonal left : Nat),
      (nextRow queryTerm entryTerms above diagonal left).length =
        min entryTerms.length above.length
  | _ :: entryRest, _ :: aboveRest, _, _ => by
    simp [nextRow, length_nextRow queryTerm entryRest aboveRest, Nat.succ_min_succ]
  | [], _, _, _ => by simp [nextRow]
  | _ :: _, [], _, _ => by simp [nextRow]

/-- A row over more entry terms begins with the row over the first ones; the later columns
go on from the last cells of the earlier ones. -/
theorem nextRow_append (queryTerm : String) (more : List String) (moreAbove : List Nat) :
    ∀ (entryTerms : List String) (above : List Nat) (diagonal left : Nat),
      entryTerms.length = above.length →
      nextRow queryTerm (entryTerms ++ more) (above ++ moreAbove) diagonal left =
        nextRow queryTerm entryTerms above diagonal left ++
          nextRow queryTerm more moreAbove (above.getLastD diagonal)
            ((nextRow queryTerm entryTerms above diagonal left).getLastD left)
  | [], [], _, _, _ => by simp [nextRow]
  | entryTerm :: entryRest, up :: aboveRest, diagonal, left, same => by
    simp only [List.cons_append, nextRow, List.getLastD_cons]
    rw [nextRow_append queryTerm more moreAbove entryRest aboveRest up _ (by simpa using same)]
  | [], _ :: _, _, _, same => by simp at same
  | _ :: _, [], _, _, same => by simp at same

theorem length_finalRow (entryTerms : List String) :
    ∀ (queryTerms : List String) (row : List Nat), row.length = entryTerms.length →
      (finalRow entryTerms queryTerms row).length = entryTerms.length
  | [], _, same => same
  | queryTerm :: rest, row, same => by
    rw [finalRow]
    exact length_finalRow entryTerms rest _ (by simp [length_nextRow, same])

/-- One more entry term adds one more column to every row and leaves the others as they
were. -/
theorem finalRow_append_column (entryTerms : List String) (entryTerm : String) :
    ∀ (queryTerms : List String) (row : List Nat) (cell : Nat), row.length = entryTerms.length →
      ∃ last, finalRow (entryTerms ++ [entryTerm]) queryTerms (row ++ [cell]) =
        finalRow entryTerms queryTerms row ++ [last]
  | [], _, cell, _ => ⟨cell, rfl⟩
  | queryTerm :: rest, row, cell, same => by
    rw [finalRow, finalRow,
      nextRow_append queryTerm [entryTerm] [cell] entryTerms row 0 0 same.symm]
    obtain ⟨next, single⟩ : ∃ next, nextRow queryTerm [entryTerm] [cell] (row.getLastD 0)
        ((nextRow queryTerm entryTerms row 0 0).getLastD 0) = [next] := ⟨_, rfl⟩
    rw [single]
    exact finalRow_append_column entryTerms entryTerm rest _ next (by simp [length_nextRow, same])

/-- One more query term is one more row. -/
theorem finalRow_append_query (entryTerms : List String) (queryTerm : String) :
    ∀ (queryTerms : List String) (row : List Nat),
      finalRow entryTerms (queryTerms ++ [queryTerm]) row =
        nextRow queryTerm entryTerms (finalRow entryTerms queryTerms row) 0 0
  | [], _ => rfl
  | _ :: rest, _ => finalRow_append_query entryTerms queryTerm rest _

/-! ## The exact match -/

/-- Aligning two more last terms adds at least what the pair earns. -/
theorem score_snoc {queryTerm entryTerm : String} {weight : Nat}
    (aligned : pairWeight queryTerm entryTerm = some weight) (queryTerms entryTerms : List String) :
    score queryTerms entryTerms + weight ≤
      score (queryTerms ++ [queryTerm]) (entryTerms ++ [entryTerm]) := by
  obtain ⟨last, column⟩ :=
    finalRow_append_column entryTerms entryTerm queryTerms (entryTerms.map fun _ => 0) 0 (by simp)
  have sameLength := length_finalRow entryTerms queryTerms (entryTerms.map fun _ => 0) (by simp)
  have zeros :
      (entryTerms ++ [entryTerm]).map (fun _ => 0) = entryTerms.map (fun _ => 0) ++ [0] := by
    simp
  unfold score
  rw [zeros, finalRow_append_query, column,
    nextRow_append queryTerm [entryTerm] [last] entryTerms _ 0 0 sameLength.symm]
  simp only [nextRow, aligned, List.getLastD_concat]
  exact Nat.le_max_right _ _

/-- Terms aligned with themselves score one exact match each, the most any entry scores. -/
theorem score_self (terms : List String) :
    score terms terms = (matchWeight + exactBonus) * terms.length := by
  refine Nat.le_antisymm (score_le terms terms) ?_
  induction terms using List.reverseRecOn with
  | nil => simp
  | append_singleton init term ih =>
    have grows := score_snoc (pairWeight_self term) init init
    rw [List.length_append, List.length_singleton, Nat.mul_succ]
    omega

end DocIndex.Search
