/-!
# Code-point range tables

A character class is written as a sorted array of disjoint, inclusive code-point ranges.
`RangeTable.find?` looks a code point up by binary search; `RangeTable.Mem` says the same
thing without the search, as "some range holds the code point".
-/

namespace DocIndex.Text

/-- A character class as sorted, disjoint, inclusive code-point ranges. -/
structure RangeTable where
  ranges : Array (Nat × Nat)

namespace RangeTable

/-- Some range of the table holds the code point. -/
def Mem (table : RangeTable) (code : Nat) : Prop :=
  ∃ range ∈ table.ranges.toList, range.1 ≤ code ∧ code ≤ range.2

/--
Binary search among the ranges with positions in `[low, high)` for the range holding
`code`. On sorted disjoint ranges a range that holds `code` lies on the side the search
keeps.
-/
def searchBetween (ranges : Array (Nat × Nat)) (code low high : Nat) :
    Option (Nat × Nat) :=
  if low < high then
    let middle := (low + high) / 2
    match ranges[middle]? with
    | none => none
    | some range =>
      if code < range.1 then
        searchBetween ranges code low middle
      else if range.2 < code then
        searchBetween ranges code (middle + 1) high
      else
        some range
  else
    none
termination_by high - low

/-- The range holding `code`, if there is one. -/
def find? (table : RangeTable) (code : Nat) : Option (Nat × Nat) :=
  searchBetween table.ranges code 0 table.ranges.size

/-- Whether some range holds `code`. -/
def contains (table : RangeTable) (code : Nat) : Bool :=
  (table.find? code).isSome

/-- A range that the search returns holds the code point. -/
theorem searchBetween_holds {ranges : Array (Nat × Nat)} {code low high : Nat}
    {range : Nat × Nat} (found : searchBetween ranges code low high = some range) :
    range ∈ ranges.toList ∧ range.1 ≤ code ∧ code ≤ range.2 := by
  induction low, high using searchBetween.induct ranges code with
  | case1 low high order middle hmiss =>
    rw [searchBetween, if_pos order] at found
    simp only [middle] at hmiss
    simp [hmiss] at found
  | case2 low high order middle candidate hsome below ih =>
    rw [searchBetween, if_pos order] at found
    simp only [middle] at hsome
    simp only [hsome, if_pos below] at found
    exact ih found
  | case3 low high order middle candidate hsome notBelow above ih =>
    rw [searchBetween, if_pos order] at found
    simp only [middle] at hsome
    simp only [hsome, if_neg notBelow, if_pos above] at found
    exact ih found
  | case4 low high order middle candidate hsome notBelow notAbove =>
    rw [searchBetween, if_pos order] at found
    simp only [middle] at hsome
    simp only [hsome, if_neg notBelow, if_neg notAbove, Option.some.injEq] at found
    subst found
    refine ⟨?_, by omega, by omega⟩
    obtain ⟨bound, eq⟩ := Array.getElem?_eq_some_iff.mp hsome
    rw [← eq]
    exact Array.getElem_mem_toList bound
  | case5 low high order =>
    rw [searchBetween, if_neg order] at found
    cases found

/-- What the table reports is a member of the class. -/
theorem mem_of_contains {table : RangeTable} {code : Nat}
    (reported : table.contains code = true) : table.Mem code := by
  unfold contains at reported
  obtain ⟨range, found⟩ := Option.isSome_iff_exists.mp reported
  exact ⟨range, searchBetween_holds found⟩

end RangeTable

end DocIndex.Text
