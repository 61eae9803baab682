import DocIndex.Search.Inverted
import DocIndex.Proofs.Text.Order

/-!
# Postings and candidates

A search index records, for every term, the ascending positions of the entries that carry
it, and a query's candidates are the union of the postings of the terms that contain one of
its terms. This module shows that the postings record exactly the pairs of an entry's
position and one of its terms (`posted_build`), and that the candidates are the positions of
the entries carrying a term that contains a query term (`mem_candidates`), listed in strictly
ascending order (`candidates_ascending`), so that no entry is a candidate twice.
-/

namespace DocIndex.Search

open DocIndex.Text

/-! ## Merging ascending positions -/

/-- Merging keeps every position of both lists and adds none. -/
@[simp]
theorem mem_mergePositions
    {position : Nat} {left right : List Nat} :
    position ∈ mergePositions left right ↔ position ∈ left ∨ position ∈ right := by
  fun_induction mergePositions left right with
  | case1 right => simp
  | case2 left => simp
  | case3 x xs y ys smaller ih =>
    simp only [List.mem_cons, ih]
    grind
  | case4 x xs y ys notSmaller larger ih =>
    simp only [List.mem_cons, ih]
    grind
  | case5 x xs y ys notSmaller notLarger ih =>
    have same : x = y := by omega
    subst same
    simp only [List.mem_cons, ih]
    grind

/-- Merging two strictly ascending lists gives a strictly ascending list. -/
theorem mergePositions_ascending
    {left right : List Nat}
    (leftAscending : left.Pairwise (· < ·))
    (rightAscending : right.Pairwise (· < ·)) :
    (mergePositions left right).Pairwise (· < ·) := by
  fun_induction mergePositions left right with
  | case1 right => exact rightAscending
  | case2 left => exact leftAscending
  | case3 x xs y ys smaller ih =>
    obtain ⟨xBelow, xsAscending⟩ := List.pairwise_cons.mp leftAscending
    obtain ⟨yBelow, -⟩ := List.pairwise_cons.mp rightAscending
    refine List.pairwise_cons.mpr ⟨?_, ih xsAscending rightAscending⟩
    intro later member
    rcases mem_mergePositions.mp member with inLeft | inRight
    · exact xBelow later inLeft
    · rcases List.mem_cons.mp inRight with rfl | inYs
      · exact smaller
      · exact Nat.lt_trans smaller (yBelow later inYs)
  | case4 x xs y ys notSmaller larger ih =>
    obtain ⟨xBelow, -⟩ := List.pairwise_cons.mp leftAscending
    obtain ⟨yBelow, ysAscending⟩ := List.pairwise_cons.mp rightAscending
    refine List.pairwise_cons.mpr ⟨?_, ih leftAscending ysAscending⟩
    intro later member
    rcases mem_mergePositions.mp member with inLeft | inRight
    · rcases List.mem_cons.mp inLeft with rfl | inXs
      · exact larger
      · exact Nat.lt_trans larger (xBelow later inXs)
    · exact yBelow later inRight
  | case5 x xs y ys notSmaller notLarger ih =>
    obtain ⟨xBelow, xsAscending⟩ := List.pairwise_cons.mp leftAscending
    obtain ⟨yBelow, ysAscending⟩ := List.pairwise_cons.mp rightAscending
    refine List.pairwise_cons.mpr ⟨?_, ih xsAscending ysAscending⟩
    intro later member
    rcases mem_mergePositions.mp member with inXs | inYs
    · exact xBelow later inXs
    · have := yBelow later inYs
      omega

/-! ## What the postings record -/

/-- The postings record `position` under `term`. -/
def Posted (postings : List Posting) (term : String) (position : Nat) : Prop :=
  ∃ positions, (term, positions) ∈ postings ∧ position ∈ positions

@[simp]
theorem not_posted_nil (term : String) (position : Nat) : ¬ Posted [] term position := by
  simp [Posted]

@[simp]
theorem posted_cons
    {name term : String} {positions : List Nat} {rest : List Posting} {position : Nat} :
    Posted ((name, positions) :: rest) term position ↔
      (term = name ∧ position ∈ positions) ∨ Posted rest term position := by
  simp only [Posted, List.mem_cons, Prod.mk.injEq]
  constructor
  · rintro ⟨found, ⟨rfl, rfl⟩ | inRest, member⟩
    · exact .inl ⟨rfl, member⟩
    · exact .inr ⟨found, inRest, member⟩
  · rintro (⟨rfl, member⟩ | ⟨found, inRest, member⟩)
    · exact ⟨positions, .inl ⟨rfl, rfl⟩, member⟩
    · exact ⟨found, .inr inRest, member⟩

/-- Adding a position to a term's posting records exactly that pair more. -/
theorem posted_addPosting
    {term other : String} {entry position : Nat} {postings : List Posting} :
    Posted (addPosting term entry postings) other position ↔
      Posted postings other position ∨ (other = term ∧ position = entry) := by
  induction postings with
  | nil => simp [addPosting]
  | cons head rest ih =>
    obtain ⟨name, positions⟩ := head
    unfold addPosting
    split
    · rename_i before
      simp only [posted_cons, List.mem_singleton]
      grind
    · rename_i same
      have sameName : term = name := compareText_eq_iff.mp same
      subst sameName
      split
      · rename_i last
        have present : entry ∈ positions :=
          List.mem_of_getLast? (by simpa using last)
        simp only [posted_cons]
        grind
      · simp only [posted_cons, List.mem_append, List.mem_singleton]
        grind
    · simp only [posted_cons, ih]
      grind

/-- Adding one entry's terms at its position records those pairs more. -/
theorem posted_foldl_addPosting
    {entry position : Nat} {other : String} :
    ∀ (terms : List String) (postings : List Posting),
      Posted (terms.foldl (fun acc term => addPosting term entry acc) postings) other position ↔
        Posted postings other position ∨ (other ∈ terms ∧ position = entry)
  | [], postings => by simp
  | term :: rest, postings => by
    simp only [List.foldl_cons, posted_foldl_addPosting rest, posted_addPosting,
      List.mem_cons]
    grind

/-- The postings of entries numbered from `start` record each entry's terms at its own
position. -/
theorem posted_postingsFrom
    {term : String} {position : Nat} :
    ∀ (entries : List Entry) (start : Nat) (postings : List Posting),
      Posted (postingsFrom postings start entries) term position ↔
        Posted postings term position ∨
          ∃ offset entry, entries[offset]? = some entry ∧ position = start + offset ∧
            term ∈ entry.terms
  | [], start, postings => by simp [postingsFrom]
  | first :: rest, start, postings => by
    simp only [postingsFrom, posted_postingsFrom rest, posted_foldl_addPosting]
    constructor
    · rintro ((already | ⟨carried, rfl⟩) | ⟨offset, entry, found, rfl, carried⟩)
      · exact .inl already
      · exact .inr ⟨0, first, rfl, rfl, carried⟩
      · exact .inr ⟨offset + 1, entry, found, by omega, carried⟩
    · rintro (already | ⟨offset, entry, found, rfl, carried⟩)
      · exact .inl (.inl already)
      · cases offset with
        | zero =>
          cases found
          exact .inl (.inr ⟨carried, rfl⟩)
        | succ offset =>
          exact .inr ⟨offset, entry, found, by omega, carried⟩

/-- The postings of a search index record each entry's terms at the entry's position. -/
theorem posted_build
    (entries : List Entry) (generation : Nat) (term : String) (position : Nat) :
    Posted (SearchIndex.build entries generation).postings term position ↔
      ∃ entry, entries[position]? = some entry ∧ term ∈ entry.terms := by
  simp only [SearchIndex.build, posted_postingsFrom, not_posted_nil, false_or, Nat.zero_add]
  constructor
  · rintro ⟨offset, entry, found, rfl, carried⟩
    exact ⟨entry, found, carried⟩
  · rintro ⟨entry, found, carried⟩
    exact ⟨position, entry, found, rfl, carried⟩

/-! ## Ascending postings -/

/-- Every posting lists strictly ascending positions, all below `bound`. -/
def AscendingBelow (bound : Nat) (postings : List Posting) : Prop :=
  ∀ term positions, (term, positions) ∈ postings →
    positions.Pairwise (· < ·) ∧ ∀ position ∈ positions, position < bound

/-- An ascending list below `entry + 1` that does not end at `entry` lies below `entry`. -/
theorem lt_of_getLast?_ne
    {positions : List Nat} {entry : Nat}
    (ascending : positions.Pairwise (· < ·))
    (below : ∀ position ∈ positions, position < entry + 1)
    (notLast : positions.getLast? ≠ some entry) :
    ∀ position ∈ positions, position < entry := by
  intro position member
  have atMost := below position member
  by_cases equal : position = entry
  · subst equal
    obtain ⟨before, after, rfl⟩ := List.append_of_mem member
    have afterEmpty : after = [] := by
      apply List.eq_nil_iff_forall_not_mem.mpr
      intro later laterMember
      have larger :=
        (List.pairwise_cons.mp (List.pairwise_append.mp ascending).2.1).1 later laterMember
      have bounded := below later (by simp [laterMember])
      omega
    subst afterEmpty
    simp at notLast
  · omega

/-- Adding the position of the entry being read keeps the postings ascending. -/
theorem addPosting_ascending
    {term : String} {entry : Nat} {postings : List Posting}
    (below : AscendingBelow (entry + 1) postings) :
    AscendingBelow (entry + 1) (addPosting term entry postings) := by
  induction postings with
  | nil =>
    intro name positions member
    simp only [addPosting, List.mem_singleton, Prod.mk.injEq] at member
    obtain ⟨rfl, rfl⟩ := member
    simp
  | cons head rest ih =>
    obtain ⟨name, positions⟩ := head
    have headBelow := below name positions (by simp)
    have restBelow : AscendingBelow (entry + 1) rest :=
      fun other found member => below other found (by simp [member])
    unfold addPosting
    split
    · intro other found member
      rcases List.mem_cons.mp member with same | member
      · cases same
        simp
      · rcases List.mem_cons.mp member with same | inRest
        · cases same
          exact headBelow
        · exact restBelow other found inRest
    · split
      · exact below
      · rename_i notLast
        intro other found member
        rcases List.mem_cons.mp member with same | inRest
        · cases same
          have earlier : ∀ position ∈ positions, position < entry :=
            lt_of_getLast?_ne headBelow.1 headBelow.2 (by simpa using notLast)
          constructor
          · refine List.pairwise_append.mpr ⟨headBelow.1, by simp, ?_⟩
            intro position member later laterMember
            rw [List.mem_singleton.mp laterMember]
            exact earlier position member
          · intro position member
            rcases List.mem_append.mp member with inPositions | isEntry
            · exact headBelow.2 position inPositions
            · rw [List.mem_singleton.mp isEntry]
              omega
        · exact restBelow other found inRest
    · intro other found member
      rcases List.mem_cons.mp member with same | inRest
      · cases same
        exact headBelow
      · exact ih restBelow other found inRest

/-- Adding one entry's terms at its position keeps the postings ascending. -/
theorem foldl_addPosting_ascending
    {entry : Nat} :
    ∀ (terms : List String) (postings : List Posting),
      AscendingBelow (entry + 1) postings →
        AscendingBelow (entry + 1)
          (terms.foldl (fun acc term => addPosting term entry acc) postings)
  | [], _, below => below
  | _ :: rest, _, below => foldl_addPosting_ascending rest _ (addPosting_ascending below)

/-- Reading the postings of entries from `start` keeps them ascending below the position
after the last entry. -/
theorem postingsFrom_ascending :
    ∀ (entries : List Entry) (start : Nat) (postings : List Posting),
      AscendingBelow start postings →
        AscendingBelow (start + entries.length) (postingsFrom postings start entries)
  | [], start, postings, below => by simpa [postingsFrom] using below
  | first :: rest, start, postings, below => by
    have widened : AscendingBelow (start + 1) postings := by
      intro term positions member
      obtain ⟨ascending, bounded⟩ := below term positions member
      exact ⟨ascending, fun position inPositions => by
        have := bounded position inPositions
        omega⟩
    have read := postingsFrom_ascending rest (start + 1) _
      (foldl_addPosting_ascending first.terms postings widened)
    have length : start + 1 + rest.length = start + (first :: rest).length := by
      simp only [List.length_cons]
      omega
    rw [← length]
    exact read

/-! ## Candidates -/

/-- The positions gathered from the postings of the terms that contain a query term. -/
theorem mem_gathered
    {queryTerms : List String} {position : Nat} :
    ∀ (postings : List Posting) (found : List Nat),
      position ∈ postings.foldl (fun acc (term, positions) =>
          if queryTerms.any (fun queryTerm => occursIn queryTerm term)
          then mergePositions acc positions else acc) found ↔
        position ∈ found ∨
          ∃ term, queryTerms.any (fun queryTerm => occursIn queryTerm term) ∧
            Posted postings term position
  | [], found => by simp
  | (term, positions) :: rest, found => by
    simp only [List.foldl_cons]
    rw [mem_gathered rest]
    by_cases matched : queryTerms.any (fun queryTerm => occursIn queryTerm term)
    · simp only [matched, if_true, mem_mergePositions, posted_cons]
      constructor
      · rintro ((inFound | inPositions) | ⟨other, otherMatched, posted⟩)
        · exact .inl inFound
        · exact .inr ⟨term, matched, .inl ⟨rfl, inPositions⟩⟩
        · exact .inr ⟨other, otherMatched, .inr posted⟩
      · rintro (inFound | ⟨other, otherMatched, ⟨rfl, inPositions⟩ | posted⟩)
        · exact .inl (.inl inFound)
        · exact .inl (.inr inPositions)
        · exact .inr ⟨other, otherMatched, posted⟩
    · simp only [matched, posted_cons]
      constructor
      · rintro (inFound | ⟨other, otherMatched, posted⟩)
        · exact .inl inFound
        · exact .inr ⟨other, otherMatched, .inr posted⟩
      · rintro (inFound | ⟨other, otherMatched, ⟨rfl, _⟩ | posted⟩)
        · exact .inl inFound
        · exact absurd otherMatched matched
        · exact .inr ⟨other, otherMatched, posted⟩

/-- Gathering ascending postings into an ascending list keeps it ascending. -/
theorem gathered_ascending
    {queryTerms : List String} :
    ∀ (postings : List Posting) (found : List Nat),
      found.Pairwise (· < ·) →
      (∀ term positions, (term, positions) ∈ postings → positions.Pairwise (· < ·)) →
      (postings.foldl (fun acc (term, positions) =>
          if queryTerms.any (fun queryTerm => occursIn queryTerm term)
          then mergePositions acc positions else acc) found).Pairwise (· < ·)
  | [], found, ascending, _ => by simpa using ascending
  | (term, positions) :: rest, found, ascending, postingsAscending => by
    simp only [List.foldl_cons]
    apply gathered_ascending rest
    · split
      · exact mergePositions_ascending ascending (postingsAscending term positions (by simp))
      · exact ascending
    · intro other found member
      exact postingsAscending other found (by simp [member])

/-- The candidates for query terms are the positions of the entries carrying a term that
contains one of them. -/
theorem mem_candidates
    (entries : List Entry) (generation : Nat) (queryTerms : List String) (position : Nat) :
    position ∈ (SearchIndex.build entries generation).candidates queryTerms ↔
      ∃ entry, entries[position]? = some entry ∧
        ∃ term ∈ entry.terms, queryTerms.any (fun queryTerm => occursIn queryTerm term) := by
  unfold SearchIndex.candidates
  rw [mem_gathered]
  simp only [List.not_mem_nil, false_or, posted_build]
  constructor
  · rintro ⟨term, matched, entry, found, carried⟩
    exact ⟨entry, found, term, carried, matched⟩
  · rintro ⟨entry, found, term, carried, matched⟩
    exact ⟨term, matched, entry, found, carried⟩

/-- The candidates come in strictly ascending order, each once. -/
theorem candidates_ascending
    (entries : List Entry) (generation : Nat) (queryTerms : List String) :
    ((SearchIndex.build entries generation).candidates queryTerms).Pairwise (· < ·) := by
  have postingsBelow := postingsFrom_ascending entries 0 [] (by simp [AscendingBelow])
  unfold SearchIndex.candidates
  apply gathered_ascending _ _ List.Pairwise.nil
  intro term positions member
  exact (postingsBelow term positions member).1

end DocIndex.Search
