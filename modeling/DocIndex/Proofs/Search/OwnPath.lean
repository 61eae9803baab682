import DocIndex.Proofs.Extract.Keys
import DocIndex.Proofs.Search.Alignment
import DocIndex.Proofs.Search.Query

/-!
# Every page and symbol is found by its own path

Flattening an index whose keys are separated gives entries whose key, written out as one
path, reads back as exactly the entry's terms: the query made of an entry's own path asks
for the entry's terms, in order. Aligned with itself, the entry scores one exact match per
term, which is the most any entry can score for that query, so the entry ranks among the
results with that score, and the project bonus exactly when the query names its project
(`own_path_ranks_at_top`). The built-in readers make only indexes with separated keys.
-/

namespace DocIndex.Search

open DocIndex.Document

/-! ## Entries of separated keys -/

/-- Below separated keys, every entry's key is separated and its terms are the key's terms. -/
theorem sectionEntries_separated (origin : PageOrigin) :
    ∀ (parentKey trail : List String) (depth : Nat) (sections : List Section),
      KeysApart parentKey sections →
        ∀ entry ∈ sectionEntries origin false parentKey trail depth sections,
          Separated entry.searchKey ∧ entry.terms = terms entry.searchKey
  | _, _, _, [], _ => by simp [sectionEntries]
  | parentKey, trail, depth, ⟨id, shortLabel, label, detail, key, role, children⟩ :: rest,
      apart => by
    rw [KeysApart] at apart
    obtain ⟨separated, childrenApart, restApart⟩ := apart
    have below : ∀ below, ∀ entry ∈ sectionEntries origin false (joinKey parentKey key)
        (trail ++ [id]) below children,
        Separated entry.searchKey ∧ entry.terms = terms entry.searchKey :=
      fun below => sectionEntries_separated origin (joinKey parentKey key) (trail ++ [id]) below
        children childrenApart
    have after := sectionEntries_separated origin parentKey trail depth rest restApart
    intro entry member
    cases role with
    | category =>
      simp only [sectionEntries, Bool.false_eq_true, if_false, List.nil_append,
        List.mem_append] at member
      rcases member with deeper | later
      · exact below depth entry deeper
      · exact after entry later
    | symbol =>
      simp only [sectionEntries, List.cons_append, List.mem_cons, List.mem_append] at member
      rcases member with rfl | deeper | later
      · exact ⟨separated, rfl⟩
      · exact below (depth + 1) entry deeper
      · exact after entry later

/-- An index with separated keys flattens into entries with separated keys, each carrying
its key's terms. -/
theorem entriesOf_separated {index : Index} (apart : index.KeysApart) (project : String) :
    ∀ entry ∈ entriesOf project index false,
      Separated entry.searchKey ∧ entry.terms = terms entry.searchKey := by
  intro entry member
  obtain ⟨⟨library, page⟩, inPages, inPage⟩ := List.mem_flatMap.mp member
  obtain ⟨owner, inLibraries, inOwner⟩ := List.mem_flatMap.mp inPages
  obtain ⟨shown, inShown, same⟩ := List.mem_map.mp inOwner
  cases same
  obtain ⟨pageSeparated, sectionsApart⟩ := apart library inLibraries page inShown
  rcases List.mem_cons.mp inPage with rfl | inSections
  · exact ⟨pageSeparated, rfl⟩
  · exact sectionEntries_separated _ _ _ _ _ sectionsApart entry inSections

/-! ## The query of an entry's own path -/

/-- The query written as an entry's path asks for the entry's terms. -/
theorem queryTerms_path {entry : Entry} (separated : Separated entry.searchKey)
    (carried : entry.terms = terms entry.searchKey) : queryTerms entry.path = entry.terms := by
  rw [Entry.path, queryTerms_join separated, carried]

/-- An entry asked for by its own terms scores one exact match per term, and the project
bonus when the query names its project. -/
theorem hitOf_own_terms {query : String} {entry : Entry}
    (asked : queryTerms query = entry.terms) (nonempty : entry.terms ≠ []) :
    hitOf query entry = some ⟨entry, (matchWeight + exactBonus) * entry.terms.length +
      if namesProject query entry.project then projectBonus else 0⟩ := by
  have positive : (matchWeight + exactBonus) * entry.terms.length ≠ 0 := by
    have : entry.terms.length ≠ 0 := by simpa using nonempty
    simp [matchWeight, exactBonus, this]
  unfold hitOf
  rw [asked, score_self]
  simp only [positive, if_false]
  split <;> simp

/-- A hit of an entry of a search index is among the index's results for the query, with no
project filter and no limit. -/
theorem mem_query_of_hitOf {entries : List Entry} {entry : Entry} {query : String} {hit : Hit}
    (member : entry ∈ entries) (hits : hitOf query entry = some hit) (generation : Nat) :
    ∃ results, (SearchIndex.build entries generation).query none query none none = .ok results ∧
      hit.result ∈ results := by
  have scores : score (queryTerms query) entry.terms ≠ 0 := by
    intro zero
    simp [hitOf, zero] at hits
  have asks : (queryTerms query).isEmpty = false := by
    cases noTerms : queryTerms query with
    | nil => exact absurd (by simpa [noTerms] using score_le [] entry.terms) (noTerms ▸ scores)
    | cons _ _ => rfl
  obtain ⟨position, found⟩ := List.mem_iff_getElem?.mp member
  have candidate :=
    @mem_candidates_of_score_ne_zero entries generation position entry _ found scores
  have candidates : ((SearchIndex.build entries generation).candidates
      (queryTerms query)).isEmpty = false := by
    cases listed : (SearchIndex.build entries generation).candidates (queryTerms query) with
    | nil => simp [listed] at candidate
    | cons _ _ => rfl
  have picked := filterMap_entriesAt_candidates entries generation (queryTerms query)
    (hitOf query) (fun _ unmatched => hitOf_eq_none_of_unmatched unmatched)
  have unscoped : ∀ listed : List Entry, listed.filter (inScope none) = listed :=
    fun listed => List.filter_eq_self.mpr fun _ _ => rfl
  unfold SearchIndex.query
  simp only [asks, candidates, Bool.false_eq_true, if_false, checkpoint, truncate, rankHits,
    unscoped, picked]
  refine ⟨_, rfl, List.mem_map.mpr ⟨hit, ?_, rfl⟩⟩
  rw [sortHits, List.mem_mergeSort]
  exact List.mem_filterMap.mpr ⟨entry, member, hits⟩

/-- Every page and symbol of indexes with separated keys is found by its own path, at the
top score. The built-in readers make only such indexes, whatever parsers they read the
sources with. In a search index over the entries
of such indexes, without categories, the query written as an entry's path asks for exactly
the entry's terms; when there are any, the results with no project filter and no limit hold
the entry with one exact match per term, plus the project bonus exactly when the query names
the entry's project; no entry aligns better, since no entry ever scores more than an exact
match per query term. -/
theorem own_path_ranks_at_top :
    (∀ (parsers : Parsers), ∀ reader ∈ readers parsers, ∀ (halt : Halt) (root : SourceRoot)
      (node : Disk.Node) (index : Index), reader.read halt root node = .ok index →
        index.KeysApart) ∧
    (∀ (sources : List (String × Index)) (generation : Nat),
      (∀ source ∈ sources, source.2.KeysApart) →
      ∀ entry ∈ sources.flatMap (fun source => entriesOf source.1 source.2 false),
        entry.terms ≠ [] →
        queryTerms entry.path = entry.terms ∧
        (∃ results, (SearchIndex.build (sources.flatMap fun source =>
            entriesOf source.1 source.2 false) generation).query none entry.path none none =
              .ok results ∧
          Hit.result ⟨entry, (matchWeight + exactBonus) * entry.terms.length +
            if namesProject entry.path entry.project then projectBonus else 0⟩ ∈ results) ∧
        ∀ other ∈ sources.flatMap (fun source => entriesOf source.1 source.2 false),
          score (queryTerms entry.path) other.terms ≤ score (queryTerms entry.path) entry.terms) ∧
    ∀ askedTerms entryTerms : List String,
      score askedTerms entryTerms ≤ (matchWeight + exactBonus) * askedTerms.length := by
  refine ⟨fun _ reader builtIn halt root node index made => reader_keysApart builtIn made,
    fun sources generation apart entry member nonempty => ?_, score_le⟩
  obtain ⟨source, inSources, inSource⟩ := List.mem_flatMap.mp member
  obtain ⟨separated, carried⟩ :=
    entriesOf_separated (apart source inSources) source.1 entry inSource
  have asked := queryTerms_path separated carried
  refine ⟨asked, mem_query_of_hitOf member (hitOf_own_terms asked nonempty) generation,
    fun other _ => ?_⟩
  rw [asked, score_self]
  exact score_le entry.terms other.terms

/-- A package `proj` with one function `Run`: its keys are separated, and the query
`proj.Run` finds the function with an exact match for each of its two terms and the bonus for
naming the project. -/
theorem run_function_found_by_its_path :
    Index.KeysApart ⟨"go", 1, 0, 0, [⟨"proj", "proj", "", "", "", [⟨".", "Package proj", "",
      ["proj"], [⟨"Run", "Run", "func Run()", "", ["proj", ".", "Run"], .symbol, []⟩]⟩]⟩]⟩ ∧
    ∃ results, (SearchIndex.build (entriesOf "proj" ⟨"go", 1, 0, 0, [⟨"proj", "proj", "", "", "",
        [⟨".", "Package proj", "", ["proj"], [⟨"Run", "Run", "func Run()", "", ["proj", ".", "Run"],
          .symbol, []⟩]⟩]⟩]⟩ false) 0).query none "proj.Run" none none = .ok results ∧
      ⟨"proj", "go", "proj", ".", ["Run"], "func Run()", "",
        (matchWeight + exactBonus) * 2 + projectBonus, "proj.Run"⟩ ∈ results := by
  have apart : Index.KeysApart ⟨"go", 1, 0, 0, [⟨"proj", "proj", "", "", "", [⟨".",
      "Package proj", "", ["proj"], [⟨"Run", "Run", "func Run()", "", ["proj", ".", "Run"],
        .symbol, []⟩]⟩]⟩]⟩ := by
    intro library inLibraries page inPages
    simp only [List.mem_singleton] at inLibraries
    subst inLibraries
    simp only [List.mem_singleton] at inPages
    subst inPages
    exact ⟨separated_singleton _,
      keysApart_dotted_leaves (by simp) (separated_singleton _) (by simp)⟩
  have member : (⟨"proj", "go", "proj", ".", ["Run"], "func Run()", "", ["proj", ".", "Run"],
      terms ["proj", ".", "Run"], 1, .symbol⟩ : Entry) ∈
      [("proj", (⟨"go", 1, 0, 0, [⟨"proj", "proj", "", "", "", [⟨".", "Package proj", "",
        ["proj"], [⟨"Run", "Run", "func Run()", "", ["proj", ".", "Run"], .symbol, []⟩]⟩]⟩]⟩ :
          Index))].flatMap fun source => entriesOf source.1 source.2 false := by
    simp [entriesOf, Index.pages, pageEntries, sectionEntries, joinKey]
  obtain ⟨-, ⟨results, ran, found⟩, -⟩ := own_path_ranks_at_top.2.1 _ 0
    (by simpa using apart) _ member (by decide +kernel)
  have path : String.join ["proj", ".", "Run"] = "proj.Run" := by decide
  refine ⟨apart, results, by simpa [Entry.path, path] using ran, ?_⟩
  have shown : Hit.result ⟨⟨"proj", "go", "proj", ".", ["Run"], "func Run()", "",
      ["proj", ".", "Run"], terms ["proj", ".", "Run"], 1, .symbol⟩,
      (matchWeight + exactBonus) * (terms ["proj", ".", "Run"]).length +
        if namesProject (String.join ["proj", ".", "Run"]) "proj" then projectBonus else 0⟩ =
      ⟨"proj", "go", "proj", ".", ["Run"], "func Run()", "",
        (matchWeight + exactBonus) * 2 + projectBonus, "proj.Run"⟩ := by
    decide +kernel
  exact shown ▸ found

end DocIndex.Search
