import DocIndex.Proofs.Search.Query
import DocIndex.Proofs.Search.Cache
import DocIndex.Proofs.Document.RoundTrip

/-!
# Searching within one project

A search scoped to a project gives the unscoped hits of that project, in the same order and
then truncated to the limit. Three facts carry it: the entries loaded for a project's keys are
the project's entries of the whole load, in order; the score of a hit reads only its own entry,
so the project bonus is the same whichever entries are ranked beside it; and keeping the hits of
one project commutes with the stable sort, because the hit order is a total preorder.
-/

namespace DocIndex.Search

open DocIndex.Text DocIndex.Document

section StableSort

variable {α : Type}

/-- A list cut where a test starts to hold is cut at one place only. -/
theorem append_eq_append_of_cut {below above below' above' : List α} (reached : α → Bool)
    (same : below ++ above = below' ++ above')
    (belowShort : ∀ x ∈ below, reached x = false)
    (belowShort' : ∀ x ∈ below', reached x = false)
    (aboveReached : ∀ x ∈ above, reached x = true)
    (aboveReached' : ∀ x ∈ above', reached x = true) :
    below = below' ∧ above = above' := by
  induction below generalizing below' with
  | nil =>
    cases below' with
    | nil => exact ⟨rfl, same⟩
    | cons first rest =>
      have reachedFirst := aboveReached first (by rw [List.nil_append] at same; simp [same])
      simp [belowShort' first (by simp)] at reachedFirst
  | cons first rest induction =>
    cases below' with
    | nil =>
      have reachedFirst := aboveReached' first (by rw [List.nil_append] at same; simp [← same])
      simp [belowShort first (by simp)] at reachedFirst
    | cons first' rest' =>
      simp only [List.cons_append, List.cons.injEq] at same
      obtain ⟨rfl, sameRest⟩ := same
      obtain ⟨rfl, rfl⟩ := induction sameRest (fun x member => belowShort x (by simp [member]))
        (fun x member => belowShort' x (by simp [member]))
      exact ⟨rfl, rfl⟩

variable {le : α → α → Bool}

/-- Filtering commutes with a stable sort by a total preorder. -/
theorem filter_mergeSort
    (trans : ∀ a b c, le a b → le b c → le a c) (total : ∀ a b, le a b || le b a)
    (keep : α → Bool) :
    ∀ items : List α, (items.mergeSort le).filter keep = (items.filter keep).mergeSort le
  | [] => by simp
  | item :: rest => by
    obtain ⟨before, after, sorted, sortedRest, beforeBelow⟩ :=
      List.mergeSort_cons trans total item rest
    have induction := filter_mergeSort trans total keep rest
    rw [sortedRest, List.filter_append] at induction
    have afterAbove : ∀ x ∈ after, le item x = true := by
      have ordered := List.pairwise_mergeSort trans total (item :: rest)
      rw [sorted, List.pairwise_append, List.pairwise_cons] at ordered
      exact ordered.2.1.1
    by_cases kept : keep item
    · obtain ⟨before', after', sorted', sortedRest', beforeBelow'⟩ :=
        List.mergeSort_cons trans total item (rest.filter keep)
      have afterAbove' : ∀ x ∈ after', le item x = true := by
        have ordered := List.pairwise_mergeSort trans total (item :: rest.filter keep)
        rw [sorted', List.pairwise_append, List.pairwise_cons] at ordered
        exact ordered.2.1.1
      obtain ⟨sameBefore, sameAfter⟩ := append_eq_append_of_cut (le item)
        (induction.trans sortedRest')
        (fun x member => by simpa using beforeBelow x (List.mem_filter.mp member).1)
        (fun x member => by simpa using beforeBelow' x member)
        (fun x member => afterAbove x (List.mem_filter.mp member).1) afterAbove'
      rw [List.filter_cons_of_pos kept, sorted', sorted, List.filter_append,
        List.filter_cons_of_pos kept, sameBefore, sameAfter]
    · rw [List.filter_cons_of_neg kept, sorted, List.filter_append, List.filter_cons_of_neg kept,
        induction]

end StableSort

/-! ## The ranking order -/

/-- The code points of a text, by which texts are compared. -/
def codePoints (text : String) : List Nat :=
  text.toList.map codePoint

theorem compareText_eq_compareOn (a b : String) :
    compareText a b = compareOn codePoints a b := rfl

theorem compareTexts_eq_compareOn :
    ∀ first second : List String,
      compareTexts first second = compareOn (List.map codePoints) first second
  | [], [] => rfl
  | [], _ :: _ => rfl
  | _ :: _, [] => rfl
  | a :: rest, b :: others => by
    simp only [compareTexts, compareOn, List.map_cons, List.compare_cons_cons,
      compareText_eq_compareOn, compareTexts_eq_compareOn rest others]

/-- The ranking order compares hits key by key: the score the other way round, then depth,
path, project, language, page path and section path. -/
theorem compareHits_eq_compareLex (a b : Hit) :
    compareHits a b =
      compareLex (fun first second => compareOn Hit.score second first)
        (compareLex (compareOn fun hit : Hit => hit.entry.depth)
        (compareLex (compareOn fun hit : Hit => codePoints hit.entry.path)
        (compareLex (compareOn fun hit : Hit => codePoints hit.entry.project)
        (compareLex (compareOn fun hit : Hit => codePoints hit.entry.language)
        (compareLex (compareOn fun hit : Hit => codePoints hit.entry.pagePath)
          (compareOn fun hit : Hit => hit.entry.sectionPath.map codePoints)))))) a b := by
  simp only [compareHits, compareLex, compareText_eq_compareOn, compareTexts_eq_compareOn]
  rfl

theorem hitBefore_eq_isLE (a b : Hit) : hitBefore a b = (compareHits a b).isLE := by
  unfold hitBefore
  cases compareHits a b <;> rfl

theorem hitBefore_trans (a b c : Hit) :
    hitBefore a b = true → hitBefore b c = true → hitBefore a c = true := by
  simp only [hitBefore_eq_isLE, compareHits_eq_compareLex]
  exact Std.TransCmp.isLE_trans

theorem hitBefore_total (a b : Hit) : (hitBefore a b || hitBefore b a) = true := by
  simp only [hitBefore_eq_isLE, compareHits_eq_compareLex, Bool.or_eq_true]
  cases ahead : compareLex _ _ a b with
  | gt => exact .inr (by rw [Std.OrientedCmp.lt_of_gt ahead]; rfl)
  | _ => exact .inl rfl

/-- Sorting hits and then keeping some keeps the sorted order of those kept. -/
theorem filter_sortHits (keep : Hit → Bool) (hits : List Hit) :
    (sortHits hits).filter keep = sortHits (hits.filter keep) :=
  filter_mergeSort hitBefore_trans hitBefore_total keep hits

/-! ## Ranking within a project -/

/-- A hit is made of the entry it scores. -/
theorem entry_of_hitOf {query : String} {entry : Entry} {hit : Hit}
    (scored : hitOf query entry = some hit) : hit.entry = entry := by
  unfold hitOf at scored
  by_cases unscored : score (queryTerms query) entry.terms = 0
  · simp [unscored] at scored
  · simp only [unscored, if_false, Option.some.injEq] at scored
    rw [← scored]

/-- Keeping the hits of some entries keeps the hits of exactly those entries. -/
theorem filter_filterMap_hitOf (query : String) (keep : Entry → Bool) (entries : List Entry) :
    (entries.filterMap (hitOf query)).filter (fun hit => keep hit.entry) =
      (entries.filter keep).filterMap (hitOf query) := by
  rw [List.filter_filterMap, List.filterMap_filter]
  apply List.filterMap_congr
  intro entry _
  cases scored : hitOf query entry with
  | none => simp
  | some hit => rw [Option.filter_some, entry_of_hitOf scored]

/-- The results of a project among all results are the results of its entries, in the same
order and with the same scores. -/
theorem rankHits_filter_project (query project : String) (entries : List Entry) :
    (rankHits query entries).filter (·.project == project) =
      rankHits query (entries.filter (·.project == project)) := by
  unfold rankHits
  rw [List.filter_map, ← filter_filterMap_hitOf]
  have sameTest : (fun result : Result => result.project == project) ∘ Hit.result =
      fun hit => hit.entry.project == project := rfl
  rw [sameTest, filter_sortHits]

/-- Ranking in a project's scope is ranking everything and keeping the project's results,
then cutting to the limit. -/
theorem rankAll_scoped (entries : List Entry) (query project : String) (limit : Option Int) :
    rankAll entries query (some project) limit =
      truncate limit ((rankAll entries query none none).filter (·.project == project)) := by
  unfold rankAll
  by_cases noTerms : (queryTerms query).isEmpty
  · simp [noTerms]
  · have everything : entries.filter (inScope none) = entries := List.filter_eq_self.mpr (by simp [inScope])
    have inProject : inScope (some project) = fun entry => entry.project == project := rfl
    simp only [noTerms, Bool.false_eq_true, if_false, everything, inProject, truncate,
      rankHits_filter_project]

/-- Inside one search index, ranking in a project's scope is ranking everything and keeping
the project's results, then cutting to the limit. -/
theorem SearchIndex.query_scoped (entries : List Entry) (generation : Nat)
    (query project : String) (limit : Option Int) :
    (SearchIndex.build entries generation).query none query (some project) limit =
      ((SearchIndex.build entries generation).query none query none none).map
        fun results => truncate limit (results.filter (·.project == project)) := by
  rw [SearchIndex.query_eq_rankAll, SearchIndex.query_eq_rankAll, rankAll_scoped]
  rfl

/-! ## Entries of a project -/

theorem project_of_mem_sectionEntries (origin : PageOrigin) (withCategories : Bool) :
    ∀ (parentKey trail : List String) (depth : Nat) (sections : List Section),
      ∀ entry ∈ sectionEntries origin withCategories parentKey trail depth sections,
        entry.project = origin.project
  | _, _, _, [] => by simp [sectionEntries]
  | parentKey, trail, depth, ⟨id, shortLabel, label, detail, key, role, children⟩ :: rest => by
    intro entry member
    have inChildren : ∀ below, ∀ entry ∈ sectionEntries origin withCategories
        (joinKey parentKey key) (trail ++ [id]) below children, entry.project = origin.project :=
      fun below => project_of_mem_sectionEntries origin withCategories (joinKey parentKey key)
        (trail ++ [id]) below children
    have inRest := project_of_mem_sectionEntries origin withCategories parentKey trail depth rest
    cases role <;> cases withCategories <;>
      simp only [sectionEntries, List.mem_append, List.mem_cons] at member <;> grind

/-- Every entry of an index flattened for a project belongs to that project. -/
theorem project_of_mem_entriesOf {project : String} {index : Index} {withCategories : Bool}
    {entry : Entry} (member : entry ∈ entriesOf project index withCategories) :
    entry.project = project := by
  simp only [entriesOf, List.mem_flatMap] at member
  obtain ⟨⟨library, page⟩, -, inPage⟩ := member
  simp only [pageEntries, List.mem_cons] at inPage
  rcases inPage with rfl | inSections
  · rfl
  · exact project_of_mem_sectionEntries _ _ _ _ _ _ entry inSections

/-- The entries one stored key gives a build: none when its index has gone since the keys
were listed. -/
def keyEntries (store : Store) (withCategories : Bool) (project language : String) :
    Except Failure (List Entry) :=
  match store.get none project language with
  | .ok index => entriesChecked none project index withCategories
  | .error (.notStored _ _) => .ok []
  | .error failure => .error failure

theorem entriesUnder_cons (store : Store) (withCategories : Bool) (project language : String)
    (rest : List (String × String)) :
    entriesUnder store none withCategories ((project, language) :: rest) =
      keyEntries store withCategories project language >>= fun here =>
        (entriesUnder store none withCategories rest).map (here ++ ·) := by
  rw [entriesUnder.eq_2, keyEntries]
  -- both sides read the same stored key; the load's own match sits around its join point
  cases store.get none project language with
  | ok index =>
    cases entriesChecked none project index withCategories <;>
      cases entriesUnder store none withCategories rest <;> rfl
  | error failure =>
    cases failure <;> cases entriesUnder store none withCategories rest <;> rfl

/-- What one key gives belongs to the key's project. -/
theorem project_of_mem_keyEntries {store : Store} {withCategories : Bool}
    {owner language : String} {here : List Entry}
    (found : keyEntries store withCategories owner language = .ok here) :
    ∀ entry ∈ here, entry.project = owner := by
  unfold keyEntries at found
  split at found
  · unfold entriesChecked at found
    split at found
    · cases found
      simp
    · obtain ⟨_, -, found⟩ := bind_eq_ok found
      cases found
      exact fun entry member => project_of_mem_entriesOf member
  · cases found
    simp
  · cases found

/-- The entries loaded for the keys of a project are those of all the keys that belong to the
project, in the same order. -/
theorem entriesUnder_filter_project (store : Store) (withCategories : Bool) (project : String) :
    ∀ (keys : List (String × String)) (entries : List Entry),
      entriesUnder store none withCategories keys = .ok entries →
      entriesUnder store none withCategories (keys.filter (·.1 == project)) =
        .ok (entries.filter (·.project == project))
  | [], entries, loaded => by
    simp only [entriesUnder] at loaded
    cases loaded
    rfl
  | (owner, language) :: rest, entries, loaded => by
    rw [entriesUnder_cons] at loaded
    obtain ⟨here, found, loaded⟩ := bind_eq_ok loaded
    cases loadedRest : entriesUnder store none withCategories rest with
    | error failure =>
      rw [loadedRest] at loaded
      cases loaded
    | ok others =>
      rw [loadedRest] at loaded
      cases loaded
      have induction := entriesUnder_filter_project store withCategories project rest others
        loadedRest
      have owned := project_of_mem_keyEntries found
      by_cases mine : owner = project
      · subst mine
        have keepAll : here.filter (·.project == owner) = here :=
          List.filter_eq_self.mpr (by simp_all)
        rw [List.filter_cons_of_pos (by simp), entriesUnder_cons, found, induction,
          List.filter_append, keepAll]
        rfl
      · have dropAll : here.filter (·.project == project) = [] :=
          List.filter_eq_nil_iff.mpr (by simp_all)
        rw [List.filter_cons_of_neg (by simpa using mine), induction, List.filter_append, dropAll,
          List.nil_append]

/-- Ranking a project's entries in the project's scope is ranking all entries in that scope. -/
theorem rankAll_filter_project (entries : List Entry) (query project : String)
    (limit : Option Int) :
    rankAll (entries.filter (·.project == project)) query (some project) limit =
      rankAll entries query (some project) limit := by
  have inProject : inScope (some project) = fun entry => entry.project == project := rfl
  simp only [rankAll, inProject, List.filter_filter, Bool.and_self]

/-! ## Searching a store in a project's scope -/

/-- The keys of a project's scope are the stored keys that belong to it. -/
theorem scopeKeys_some (store : Store) (project : String) :
    scopeKeys store (some project) = (scopeKeys store none).filter (·.1 == project) := by
  have everything : (store.records.map Record.key).filter (inKeyScope none) =
      store.records.map Record.key :=
    List.filter_eq_self.mpr (by simp [inKeyScope])
  unfold scopeKeys
  rw [everything]
  rfl

/-- A search index answers a query with a limit given as `null` or an integer by ranking its
entries and cutting to the limit. -/
theorem queryLimited_build (entries : List Entry) (generation : Nat) (query : String)
    (scope : Option String) (limit : Option Int) :
    (SearchIndex.build entries generation).queryLimited none query scope (limit.elim .null .int) =
      .ok (truncate limit (rankAll entries query scope none)) := by
  unfold SearchIndex.queryLimited
  by_cases noTerms : (queryTerms query).isEmpty
  · simp [noTerms, rankAll]
  · have readLimit : limitOf (limit.elim .null .int) = .ok limit := by
      cases limit <;> rfl
    simp only [noTerms, Bool.false_eq_true, if_false, SearchIndex.query_eq_rankAll, readLimit]
    rfl

/-- A fresh engine searches a usable store by loading the entries of the scope's keys and
ranking them. -/
theorem search_fresh {store : Store} (usable : store.fault = none) (categories : Bool)
    (query : String) (scope : Option String) (limit : Data.Value) :
    (({ withCategories := categories } : Engine).search store none query scope limit).2 =
      entriesUnder store none categories (scopeKeys store scope) >>= fun entries =>
        (SearchIndex.build entries store.generation).queryLimited none query scope limit := by
  unfold Engine.search
  rw [Engine.build_of_usable usable]
  cases entriesUnder store none categories (scopeKeys store scope) <;> rfl

/-- Once the entries of every stored key are loaded, a fresh engine answers a query over every
project with the ranking of those entries. -/
theorem search_unscoped {store : Store} {categories : Bool} {entries : List Entry}
    (usable : store.fault = none) (query : String)
    (loaded : entriesUnder store none categories (scopeKeys store none) = .ok entries) :
    (({ withCategories := categories } : Engine).search store none query none .null).2 =
      .ok (rankAll entries query none none) := by
  rw [search_fresh usable, loaded]
  exact queryLimited_build entries store.generation query none none

/-- Whenever a fresh engine answers a query over every project, it answers the query in one
project's scope with that project's results, in the same order and with the same scores,
cut to the limit. -/
theorem Engine.search_scoped (categories : Bool) (store : Store) (query project : String)
    (limit : Option Int) (results : List Result)
    (unscoped : (({ withCategories := categories } : Engine).search store none query none
      .null).2 = .ok results) :
    (({ withCategories := categories } : Engine).search store none query (some project)
        (limit.elim .null .int)).2 =
      .ok (truncate limit (results.filter (·.project == project))) := by
  cases fault : store.fault with
  | some message =>
    simp [Engine.search, Engine.build_of_fault fault] at unscoped
  | none =>
    have loadedAll : ∃ entries,
        entriesUnder store none categories (scopeKeys store none) = .ok entries := by
      rw [search_fresh fault] at unscoped
      obtain ⟨entries, loaded, -⟩ := bind_eq_ok unscoped
      exact ⟨entries, loaded⟩
    obtain ⟨entries, loaded⟩ := loadedAll
    rw [search_unscoped fault query loaded] at unscoped
    cases unscoped
    rw [search_fresh fault, scopeKeys_some,
      entriesUnder_filter_project store categories project _ entries loaded]
    show (SearchIndex.build _ store.generation).queryLimited none query (some project)
      (limit.elim .null .int) = _
    rw [queryLimited_build, rankAll_filter_project, rankAll_scoped]
    rfl

/-- Scoping a search to a project commutes with ranking and with the limit. Over any store,
whenever a fresh engine answers a query over every project, its answer in one project's
scope is that project's part of the answer, with the same scores, cut to the limit; inside
one search index the same holds of every query. -/
theorem scoped_search_eq_filter (categories : Bool) (store : Store) (entries : List Entry)
    (generation : Nat) (query project : String) (limit : Option Int) :
    (∀ results,
      (({ withCategories := categories } : Engine).search store none query none .null).2 =
          .ok results →
        (({ withCategories := categories } : Engine).search store none query (some project)
            (limit.elim .null .int)).2 =
          .ok (truncate limit (results.filter (·.project == project)))) ∧
    (SearchIndex.build entries generation).query none query (some project) limit =
      ((SearchIndex.build entries generation).query none query none none).map
        fun results => truncate limit (results.filter (·.project == project)) :=
  ⟨Engine.search_scoped categories store query project limit,
    SearchIndex.query_scoped entries generation query project limit⟩

/-- A project with a page `run`: a fresh engine answers `run` with the ranking of the page's
entries, and in the scope of the project with the same answer cut to one result. -/
theorem scoped_search_of_one_project :
    (({ withCategories := false } : Engine).search
        { records := [⟨⟨"p", "go", 1, 0, 0, ""⟩, .index { language := "go", libraries := [{
          name := "p", id := "p", pages := [{
            path := "run.go", title := "run", searchKey := ["run"] }] }] }⟩] }
        none "run" none .null).2 =
      .ok (rankAll (entriesOf "p" { language := "go", libraries := [{
          name := "p", id := "p", pages := [{
            path := "run.go", title := "run", searchKey := ["run"] }] }] } false) "run" none none) ∧
    (({ withCategories := false } : Engine).search
        { records := [⟨⟨"p", "go", 1, 0, 0, ""⟩, .index { language := "go", libraries := [{
          name := "p", id := "p", pages := [{
            path := "run.go", title := "run", searchKey := ["run"] }] }] }⟩] }
        none "run" (some "p") ((some 1 : Option Int).elim .null .int)).2 =
      .ok (truncate (some 1) ((rankAll (entriesOf "p" { language := "go", libraries := [{
          name := "p", id := "p", pages := [{
            path := "run.go", title := "run", searchKey := ["run"] }] }] } false) "run" none
            none).filter (·.project == "p"))) := by
  have projectEncodes : encodeStrict "p" = .ok () := rfl
  have languageEncodes : encodeStrict "go" = .ok () := rfl
  have unscoped := @search_unscoped { records := [
      ⟨⟨"p", "go", 1, 0, 0, ""⟩, .index { language := "go", libraries := [{
        name := "p", id := "p", pages := [{
          path := "run.go", title := "run", searchKey := ["run"] }] }] }⟩] } false
    (entriesOf "p" { language := "go", libraries := [{
        name := "p", id := "p", pages := [{
          path := "run.go", title := "run", searchKey := ["run"] }] }] } false) rfl "run"
    (by simp [scopeKeys, inKeyScope, List.filter_cons, entriesUnder_cons, keyEntries, Store.get,
      checkKey, checkpoint, Store.usable, Store.find?, Record.key, latestVersion, entriesChecked,
      Index.pages, entriesUnder, projectEncodes, languageEncodes, bind, Except.bind, pure,
      Except.pure, Except.map])
  exact ⟨unscoped, (scoped_search_eq_filter false _ [] 0 "run" "p" (some 1)).1 _ unscoped⟩

end DocIndex.Search
