import Mathlib
import DocIndex.Markdown.Extract
import DocIndex.Proofs.Disk.WalkPaths
import DocIndex.Proofs.Extract.HeadingStack

/-!
# Admissible Markdown indexes

Among sibling headings, an identifier is the heading's slug, or the slug with the first
suffix `-1`, `-2`, … that no earlier sibling took. The candidates are pairwise distinct, so
among the first `n + 1` of them one is free of `n` taken identifiers: the search, bounded by
that many tries, always ends on the first free candidate, and sibling identifiers come out
distinct even where a generated identifier such as `a-1` meets a heading written `a 1`. Every
readable document becomes one page at its file's path, so the index the Markdown reader makes
of a well-formed tree passes validation.
-/

namespace DocIndex.Markdown

open DocIndex.Document DocIndex.Disk DocIndex.Search

/-! ## Fresh identifiers -/

/-- The identifier the de-duplication of `slug` tries at `count`: the slug itself first,
then the slug with the count as a suffix. -/
def candidateId (slug : String) (count : Nat) : String :=
  if count = 0 then slug else slug ++ "-" ++ toString count

theorem candidateId_injective (slug : String) : Function.Injective (candidateId slug) := by
  have longer : ∀ count : Nat, slug ≠ slug ++ "-" ++ toString count := by
    intro count same
    have lengths := congrArg String.length same
    simp only [String.length_append] at lengths
    have dash : "-".length = 1 := rfl
    omega
  intro first second same
  unfold candidateId at same
  by_cases firstZero : first = 0 <;> by_cases secondZero : second = 0 <;>
    simp only [firstZero, secondZero, if_true, if_false] at same
  · omega
  · exact absurd same (longer second)
  · exact absurd same.symm (longer first)
  · rw [String.append_assoc, String.append_assoc] at same
    exact Nat.repr_injective (eq_of_append_left (eq_of_append_left same))

/-- Of the first `n + 1` candidates, one is free of `n` taken identifiers. -/
theorem exists_candidateId_not_mem (used : List String) (slug : String) :
    ∃ count, count < used.length + 1 ∧ candidateId slug count ∉ used := by
  by_contra allTaken
  simp only [not_exists, not_and, not_not] at allTaken
  have tried : ((List.range (used.length + 1)).map (candidateId slug)).Nodup :=
    List.nodup_range.map (candidateId_injective slug)
  have covered : (List.range (used.length + 1)).map (candidateId slug) ⊆ used := by
    intro candidate member
    obtain ⟨count, inRange, rfl⟩ := List.mem_map.mp member
    exact allTaken count (List.mem_range.mp inRange)
  have bound := tried.length_le_of_subset covered
  simp only [List.length_map, List.length_range] at bound
  omega

theorem freshId_succ (used : List String) (slug : String) (fuel start : Nat) :
    freshId used slug (fuel + 1) start =
      if used.contains (candidateId slug start) then freshId used slug fuel (start + 1)
      else candidateId slug start := rfl

/-- A search with a free candidate among its tries ends on the first free one. -/
theorem freshId_eq_first_free (used : List String) (slug : String) :
    ∀ (fuel start : Nat), (∃ count, start ≤ count ∧ count < start + fuel ∧
        candidateId slug count ∉ used) →
      ∃ count, start ≤ count ∧ count < start + fuel ∧
        freshId used slug fuel start = candidateId slug count ∧ candidateId slug count ∉ used ∧
          ∀ earlier, start ≤ earlier → earlier < count → candidateId slug earlier ∈ used
  | 0, start, ⟨count, above, below, _⟩ => by omega
  | fuel + 1, start, ⟨count, above, below, free⟩ => by
    rw [freshId_succ]
    by_cases taken : candidateId slug start ∈ used
    · have later : start + 1 ≤ count := by
        rcases Nat.eq_or_lt_of_le above with same | less
        · exact absurd (same ▸ taken) free
        · exact less
      obtain ⟨found, foundAbove, foundBelow, result, foundFree, firstFree⟩ :=
        freshId_eq_first_free used slug fuel (start + 1) ⟨count, later, by omega, free⟩
      refine ⟨found, by omega, by omega, ?_, foundFree, fun earlier atLeast before => ?_⟩
      · rw [if_pos (List.contains_iff_mem.mpr taken), result]
      · rcases Nat.eq_or_lt_of_le atLeast with same | less
        · exact same ▸ taken
        · exact firstFree earlier less before
    · refine ⟨start, le_refl _, by omega, ?_, taken, fun earlier atLeast before => by omega⟩
      rw [if_neg (fun inUsed => taken (List.contains_iff_mem.mp inUsed))]

/-- The identifier given to a heading is the first candidate no earlier sibling took: the
bounded search never runs out of tries. -/
theorem freshId_first_free (used : List String) (slug : String) :
    ∃ count, count ≤ used.length ∧ freshId used slug (used.length + 1) 0 = candidateId slug count ∧
      candidateId slug count ∉ used ∧ ∀ earlier < count, candidateId slug earlier ∈ used := by
  obtain ⟨free, freeBelow, freeFree⟩ := exists_candidateId_not_mem used slug
  obtain ⟨count, -, below, result, fresh, first⟩ :=
    freshId_eq_first_free used slug (used.length + 1) 0 ⟨free, by omega, by omega, freeFree⟩
  exact ⟨count, by omega, result, fresh, fun earlier before => first earlier (by omega) before⟩

theorem freshId_not_mem (used : List String) (slug : String) :
    freshId used slug (used.length + 1) 0 ∉ used := by
  obtain ⟨count, -, result, fresh, -⟩ := freshId_first_free used slug
  rw [result]
  exact fresh

/-! ## Sections of a document -/

/-- Sections made from headings avoid the identifiers already taken, and have distinct
siblings at every node. -/
theorem sectionsFrom_siblingsDistinct :
    ∀ (fuel : Nat) (used : List String) (headings : List Heading),
      (∀ s ∈ sectionsFrom used fuel headings, s.id ∉ used) ∧
        SiblingsDistinct (sectionsFrom used fuel headings)
  | 0, used, headings => by simp [sectionsFrom]
  | fuel + 1, used, [] => by simp [sectionsFrom]
  | fuel + 1, used, heading :: rest => by
    rw [sectionsFrom]
    have fresh := freshId_not_mem used (slugify heading.text)
    obtain ⟨-, childrenDistinct⟩ := sectionsFrom_siblingsDistinct fuel []
      (rest.takeWhile fun other => other.level > heading.level)
    obtain ⟨restFresh, restDistinct⟩ := sectionsFrom_siblingsDistinct fuel
      (freshId used (slugify heading.text) (used.length + 1) 0 :: used)
      (rest.dropWhile fun other => other.level > heading.level)
    refine ⟨?_, ?_⟩
    · rw [List.forall_mem_cons]
      exact ⟨fresh, fun s member inUsed => restFresh s member (List.mem_cons_of_mem _ inUsed)⟩
    · rw [siblingsDistinct_cons]
      refine ⟨fun taken => ?_, childrenDistinct, restDistinct⟩
      obtain ⟨s, member, same⟩ := List.mem_map.mp taken
      exact restFresh s member (same ▸ List.mem_cons_self)

section Reading

variable {load : Yaml.Loader}

theorem documentPage_eq_ok {relativePath text : String} {page : Page}
    (made : documentPage load relativePath text = .ok page) :
    page.path = relativePath ∧ SiblingsDistinct page.sections := by
  unfold documentPage at made
  obtain ⟨⟨matter, body⟩, -, made⟩ := bind_eq_ok made
  obtain ⟨keyPath, -, made⟩ := bind_eq_ok made
  cases made
  exact ⟨rfl, sectionsOf_eq_sectionsFrom _ ▸ (sectionsFrom_siblingsDistinct _ [] _).2⟩

/-! ## The index of a directory -/

/-- A file adds no page, or one page at its own path. -/
theorem gather_pages {halt : Halt} {gathered next : Gathered} {file : SourceFile}
    (added : gather load halt gathered file = .ok next) :
    next.pages = gathered.pages ∨
      ∃ page, next.pages = page :: gathered.pages ∧ page.path = file.relativePath ∧
        SiblingsDistinct page.sections := by
  unfold gather at added
  obtain ⟨_, -, added⟩ := bind_eq_ok added
  split at added
  · cases added
    exact .inl rfl
  · obtain ⟨page, madePage, added⟩ := bind_eq_ok added
    cases added
    exact .inr ⟨page, rfl, documentPage_eq_ok madePage⟩

/-- The pages gathered from files lie, in order, at some of the files' paths. -/
theorem foldlM_gather_pages {halt : Halt} :
    ∀ (files : List SourceFile) (gathered result : Gathered),
      files.foldlM (gather load halt) gathered = .ok result →
        (result.pages.reverse.map Page.path).Sublist
            (gathered.pages.reverse.map Page.path ++ files.map SourceFile.relativePath) ∧
          ((∀ page ∈ gathered.pages, SiblingsDistinct page.sections) →
            ∀ page ∈ result.pages, SiblingsDistinct page.sections)
  | [], gathered, result, folded => by
    cases folded
    exact ⟨by simp, id⟩
  | file :: rest, gathered, result, folded => by
    rw [List.foldlM_cons] at folded
    obtain ⟨next, added, folded⟩ := bind_eq_ok folded
    obtain ⟨paths, sections⟩ := foldlM_gather_pages rest next result folded
    rcases gather_pages added with same | ⟨page, grown, path, pageDistinct⟩
    · refine ⟨paths.trans ?_, fun below => sections (same ▸ below)⟩
      rw [same, List.map_cons]
      exact (List.sublist_cons_self _ _).append_left _
    · refine ⟨paths.trans ?_, fun below => sections ?_⟩
      · rw [grown, List.reverse_cons, List.map_append, List.map_cons, List.map_cons, path,
          List.append_assoc]
        rfl
      · rw [grown, List.forall_mem_cons]
        exact ⟨pageDistinct, below⟩

/-- What every page a document makes satisfies, every gathered page satisfies. -/
theorem foldlM_gather_forall {halt : Halt} {holds : Page → Prop}
    (madeHolds : ∀ relativePath text page, documentPage load relativePath text = .ok page → holds page) :
    ∀ (files : List SourceFile) (gathered result : Gathered),
      files.foldlM (gather load halt) gathered = .ok result →
        (∀ page ∈ gathered.pages, holds page) → ∀ page ∈ result.pages, holds page
  | [], gathered, result, folded, before => by
    cases folded
    exact before
  | file :: rest, gathered, result, folded, before => by
    rw [List.foldlM_cons] at folded
    obtain ⟨next, added, folded⟩ := bind_eq_ok folded
    refine foldlM_gather_forall madeHolds rest next result folded ?_
    unfold gather at added
    obtain ⟨_, -, added⟩ := bind_eq_ok added
    split at added
    · cases added
      exact before
    · obtain ⟨page, madePage, added⟩ := bind_eq_ok added
      cases added
      rw [List.forall_mem_cons]
      exact ⟨madeHolds _ _ page madePage, before⟩

/-- What every page a document makes satisfies, every page of the Markdown index
satisfies. -/
theorem indexDirectory_forall_pages {holds : Page → Prop}
    (madeHolds : ∀ relativePath text page, documentPage load relativePath text = .ok page → holds page)
    {halt : Halt} {name : String} {root : Node} {index : Index}
    (made : indexDirectory load halt name root = .ok index) : ∀ pair ∈ index.pages, holds pair.2 := by
  unfold indexDirectory at made
  obtain ⟨files, -, made⟩ := bind_eq_ok made
  obtain ⟨gathered, madeGathered, made⟩ := bind_eq_ok made
  cases made
  intro pair member
  simp only [Index.pages, List.flatMap_cons, List.flatMap_nil, List.append_nil, List.mem_map]
    at member
  obtain ⟨page, inPages, rfl⟩ := member
  exact foldlM_gather_forall madeHolds _ ⟨[], 0, 0⟩ gathered madeGathered (by simp) page
    (List.mem_reverse.mp inPages)

/-- The Markdown index of a well-formed tree is of the Markdown language, under the latest
schema, with one library, and well formed. -/
theorem indexDirectory_admissible {halt : Halt} {name : String} {root : Node}
    (wellFormed : root.WellFormed) {index : Index}
    (made : indexDirectory load halt name root = .ok index) :
    index.language = Extract.markdownLanguage ∧ index.schemaVersion = latestVersion ∧
      index.libraries.length = 1 ∧ index.WellFormed := by
  unfold indexDirectory at made
  obtain ⟨files, walked, made⟩ := bind_eq_ok made
  obtain ⟨gathered, madeGathered, made⟩ := bind_eq_ok made
  cases made
  obtain ⟨paths, sections⟩ := foldlM_gather_pages _ ⟨[], 0, 0⟩ gathered madeGathered
  simp only [List.reverse_nil, List.map_nil, List.nil_append] at paths
  refine ⟨rfl, rfl, rfl, Index.wellFormed_of_single rfl ?_ ?_⟩
  · exact List.Nodup.sublist paths
      ((walk_paths_nodup wellFormed walked).sublist (List.filter_sublist.map _))
  · intro page member
    exact sections (by simp) page (List.mem_reverse.mp member)

/-! ## Failures -/

theorem problemFailure_not_schema (problem : Yaml.Problem) : ¬ (problemFailure problem).IsSchema := by
  rintro ⟨_, wrong⟩
  cases problem <;> cases wrong

/-- Reading a front matter refuses only what its mapping holds, never for the schema. -/
theorem splitFrontMatter_failsOnly (content : String) :
    FailsOnly (fun failure => ¬ failure.IsSchema) (splitFrontMatter load content) := by
  unfold splitFrontMatter
  dsimp only
  split
  · exact FailsOnly.ok _
  · split
    · split
      · split <;> exact FailsOnly.ok _
      · exact FailsOnly.ok _
      · split
        · exact FailsOnly.ok _
        · exact FailsOnly.error (problemFailure_not_schema _)
    · exact FailsOnly.ok _

theorem documentPage_failsOnly (relativePath text : String) :
    FailsOnly (fun failure => ¬ failure.IsSchema) (documentPage load relativePath text) := by
  unfold documentPage
  refine (splitFrontMatter_failsOnly text).bind fun read _ => ?_
  obtain ⟨matter, body⟩ := read
  exact (PurePath.withoutSuffix_failsOnly _).bind fun _ _ => FailsOnly.pure _

/-- The Markdown reader fails only on a cancellation, a path with no name or a front matter
it cannot take, never for the schema. -/
theorem indexDirectory_failsOnly (halt : Halt) (name : String) (root : Node) :
    FailsOnly (fun failure => ¬ failure.IsSchema) (indexDirectory load halt name root) := by
  unfold indexDirectory
  refine (walk_failsOnly halt root).bind fun _ _ => ?_
  refine (FailsOnly.foldlM (fun gathered file _ => ?_) _).bind fun _ _ => FailsOnly.pure _
  unfold gather
  refine (checkpoint_failsOnly halt).bind fun _ _ => ?_
  split
  · exact FailsOnly.pure _
  · exact (documentPage_failsOnly _ _).bind fun _ _ => FailsOnly.pure _

end Reading

end DocIndex.Markdown
