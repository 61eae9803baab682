import DocIndex.Extract.Registry
import Mathlib.Data.List.Nodup
import Mathlib.Data.List.Pairwise
import Mathlib.Data.List.Perm.Subperm

/-!
# Dispatch agrees with what each extractor takes

A registry is built only from extractors that are pairwise `Apart`: distinct languages, and no
extension claimed by two of them. Under that invariant the extension table finds, for an
extension, exactly the one extractor that claims it, so looking at a file through the table's
owner is the same as asking every extractor whether it accepts the file. The scan stops as
soon as every language is found; since the languages found are distinct registered ones, at
that point they are all of them, and stopping changes nothing.

Main statement: `dispatch_eq_extractors_with_sources`. Dispatch returns, in registration
order, exactly the extractors that accept some walked file, which are those whose own source
files under the directory are not empty; a walk that fails makes dispatch fail the same way.
-/

namespace DocIndex.Extract

open DocIndex.Disk

/-! ## What a successful build guarantees -/

/-- Two extractors registered side by side: their languages differ and no extension is
claimed by both. -/
def Apart (first second : Extractor) : Prop :=
  first.language ≠ second.language ∧ ∀ extension ∈ first.extensions, extension ∉ second.extensions

theorem Apart.symm {first second : Extractor} (apart : Apart first second) :
    Apart second first :=
  ⟨fun same => apart.1 same.symm,
    fun extension inSecond inFirst => apart.2 extension inFirst inSecond⟩

instance : Std.Symm Apart := ⟨fun _ _ => Apart.symm⟩

@[simp]
theorem mem_sortedDistinct {text : String} {texts : List String} :
    text ∈ Search.sortedDistinct texts ↔ text ∈ texts := by
  simp [Search.sortedDistinct]

/-- Claiming extensions succeeds only for extensions not yet claimed, and records each of
them after the ones claimed before. -/
theorem claimExtensions_eq_ok {language : String} {extensions : List String} :
    ∀ {claims claimed : Claims}, claimExtensions language claims extensions = .ok claimed →
      (∀ extension ∈ extensions, extension ∉ claims.map Prod.fst) ∧
        claimed.map Prod.fst = claims.map Prod.fst ++ extensions := by
  induction extensions with
  | nil =>
    intro claims claimed succeeded
    cases succeeded
    simp
  | cons extension rest ih =>
    intro claims claimed succeeded
    rw [claimExtensions] at succeeded
    split at succeeded
    · cases succeeded
    · rename_i unclaimed
      obtain ⟨restUnclaimed, recorded⟩ := ih succeeded
      have fresh : extension ∉ claims.map Prod.fst := by
        rw [List.lookup_eq_none_iff] at unclaimed
        simp only [List.mem_map, not_exists, not_and]
        rintro ⟨key, owner⟩ member rfl
        simpa using unclaimed _ member
      refine ⟨?_, by simpa using recorded⟩
      intro other member
      rcases List.mem_cons.mp member with rfl | later
      · exact fresh
      · have := restUnclaimed other later
        simp only [List.map_append, List.mem_append, not_or] at this
        exact this.1

/-- Checking extractors one by one succeeds only when none of them repeats a language seen or
an extension claimed before it, and any two of them are apart. -/
theorem checkExtractors_eq_ok {extractors : List Extractor} :
    ∀ {languages : List String} {claims : Claims},
      checkExtractors languages claims extractors = .ok () →
        (∀ extractor ∈ extractors, extractor.language ∉ languages ∧
          ∀ extension ∈ extractor.extensions, extension ∉ claims.map Prod.fst) ∧
        extractors.Pairwise Apart := by
  induction extractors with
  | nil => simp
  | cons extractor rest ih =>
    intro languages claims checked
    simp only [checkExtractors, bind, Except.bind] at checked
    split at checked
    · cases checked
    rename_i declared
    split at checked
    · cases checked
    rename_i unseen
    cases claiming : claimExtensions extractor.language claims
        (Search.sortedDistinct extractor.extensions) with
    | error failure => simp [claiming] at checked
    | ok claimed =>
      simp only [claiming] at checked
      obtain ⟨unclaimed, recorded⟩ := claimExtensions_eq_ok claiming
      obtain ⟨restFresh, restApart⟩ := ih checked
      have firstFresh : extractor.language ∉ languages := by simpa using unseen
      refine ⟨?_, List.pairwise_cons.mpr ⟨fun other member => ?_, restApart⟩⟩
      · -- the first extractor by its own checks, the rest by what they were checked against
        intro other member
        rcases List.mem_cons.mp member with rfl | later
        · exact ⟨firstFresh, fun extension inOwn => unclaimed extension (by simpa using inOwn)⟩
        · obtain ⟨otherFresh, otherUnclaimed⟩ := restFresh other later
          refine ⟨fun seen => otherFresh (List.mem_append_left _ seen), fun extension inOther => ?_⟩
          have := otherUnclaimed extension inOther
          rw [recorded, List.mem_append, not_or] at this
          exact this.1
      · -- a later extractor saw this one's language and found its extensions claimed
        obtain ⟨otherFresh, otherUnclaimed⟩ := restFresh other member
        refine ⟨fun same => otherFresh (by simp [same]), fun extension inOwn inOther => ?_⟩
        have := otherUnclaimed extension inOther
        rw [recorded, List.mem_append, not_or] at this
        exact this.2 (by simpa using inOwn)

/-- A built registry holds the extractors it was built from, pairwise apart. -/
theorem Registry.build_eq_ok {extractors : List Extractor} {registry : Registry}
    (built : Registry.build extractors = .ok registry) :
    registry.extractors = extractors ∧ extractors.Pairwise Apart := by
  simp only [Registry.build, bind, Except.bind] at built
  cases checked : checkExtractors [] [] extractors with
  | error failure => simp [checked] at built
  | ok passed =>
    simp only [checked, pure, Except.pure, Except.ok.injEq] at built
    exact ⟨by rw [← built], (checkExtractors_eq_ok checked).2⟩

/-! ## The extension table -/

section Table

variable {registry : Registry}

/-- Extractors apart from one another have distinct languages. -/
theorem languages_nodup (apart : registry.extractors.Pairwise Apart) :
    registry.languages.Nodup :=
  List.pairwise_map.mpr (apart.imp fun separate => separate.1)

/-- In a registry of extractors apart, the table finds an extractor for an extension exactly
when the extractor claims it. -/
theorem claiming_eq_some_iff (apart : registry.extractors.Pairwise Apart) {extractor : Extractor}
    (registered : extractor ∈ registry.extractors) (extension : String) :
    registry.claiming extension = some extractor ↔ extension ∈ extractor.extensions := by
  constructor
  · intro found
    simpa using List.find?_some found
  · intro claims
    cases found : registry.claiming extension with
    | none =>
      have := List.find?_eq_none.mp found extractor registered
      simp [claims] at this
    | some owner =>
      have owned : extension ∈ owner.extensions := by simpa using List.find?_some found
      by_cases same : owner = extractor
      · rw [same]
      · have separate := apart.forall (List.mem_of_find?_eq_some found) registered same
        exact absurd claims (separate.2 extension owned)

/-- A file counts for a language when the extractor the table finds for its extension is
that language's and accepts the file. -/
def Registry.CountsFor (registry : Registry) (file : SourceFile) (language : String) : Prop :=
  ∃ owner, registry.claiming file.extension = some owner ∧ owner.language = language ∧
    owner.accepts file.relativePath (some file.extension) = true

/-- A file counts for a registered language exactly when that language's extractor accepts
it. -/
theorem countsFor_iff_accepts (apart : registry.extractors.Pairwise Apart)
    {extractor : Extractor} (registered : extractor ∈ registry.extractors) (file : SourceFile) :
    registry.CountsFor file extractor.language ↔
      extractor.accepts file.relativePath (some file.extension) = true := by
  constructor
  · rintro ⟨owner, found, same, accepted⟩
    have owned := List.mem_of_find?_eq_some found
    rwa [← List.inj_on_of_nodup_map (languages_nodup apart) owned registered same]
  · intro accepted
    have claims : file.extension ∈ extractor.extensions := by
      simp only [Extractor.accepts, Option.getD_some, Bool.and_eq_true] at accepted
      simpa using accepted.1
    exact ⟨extractor, (claiming_eq_some_iff apart registered _).mpr claims, rfl, accepted⟩

end Table

/-! ## The scan with its early exit -/

/-- Distinct registered languages as many as the registry's extractors are all of them. -/
theorem mem_of_length_eq {registry : Registry} {found : List String} (distinct : found.Nodup)
    (registered : ∀ language ∈ found, language ∈ registry.languages)
    (complete : found.length = registry.size) {language : String}
    (member : language ∈ registry.languages) : language ∈ found := by
  have everything : found.Perm registry.languages := by
    refine (distinct.subperm registered).perm_of_length_le ?_
    simp [complete, Registry.languages, Registry.size]
  exact everything.mem_iff.mpr member

/-- The scan finds a registered language exactly when it was found before or a file counts
for it; stopping once every language is found loses none. -/
theorem mem_languagesFound {registry : Registry} (files : List SourceFile) :
    ∀ {found : List String}, found.Nodup → (∀ language ∈ found, language ∈ registry.languages) →
      ∀ language ∈ registry.languages,
        (language ∈ registry.languagesFound found files ↔
          language ∈ found ∨ ∃ file ∈ files, registry.CountsFor file language) := by
  induction files with
  | nil => simp [Registry.languagesFound]
  | cons file rest ih =>
    intro found distinct registered language member
    rw [Registry.languagesFound]
    simp only [List.mem_cons, exists_eq_or_imp]
    cases claimed : registry.claiming file.extension with
    | none =>
      have silent : ¬ registry.CountsFor file language := by
        rintro ⟨owner, found, -⟩
        simp [claimed] at found
      simp only
      rw [ih distinct registered language member]
      tauto
    | some owner =>
      have counts : registry.CountsFor file language ↔
          owner.language = language ∧
          owner.accepts file.relativePath (some file.extension) = true := by
        simp [Registry.CountsFor, claimed]
      have ownerRegistered : owner.language ∈ registry.languages :=
        List.mem_map_of_mem (List.mem_of_find?_eq_some claimed)
      simp only
      by_cases seen : owner.language ∈ found
      · -- the owner's language was found already: the file adds nothing
        rw [if_pos (by simpa using seen), ih distinct registered language member, counts]
        constructor
        · rintro (old | later)
          · exact .inl old
          · exact .inr (.inr later)
        · rintro (old | ⟨same, -⟩ | later)
          · exact .inl old
          · exact .inl (same ▸ seen)
          · exact .inr later
      rw [if_neg (by simpa using seen)]
      by_cases accepted : owner.accepts file.relativePath (some file.extension) = true
      · rw [if_pos accepted]
        have moreDistinct : (found ++ [owner.language]).Nodup :=
          List.nodup_append.mpr ⟨distinct, List.nodup_singleton _, fun _ old _ single => by
            rw [List.mem_singleton.mp single]
            exact fun same => seen (same ▸ old)⟩
        have moreRegistered : ∀ other ∈ found ++ [owner.language], other ∈ registry.languages := by
          intro other inMore
          rcases List.mem_append.mp inMore with old | single
          · exact registered other old
          · rw [List.mem_singleton.mp single]
            exact ownerRegistered
        split
        · -- every language is found now: the scan stops, and loses nothing
          rename_i complete
          have everything := mem_of_length_eq moreDistinct moreRegistered
            (by simpa using complete) member
          simp only [everything, true_iff]
          rcases List.mem_append.mp everything with old | single
          · exact .inl old
          · exact .inr (.inl (counts.mpr ⟨(List.mem_singleton.mp single).symm, accepted⟩))
        · rw [ih moreDistinct moreRegistered language member, counts, List.mem_append,
            List.mem_singleton]
          constructor
          · rintro ((old | same) | later)
            · exact .inl old
            · exact .inr (.inl ⟨same.symm, accepted⟩)
            · exact .inr (.inr later)
          · rintro (old | ⟨same, -⟩ | later)
            · exact .inl (.inl old)
            · exact .inl (.inr same.symm)
            · exact .inr later
      · -- the owner refuses the file: it counts for nothing
        rw [if_neg accepted, ih distinct registered language member, counts]
        simp only [accepted, Bool.false_eq_true, and_false, false_or]

/-! ## Dispatch -/

/-- Dispatch over extractors apart returns, in registration order, those that accept some
walked file. -/
theorem dispatch_eq_filter_accepts {registry : Registry}
    (apart : registry.extractors.Pairwise Apart) (halt : Search.Halt) (root : Node) :
    registry.dispatch halt root =
      (walk halt root).map fun files => registry.extractors.filter fun extractor =>
        files.any fun file => extractor.accepts file.relativePath (some file.extension) := by
  unfold Registry.dispatch
  cases walk halt root with
  | error failure => rfl
  | ok files =>
    simp only [bind, Except.bind, pure, Except.pure, Except.map, Except.ok.injEq]
    apply List.filter_congr
    intro extractor registered
    have found := mem_languagesFound files List.nodup_nil (by simp) extractor.language
      (List.mem_map_of_mem registered)
    rw [Bool.eq_iff_iff, List.contains_iff_mem, found, List.any_eq_true]
    simp only [List.not_mem_nil, false_or]
    exact exists_congr fun file =>
      and_congr_right fun _ => countsFor_iff_accepts apart registered file

/-- Dispatch agrees with what each extractor takes. For a registry built from some extractors,
dispatching a directory returns, in registration order, exactly the extractors that accept a
file of the walk, that is those whose own source files there are not empty, and fails as the
walk fails; the scan's early stop changes nothing. The extension table finds a registered
extractor for an extension exactly when the extractor claims it. -/
theorem dispatch_eq_extractors_with_sources {extractors : List Extractor} {registry : Registry}
    (built : Registry.build extractors = .ok registry) :
    (∀ (halt : Search.Halt) (root : Node), registry.dispatch halt root =
      (walk halt root).map fun files => extractors.filter fun extractor =>
        files.any fun file => extractor.accepts file.relativePath (some file.extension)) ∧
    ∀ extractor ∈ extractors, ∀ extension,
      registry.claiming extension = some extractor ↔ extension ∈ extractor.extensions := by
  obtain ⟨held, apart⟩ := Registry.build_eq_ok built
  subst held
  exact ⟨dispatch_eq_filter_accepts apart,
    fun _ registered extension => claiming_eq_some_iff apart registered extension⟩

/-- A Python and a Go extractor with one extension each build a registry whose dispatch is
what they take. -/
theorem python_go_dispatch_eq_extractors_with_sources :
    Registry.build [⟨"PythonExtractor", pythonLanguage, ["py"], isPythonTestPath⟩,
        ⟨"GoExtractor", goLanguage, ["go"], isGoTestPath⟩] =
      .ok ⟨[⟨"PythonExtractor", pythonLanguage, ["py"], isPythonTestPath⟩,
        ⟨"GoExtractor", goLanguage, ["go"], isGoTestPath⟩]⟩ ∧
    ((∀ (halt : Search.Halt) (root : Node),
      (⟨[⟨"PythonExtractor", pythonLanguage, ["py"], isPythonTestPath⟩,
        ⟨"GoExtractor", goLanguage, ["go"], isGoTestPath⟩]⟩ : Registry).dispatch halt root =
        (walk halt root).map fun files =>
          [(⟨"PythonExtractor", pythonLanguage, ["py"], isPythonTestPath⟩ : Extractor),
            ⟨"GoExtractor", goLanguage, ["go"], isGoTestPath⟩].filter fun extractor =>
            files.any fun file => extractor.accepts file.relativePath (some file.extension)) ∧
      ∀ extractor ∈ [(⟨"PythonExtractor", pythonLanguage, ["py"], isPythonTestPath⟩ : Extractor),
          ⟨"GoExtractor", goLanguage, ["go"], isGoTestPath⟩], ∀ extension,
        (⟨[⟨"PythonExtractor", pythonLanguage, ["py"], isPythonTestPath⟩,
          ⟨"GoExtractor", goLanguage, ["go"], isGoTestPath⟩]⟩ : Registry).claiming extension =
            some extractor ↔ extension ∈ extractor.extensions) :=
  have built : Registry.build [⟨"PythonExtractor", pythonLanguage, ["py"], isPythonTestPath⟩,
      ⟨"GoExtractor", goLanguage, ["go"], isGoTestPath⟩] =
      .ok ⟨[⟨"PythonExtractor", pythonLanguage, ["py"], isPythonTestPath⟩,
        ⟨"GoExtractor", goLanguage, ["go"], isGoTestPath⟩]⟩ := by
    simp [Registry.build, checkExtractors, claimExtensions, Search.sortedDistinct,
      List.eraseDups_cons, pythonLanguage, goLanguage, bind, Except.bind, pure, Except.pure]
  ⟨built, dispatch_eq_extractors_with_sources built⟩

end DocIndex.Extract
