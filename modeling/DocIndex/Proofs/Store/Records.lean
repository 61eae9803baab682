import DocIndex.Store.Basic
import DocIndex.Proofs.Text.Order

/-!
# Records in key order

A store keeps its records in strictly ascending key order, project first and language
second, and each record that a put wrote holds its index and tells that index's schema
version. This module shows that putting and deleting keep both facts (`Store.WellKept`),
and reads the records as a finite map from keys to indexes (`Store.contents`): a put maps
its key to the new index, a delete unmaps its key, and no other key changes.
-/

namespace DocIndex

open DocIndex.Document DocIndex.Search

/-! ## The order of keys -/

/-- One key comes before another by project, or by language within a project. -/
theorem keyBefore_iff {a b : String × String} :
    keyBefore a b = true ↔
      compareText a.1 b.1 = .lt ∨ (a.1 = b.1 ∧ compareText a.2 b.2 = .lt) := by
  unfold keyBefore
  cases first : compareText a.1 b.1 with
  | lt => simp [Ordering.then]
  | eq =>
    have same : a.1 = b.1 := compareText_eq_iff.mp first
    simp [Ordering.then, same]
  | gt =>
    have differ : a.1 ≠ b.1 := fun same => by simp [same] at first
    simp [Ordering.then, differ]

/-- No key comes before itself. -/
@[simp]
theorem keyBefore_self (key : String × String) : keyBefore key key = false := by
  have notBefore : ¬ keyBefore key key = true := by
    rw [keyBefore_iff]
    simp
  simpa using notBefore

/-- A key that comes before another differs from it. -/
theorem ne_of_keyBefore {a b : String × String} (before : keyBefore a b = true) : a ≠ b := by
  rintro rfl
  simp at before

/-- The key order is transitive. -/
theorem keyBefore_trans
    {a b c : String × String}
    (first : keyBefore a b = true)
    (second : keyBefore b c = true) :
    keyBefore a c = true := by
  rw [keyBefore_iff] at *
  rcases first with projectBefore | ⟨sameProject, languageBefore⟩
  · rcases second with projectBefore' | ⟨sameProject', -⟩
    · exact .inl (compareText_lt_trans projectBefore projectBefore')
    · exact .inl (sameProject' ▸ projectBefore)
  · rcases second with projectBefore' | ⟨sameProject', languageBefore'⟩
    · exact .inl (sameProject ▸ projectBefore')
    · exact .inr ⟨sameProject.trans sameProject',
        compareText_lt_trans languageBefore languageBefore'⟩

/-- Of two distinct keys, one comes before the other. -/
theorem keyBefore_of_not_keyBefore
    {a b : String × String}
    (distinct : a ≠ b)
    (notBefore : keyBefore a b = false) :
    keyBefore b a = true := by
  have notBefore' : ¬ keyBefore a b = true := by simp [notBefore]
  rw [keyBefore_iff] at notBefore' ⊢
  have swapProject := compareText_swap a.1 b.1
  have swapLanguage := compareText_swap a.2 b.2
  by_cases sameProject : a.1 = b.1
  · have differentLanguage : a.2 ≠ b.2 := fun sameLanguage =>
      distinct (Prod.ext sameProject sameLanguage)
    have : compareText a.2 b.2 ≠ .eq := fun equal =>
      differentLanguage (compareText_eq_iff.mp equal)
    refine .inr ⟨sameProject.symm, ?_⟩
    cases languageOrder : compareText a.2 b.2 <;> simp_all
  · have : compareText a.1 b.1 ≠ .eq := fun equal => sameProject (compareText_eq_iff.mp equal)
    refine .inl ?_
    cases projectOrder : compareText a.1 b.1 <;> simp_all

/-! ## Records in ascending key order -/

/-- Records in strictly ascending key order. -/
def KeyAscending (records : List Record) : Prop :=
  records.Pairwise fun a b => keyBefore a.key b.key = true

/-- Among records in ascending key order, two records of one key are one record. -/
theorem KeyAscending.eq_of_key_eq
    {records : List Record} {a b : Record}
    (ascending : KeyAscending records)
    (aMember : a ∈ records) (bMember : b ∈ records)
    (sameKey : a.key = b.key) :
    a = b := by
  induction records with
  | nil => simp at aMember
  | cons first rest ih =>
    obtain ⟨firstBelow, restAscending⟩ := List.pairwise_cons.mp ascending
    rcases List.mem_cons.mp aMember with rfl | aRest <;>
      rcases List.mem_cons.mp bMember with rfl | bRest
    · rfl
    · exact absurd sameKey (ne_of_keyBefore (firstBelow b bRest))
    · exact absurd sameKey.symm (ne_of_keyBefore (firstBelow a aRest))
    · exact ih restAscending aRest bRest

/-- Among records in ascending key order, the record found under a key is the one that
holds the key. -/
theorem KeyAscending.find?_eq_some_iff
    {records : List Record} {key : String × String} {record : Record}
    (ascending : KeyAscending records) :
    records.find? (fun other => other.key == key) = some record ↔
      record ∈ records ∧ record.key = key := by
  constructor
  · intro found
    exact ⟨List.mem_of_find?_eq_some found, by simpa using List.find?_some found⟩
  · rintro ⟨member, rfl⟩
    cases found : records.find? (fun other => other.key == record.key) with
    | none =>
      have missing := List.find?_eq_none.mp found record member
      simp at missing
    | some other =>
      have otherMember := List.mem_of_find?_eq_some found
      have sameKey : other.key = record.key := by simpa using List.find?_some found
      rw [ascending.eq_of_key_eq otherMember member sameKey]

/-- Placing a record keeps it and every record of another key. -/
theorem mem_placeRecord
    {record other : Record} {records : List Record}
    (ascending : KeyAscending records) :
    other ∈ placeRecord record records ↔
      other = record ∨ (other ∈ records ∧ other.key ≠ record.key) := by
  induction records with
  | nil => simp [placeRecord]
  | cons first rest ih =>
    obtain ⟨firstBelow, restAscending⟩ := List.pairwise_cons.mp ascending
    unfold placeRecord
    split
    · rename_i before
      have after : ∀ later ∈ first :: rest, later.key ≠ record.key := by
        intro later member
        rcases List.mem_cons.mp member with rfl | inRest
        · exact (ne_of_keyBefore before).symm
        · exact (ne_of_keyBefore (keyBefore_trans before (firstBelow later inRest))).symm
      rw [List.mem_cons]
      constructor
      · rintro (rfl | member)
        · exact .inl rfl
        · exact .inr ⟨member, after other member⟩
      · rintro (rfl | ⟨member, -⟩)
        · exact .inl rfl
        · exact .inr member
    · split
      · rename_i _ sameKey
        have replaced : first.key = record.key := by simpa using sameKey
        have after : ∀ later ∈ rest, later.key ≠ record.key := by
          intro later member
          rw [← replaced]
          exact (ne_of_keyBefore (firstBelow later member)).symm
        rw [List.mem_cons]
        constructor
        · rintro (rfl | member)
          · exact .inl rfl
          · exact .inr ⟨List.mem_cons_of_mem _ member, after other member⟩
        · rintro (rfl | ⟨member, differ⟩)
          · exact .inl rfl
          · rcases List.mem_cons.mp member with rfl | inRest
            · exact absurd replaced differ
            · exact .inr inRest
      · rename_i _ notSame
        have differ : first.key ≠ record.key := by simpa using notSame
        rw [List.mem_cons, ih restAscending]
        constructor
        · rintro (rfl | rfl | ⟨member, otherDiffer⟩)
          · exact .inr ⟨List.mem_cons_self, differ⟩
          · exact .inl rfl
          · exact .inr ⟨List.mem_cons_of_mem _ member, otherDiffer⟩
        · rintro (rfl | ⟨member, otherDiffer⟩)
          · exact .inr (.inl rfl)
          · rcases List.mem_cons.mp member with rfl | inRest
            · exact .inl rfl
            · exact .inr (.inr ⟨inRest, otherDiffer⟩)

/-- Placing a record keeps the records in ascending key order. -/
theorem placeRecord_ascending
    {record : Record} {records : List Record}
    (ascending : KeyAscending records) :
    KeyAscending (placeRecord record records) := by
  induction records with
  | nil => simp [placeRecord, KeyAscending]
  | cons first rest ih =>
    obtain ⟨firstBelow, restAscending⟩ := List.pairwise_cons.mp ascending
    unfold placeRecord
    split
    · rename_i before
      refine List.pairwise_cons.mpr ⟨?_, ascending⟩
      intro later member
      rcases List.mem_cons.mp member with rfl | inRest
      · exact before
      · exact keyBefore_trans before (firstBelow later inRest)
    · split
      · rename_i _ sameKey
        have replaced : first.key = record.key := by simpa using sameKey
        refine List.pairwise_cons.mpr ⟨?_, restAscending⟩
        intro later member
        rw [← replaced]
        exact firstBelow later member
      · rename_i notBefore notSame
        have differ : first.key ≠ record.key := by simpa using notSame
        have firstBefore : keyBefore first.key record.key = true :=
          keyBefore_of_not_keyBefore (Ne.symm differ) (by simpa using notBefore)
        refine List.pairwise_cons.mpr ⟨?_, ih restAscending⟩
        intro later member
        rcases (mem_placeRecord restAscending).mp member with rfl | ⟨inRest, -⟩
        · exact firstBefore
        · exact firstBelow later inRest

/-- Texts in non-descending order lose their repeats into a strictly ascending list. -/
theorem eraseDups_ascending :
    ∀ (names : List String), names.Pairwise (fun a b => compareText a b ≠ .gt) →
      names.eraseDups.Pairwise (fun a b => compareText a b = .lt)
  | [], _ => by simp
  | first :: rest, ascending => by
    obtain ⟨firstBelow, restAscending⟩ := List.pairwise_cons.mp ascending
    rw [List.eraseDups_cons]
    refine List.pairwise_cons.mpr ⟨?_, eraseDups_ascending _ (restAscending.filter _)⟩
    intro later member
    have kept : later ∈ rest ∧ later ≠ first := by
      simpa using List.mem_eraseDups.mp member
    have notAfter := firstBelow later kept.1
    cases order : compareText first later with
    | lt => rfl
    | eq => exact absurd (compareText_eq_iff.mp order).symm kept.2
    | gt => exact absurd order notAfter
termination_by names => names.length
decreasing_by
  simp only [List.length_cons]
  exact Nat.lt_succ_of_le (List.length_filter_le _ _)

/-! ## The store as a finite map -/

/-- The index a record holds, when a put wrote it. -/
def Record.index? (record : Record) : Option Index :=
  match record.payload with
  | .index index => some index
  | .text _ => none

/-- A record as a put writes it: it holds an index and tells the index's schema version. -/
def Record.Written (record : Record) : Prop :=
  ∃ index, record.payload = .index index ∧ record.info.schemaVersion = index.schemaVersion

namespace Store

/-- The index stored under a key: the store read as a finite map. -/
def contents (store : Store) (key : String × String) : Option Index :=
  (store.find? key.1 key.2).bind Record.index?

/-- What a store keeps of its records: strictly ascending keys, and in each record the
index a put wrote, with that index's schema version. -/
structure WellKept (store : Store) : Prop where
  ascending : KeyAscending store.records
  written : ∀ record ∈ store.records, record.Written

/-- A store without records keeps them well. -/
theorem wellKept_of_records_eq_nil {store : Store} (empty : store.records = []) :
    store.WellKept :=
  ⟨by simp [KeyAscending, empty], by simp [empty]⟩

section WellKept

variable {store : Store}

/-- The record found under a key of a well-kept store is the one holding the key. -/
theorem WellKept.find?_eq_some_iff
    (wellKept : store.WellKept) {project language : String} {record : Record} :
    store.find? project language = some record ↔
      record ∈ store.records ∧ record.key = (project, language) :=
  wellKept.ascending.find?_eq_some_iff

/-- A key holds an index exactly when a record of the key is stored. -/
theorem WellKept.contents_isSome_iff
    (wellKept : store.WellKept) {key : String × String} :
    (store.contents key).isSome ↔ ∃ record ∈ store.records, record.key = key := by
  unfold contents
  cases found : store.find? key.1 key.2 with
  | none =>
    simp only [Option.bind_none, Option.isSome_none, Bool.false_eq_true, false_iff, not_exists,
      not_and]
    intro record member sameKey
    have located := wellKept.find?_eq_some_iff.mpr ⟨member, sameKey⟩
    rw [found] at located
    cases located
  | some record =>
    obtain ⟨member, sameKey⟩ := wellKept.find?_eq_some_iff.mp found
    obtain ⟨index, payload, -⟩ := wellKept.written record member
    simp only [Option.bind_some, Record.index?, payload, Option.isSome_some, true_iff]
    exact ⟨record, member, sameKey⟩

/-- Placing a written record keeps a store well kept. -/
theorem WellKept.place
    (wellKept : store.WellKept) {record : Record} (written : record.Written) :
    (store.place record).WellKept where
  ascending := placeRecord_ascending wellKept.ascending
  written := by
    intro other member
    rcases (mem_placeRecord wellKept.ascending).mp member with rfl | ⟨kept, -⟩
    · exact written
    · exact wellKept.written other kept

/-- After a record is placed, its key holds its index and every other key what it held. -/
theorem WellKept.contents_place
    (wellKept : store.WellKept) (record : Record) (key : String × String) :
    (store.place record).contents key =
      if record.key = key then record.index? else store.contents key := by
  have placed : KeyAscending (store.place record).records :=
    placeRecord_ascending wellKept.ascending
  unfold contents
  split
  · rename_i sameKey
    have found : (store.place record).find? key.1 key.2 = some record :=
      placed.find?_eq_some_iff.mpr
        ⟨(mem_placeRecord wellKept.ascending).mpr (.inl rfl), by simp [sameKey]⟩
    rw [found]
    rfl
  · rename_i otherKey
    have unchanged : (store.place record).find? key.1 key.2 = store.find? key.1 key.2 := by
      apply Option.ext
      intro other
      have before :=
        @KeyAscending.find?_eq_some_iff _ (key.1, key.2) other wellKept.ascending
      have after := @KeyAscending.find?_eq_some_iff _ (key.1, key.2) other placed
      simp only [Store.find?, Store.place] at before after ⊢
      rw [before, after, mem_placeRecord wellKept.ascending]
      constructor
      · rintro ⟨rfl | ⟨member, -⟩, sameKey⟩
        · exact absurd (by simpa using sameKey) otherKey
        · exact ⟨member, sameKey⟩
      · rintro ⟨member, sameKey⟩
        refine ⟨.inr ⟨member, ?_⟩, sameKey⟩
        rw [sameKey]
        exact fun same => otherKey (by simpa using same.symm)
    rw [unchanged]

/-- Dropping the records of a key keeps a store well kept. -/
theorem WellKept.drop
    (wellKept : store.WellKept) (key : String × String) (generation : Nat) :
    ({ store with
        records := store.records.filter fun record => record.key != key,
        generation := generation } : Store).WellKept where
  ascending := wellKept.ascending.filter _
  written := fun record member => wellKept.written record (List.mem_filter.mp member).1

/-- After the records of a key are dropped, the key holds nothing and every other key what
it held. -/
theorem contents_drop
    (key other : String × String) (generation : Nat) :
    ({ store with
        records := store.records.filter fun record => record.key != key,
        generation := generation } : Store).contents other =
      if other = key then none else store.contents other := by
  unfold contents Store.find?
  simp only [List.find?_filter]
  split
  · rename_i sameKey
    subst sameKey
    have nothing : store.records.find? (fun _ => false) = none :=
      List.find?_eq_none.mpr (by simp)
    simp [nothing]
  · rename_i otherKey
    congr 2
    funext record
    by_cases found : record.key = other
    · simp [found, otherKey]
    · simp [found]

/-- The stored keys come in strictly ascending order. -/
theorem WellKept.keys_ascending (wellKept : store.WellKept) :
    (store.records.map Record.key).Pairwise (fun a b => keyBefore a b = true) :=
  List.pairwise_map.mpr wellKept.ascending

/-- A key is listed exactly when it holds an index. -/
theorem WellKept.mem_keys (wellKept : store.WellKept) {key : String × String} :
    key ∈ store.records.map Record.key ↔ (store.contents key).isSome := by
  rw [wellKept.contents_isSome_iff, List.mem_map]

/-- The projects come in strictly ascending order, each once. -/
theorem WellKept.projects_ascending (wellKept : store.WellKept) :
    (store.records.map fun record => record.info.project).eraseDups.Pairwise
      (fun a b => compareText a b = .lt) := by
  apply eraseDups_ascending
  apply List.pairwise_map.mpr
  apply wellKept.ascending.imp
  intro a b before
  rcases keyBefore_iff.mp before with projectBefore | ⟨sameProject, -⟩
  · simp only [Record.key] at projectBefore
    simp [projectBefore]
  · simp only [Record.key] at sameProject
    simp [sameProject]

/-- A project is listed exactly when some language of it holds an index. -/
theorem WellKept.mem_projects (wellKept : store.WellKept) {project : String} :
    project ∈ (store.records.map fun record => record.info.project).eraseDups ↔
      ∃ language, (store.contents (project, language)).isSome := by
  simp only [List.mem_eraseDups, List.mem_map, wellKept.contents_isSome_iff]
  constructor
  · rintro ⟨record, member, rfl⟩
    exact ⟨record.info.language, record, member, rfl⟩
  · rintro ⟨language, record, member, sameKey⟩
    exact ⟨record, member, congrArg Prod.fst sameKey⟩

/-- The languages of a project come in strictly ascending order. -/
theorem WellKept.languages_ascending (wellKept : store.WellKept) (project : String) :
    ((store.records.filter fun record => record.info.project == project).map
      fun record => record.info.language).Pairwise (fun a b => compareText a b = .lt) := by
  apply List.pairwise_map.mpr
  apply List.pairwise_filter.mpr
  apply wellKept.ascending.imp
  intro a b before aKept bKept
  have aProject : a.info.project = project := by simpa using aKept
  have bProject : b.info.project = project := by simpa using bKept
  rcases keyBefore_iff.mp before with projectBefore | ⟨-, languageBefore⟩
  · simp [Record.key, aProject, bProject] at projectBefore
  · exact languageBefore

/-- A language of a project is listed exactly when it holds an index. -/
theorem WellKept.mem_languages
    (wellKept : store.WellKept) {project language : String} :
    language ∈ ((store.records.filter fun record => record.info.project == project).map
      fun record => record.info.language) ↔ (store.contents (project, language)).isSome := by
  simp only [List.mem_map, List.mem_filter, wellKept.contents_isSome_iff, beq_iff_eq]
  constructor
  · rintro ⟨record, ⟨member, sameProject⟩, rfl⟩
    exact ⟨record, member, by simp [Record.key, sameProject]⟩
  · rintro ⟨record, member, sameKey⟩
    simp only [Record.key, Prod.mk.injEq] at sameKey
    exact ⟨record, ⟨member, sameKey.1⟩, sameKey.2⟩

end WellKept

end Store

end DocIndex
