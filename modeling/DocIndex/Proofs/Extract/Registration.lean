import DocIndex.Proofs.Extract.Dispatch
import DocIndex.Proofs.Text.Order

/-!
# Which extractor sets a registry accepts

A registry is built by checking extractors in sequence order against those checked before:
an extractor must declare a language, its language must be new, and none of its extensions,
taken in code-point order, may be claimed already. The check keeps the languages seen and the
extensions claimed, each with its owner's language; after a consistent prefix these are read
off the prefix itself (`claimsOf`, `lookup_claimsOf`).

Main statement: `build_accepts_exactly_consistent`. A build succeeds exactly on a `Consistent`
sequence, and the registry then answers every lookup from that sequence; otherwise it fails
with the `Refusal` of the first extractor that conflicts with itself or with an earlier one.
-/

namespace DocIndex.Extract

open DocIndex.Search

/-! ## Consistent sequences and refusals -/

/-- A sequence of extractors a registry can hold: each declares a language, the languages
are pairwise distinct and no extension is claimed by two extractors. -/
structure Consistent (extractors : List Extractor) : Prop where
  declared : ∀ extractor ∈ extractors, extractor.language ≠ ""
  distinct : (extractors.map Extractor.language).Nodup
  disjoint : extractors.Pairwise fun first second =>
    ∀ extension ∈ first.extensions, extension ∉ second.extensions

/-- The text of the failure for an extension claimed by both `owner` and `language`. -/
def claimedTwice (extension owner language : String) : Failure :=
  .registry ("Extension '." ++ extension ++ "' claimed by both '" ++ owner ++ "' and '" ++
    language ++ "'")

/-- How the registry refuses an extractor that follows the extractors `earlier`, and the
failure it reports: a missing language first, then a language registered already, and
otherwise the first of its extensions in code-point order that an earlier extractor claims,
named with that extractor's language. -/
inductive Refusal (earlier : List Extractor) (extractor : Extractor) : Failure → Prop where
  | undeclared : extractor.language = "" →
      Refusal earlier extractor (.registry (extractor.describe ++ " does not declare a language"))
  | repeated : extractor.language ≠ "" → extractor.language ∈ earlier.map Extractor.language →
      Refusal earlier extractor
        (.registry ("Extractor for language '" ++ extractor.language ++ "' already registered"))
  | claimed {extension : String} {owner : Extractor} :
      extractor.language ≠ "" → extractor.language ∉ earlier.map Extractor.language →
      extension ∈ extractor.extensions → owner ∈ earlier → extension ∈ owner.extensions →
      (∀ other ∈ extractor.extensions, compareText other extension = .lt →
        ∀ before ∈ earlier, other ∉ before.extensions) →
      Refusal earlier extractor (claimedTwice extension owner.language extractor.language)

/-- How a registry answers its lookups from the sequence of its extractors: its size and its
languages in order, membership and lookup by language, and lookup by an extension given in
any case and with or without its leading dots. -/
structure Registry.Answers (registry : Registry) (extractors : List Extractor) : Prop where
  size_eq : registry.size = extractors.length
  languages_eq : registry.languages = extractors.map Extractor.language
  contains_iff : ∀ language,
    registry.contains language = true ↔ language ∈ extractors.map Extractor.language
  get?_eq_some_iff : ∀ language extractor,
    registry.get? language = some extractor ↔
      extractor ∈ extractors ∧ extractor.language = language
  forExtension_eq_some_iff : ∀ extension extractor,
    registry.forExtension extension = some extractor ↔
      extractor ∈ extractors ∧
        String.ofList ((Text.lower extension).toList.dropWhile (· = '.')) ∈ extractor.extensions

/-! ## Extensions in code-point order -/

/-- Removing repeats from a list ordered by `R` leaves it ordered by `R`, with no two
elements equal. -/
theorem pairwise_eraseDups {α : Type} [BEq α] [LawfulBEq α] {R : α → α → Prop} :
    ∀ {items : List α}, items.Pairwise R → items.eraseDups.Pairwise fun a b => R a b ∧ a ≠ b
  | [], _ => by simp
  | item :: rest, ordered => by
    obtain ⟨first, later⟩ := List.pairwise_cons.mp ordered
    rw [List.eraseDups_cons]
    refine List.pairwise_cons.mpr ⟨fun other member => ?_, pairwise_eraseDups (later.filter _)⟩
    rw [List.mem_eraseDups, List.mem_filter] at member
    refine ⟨first other member.1, fun same => ?_⟩
    simp [same] at member
termination_by items => items.length
decreasing_by exact Nat.lt_succ_of_le (List.length_filter_le _ rest)

theorem ne_gt_eq_isLE (order : Ordering) : (order != .gt) = order.isLE := by
  cases order <;> rfl

/-- The extensions an extractor claims, as the registry takes them: ascending in code-point
order. -/
theorem sortedDistinct_ascending (texts : List String) :
    (sortedDistinct texts).Pairwise fun a b => compareText a b = .lt := by
  have trans : ∀ a b c : String, (compareText a b != .gt) = true →
      (compareText b c != .gt) = true → (compareText a c != .gt) = true := by
    intro a b c first second
    rw [ne_gt_eq_isLE] at *
    unfold compareText at *
    exact Std.TransCmp.isLE_trans first second
  have total : ∀ a b : String, ((compareText a b != .gt) || (compareText b a != .gt)) = true := by
    intro a b
    rw [compareText_swap a b]
    cases compareText a b <;> rfl
  have strict := pairwise_eraseDups (List.pairwise_mergeSort trans total texts)
  refine strict.imp fun {a b} ordered => ?_
  obtain ⟨notAfter, apart⟩ := ordered
  cases order : compareText a b with
  | lt => rfl
  | eq => exact absurd (compareText_eq_iff.mp order) apart
  | gt => simp [order] at notAfter

theorem sortedDistinct_nodup (texts : List String) : (sortedDistinct texts).Nodup :=
  (sortedDistinct_ascending texts).imp fun {a b} less same => by simp [same] at less

/-! ## Claiming extensions -/

theorem lookup_append_claim {claims : Claims} {extension language other : String}
    (differ : other ≠ extension) :
    (claims ++ [(extension, language)]).lookup other = claims.lookup other := by
  simp [List.lookup_append, differ]

/-- Distinct extensions none of which is claimed are all recorded, after the claims made
before. -/
theorem claimExtensions_of_unclaimed {language : String} :
    ∀ {extensions : List String} {claims : Claims}, extensions.Nodup →
      (∀ extension ∈ extensions, claims.lookup extension = none) →
        claimExtensions language claims extensions =
          .ok (claims ++ extensions.map fun extension => (extension, language))
  | [], claims, _, _ => by simp [claimExtensions]
  | extension :: rest, claims, distinct, unclaimed => by
    obtain ⟨fresh, restDistinct⟩ := List.nodup_cons.mp distinct
    rw [claimExtensions, unclaimed extension List.mem_cons_self]
    dsimp only
    rw [claimExtensions_of_unclaimed restDistinct fun other member => ?_]
    · simp
    · rw [lookup_append_claim fun same : other = extension => fresh (same ▸ member)]
      exact unclaimed other (List.mem_cons_of_mem _ member)

/-- Claiming distinct extensions fails only at an extension claimed already, the first
such one, and names its owner. -/
theorem claimExtensions_eq_error {language : String} :
    ∀ {extensions : List String} {claims : Claims} {failure : Failure}, extensions.Nodup →
      claimExtensions language claims extensions = .error failure →
        ∃ before extension after owner, extensions = before ++ extension :: after ∧
          (∀ other ∈ before, claims.lookup other = none) ∧
          claims.lookup extension = some owner ∧
          failure = claimedTwice extension owner language
  | [], _, _, _, failed => by cases failed
  | extension :: rest, claims, failure, distinct, failed => by
    obtain ⟨fresh, restDistinct⟩ := List.nodup_cons.mp distinct
    rw [claimExtensions] at failed
    split at failed
    · rename_i owner owned
      cases failed
      exact ⟨[], extension, rest, owner, rfl, by simp, owned, rfl⟩
    · rename_i unclaimed
      obtain ⟨before, found, after, owner, rfl, free, owned, rfl⟩ :=
        claimExtensions_eq_error restDistinct failed
      have foundLater : found ≠ extension := fun same => fresh (by simp [same])
      refine ⟨extension :: before, found, after, owner, rfl, fun other member => ?_, ?_, rfl⟩
      · rcases List.mem_cons.mp member with rfl | earlier
        · exact unclaimed
        · have := free other earlier
          rwa [lookup_append_claim fun same => fresh (by simp [← same, earlier])] at this
      · rwa [lookup_append_claim foundLater] at owned

/-! ## What the check keeps after a consistent prefix -/

/-- The extensions claimed after checking extractors, in order, each with its owner's
language. -/
def claimsOf (extractors : List Extractor) : Claims :=
  extractors.flatMap fun extractor =>
    (sortedDistinct extractor.extensions).map fun extension => (extension, extractor.language)

@[simp]
theorem claimsOf_nil : claimsOf [] = [] := rfl

@[simp]
theorem claimsOf_append (first second : List Extractor) :
    claimsOf (first ++ second) = claimsOf first ++ claimsOf second :=
  List.flatMap_append

theorem lookup_map_pair (value : String) :
    ∀ (keys : List String) (key : String),
      (keys.map fun k => (k, value)).lookup key = if key ∈ keys then some value else none
  | [], _ => by simp
  | k :: rest, key => by
    rw [List.map_cons, List.lookup_cons]
    by_cases same : key = k
    · simp [same]
    · have differ : (key == k) = false := beq_false_of_ne same
      simp [differ, same, lookup_map_pair value rest key]

/-- The owner the check finds for an extension is the first extractor that claims it. -/
theorem lookup_claimsOf (extractors : List Extractor) (extension : String) :
    (claimsOf extractors).lookup extension =
      (Registry.claiming ⟨extractors⟩ extension).map Extractor.language := by
  induction extractors with
  | nil => rfl
  | cons extractor rest ih =>
    rw [claimsOf, List.flatMap_cons, ← claimsOf, List.lookup_append, ih, lookup_map_pair]
    by_cases claims : extension ∈ extractor.extensions
    · simp [Registry.claiming, claims]
    · simp [Registry.claiming, claims]

theorem mem_keys_claimsOf {extractors : List Extractor} {extension : String} :
    extension ∈ (claimsOf extractors).map Prod.fst ↔
      ∃ before ∈ extractors, extension ∈ before.extensions := by
  simp [claimsOf]

/-- No earlier extractor claims an extension the check finds unclaimed. -/
theorem lookup_claimsOf_eq_none_iff {extractors : List Extractor} {extension : String} :
    (claimsOf extractors).lookup extension = none ↔
      ∀ before ∈ extractors, extension ∉ before.extensions := by
  simp [lookup_claimsOf, Registry.claiming]

/-- The owner the check names for an extension is an earlier extractor that claims it. -/
theorem exists_of_lookup_claimsOf {extractors : List Extractor} {extension owner : String}
    (found : (claimsOf extractors).lookup extension = some owner) :
    ∃ before ∈ extractors, extension ∈ before.extensions ∧ before.language = owner := by
  rw [lookup_claimsOf, Option.map_eq_some_iff] at found
  obtain ⟨before, claiming, rfl⟩ := found
  exact ⟨before, List.mem_of_find?_eq_some claiming, by simpa using List.find?_some claiming, rfl⟩

/-! ## Consistent sequences -/

namespace Consistent

theorem nil : Consistent [] :=
  ⟨by simp, List.nodup_nil, List.Pairwise.nil⟩

/-- Extractors of a consistent sequence are pairwise apart. -/
theorem apart {extractors : List Extractor} (consistent : Consistent extractors) :
    extractors.Pairwise Apart :=
  (List.pairwise_map.mp consistent.distinct).and consistent.disjoint

theorem sublist {shorter extractors : List Extractor} (consistent : Consistent extractors)
    (sub : shorter.Sublist extractors) : Consistent shorter where
  declared extractor member := consistent.declared extractor (sub.subset member)
  distinct := consistent.distinct.sublist (sub.map _)
  disjoint := consistent.disjoint.sublist sub

theorem of_append {first second : List Extractor} (consistent : Consistent (first ++ second)) :
    Consistent first :=
  consistent.sublist (List.sublist_append_left first second)

/-- An extractor follows a consistent sequence consistently exactly when it declares a
language, its language is new and no earlier extractor claims any of its extensions. -/
theorem append_singleton_iff {earlier : List Extractor} {extractor : Extractor} :
    Consistent (earlier ++ [extractor]) ↔
      Consistent earlier ∧ extractor.language ≠ "" ∧
        extractor.language ∉ earlier.map Extractor.language ∧
        ∀ extension ∈ extractor.extensions, ∀ before ∈ earlier, extension ∉ before.extensions := by
  constructor
  · intro consistent
    have distinct := consistent.distinct
    have disjoint := consistent.disjoint
    rw [List.map_append, List.map_singleton, List.nodup_append] at distinct
    rw [List.pairwise_append] at disjoint
    refine ⟨consistent.of_append, consistent.declared extractor (by simp),
      fun old => distinct.2.2 _ old _ (List.mem_singleton_self _) rfl, ?_⟩
    intro extension inOwn before old inBefore
    exact disjoint.2.2 before old extractor (List.mem_singleton_self _) extension inBefore inOwn
  · rintro ⟨consistent, declared, fresh, unclaimed⟩
    refine ⟨fun other member => ?_, ?_, ?_⟩
    · rcases List.mem_append.mp member with old | new
      · exact consistent.declared other old
      · rw [List.mem_singleton.mp new]
        exact declared
    · rw [List.map_append, List.map_singleton, List.nodup_append]
      refine ⟨consistent.distinct, List.nodup_singleton _, fun language old other new => ?_⟩
      rw [List.mem_singleton.mp new]
      exact fun same => fresh (same ▸ old)
    · rw [List.pairwise_append]
      refine ⟨consistent.disjoint, List.pairwise_singleton _ _, ?_⟩
      intro before old other new extension inBefore inOther
      rw [List.mem_singleton.mp new] at inOther
      exact unclaimed extension inOther before old inBefore

end Consistent

/-! ## Refusals -/

namespace Refusal

variable {earlier : List Extractor} {extractor : Extractor} {failure : Failure}

/-- A refused extractor cannot follow the earlier ones consistently. -/
theorem not_consistent (refused : Refusal earlier extractor failure) :
    ¬ Consistent (earlier ++ [extractor]) := by
  rw [Consistent.append_singleton_iff]
  rintro ⟨-, declared, fresh, unclaimed⟩
  cases refused with
  | undeclared missing => exact declared missing
  | repeated _ seen => exact fresh seen
  | claimed _ _ inOwn owned inOwner _ => exact unclaimed _ inOwn _ owned inOwner

/-- After consistent extractors, an extractor is refused for one failure only: of two
claimed extensions neither comes first in code-point order, and one extension has one
owner. -/
theorem unique (consistent : Consistent earlier) {other : Failure}
    (refused : Refusal earlier extractor failure) (refusedOther : Refusal earlier extractor other) :
    failure = other := by
  cases refused with
  | undeclared missing =>
    cases refusedOther with
    | undeclared _ => rfl
    | repeated declared _ => exact absurd missing declared
    | claimed declared _ _ _ _ _ => exact absurd missing declared
  | repeated _ seen =>
    cases refusedOther with
    | undeclared missing => contradiction
    | repeated _ _ => rfl
    | claimed _ fresh _ _ _ _ => exact absurd seen fresh
  | @claimed extension owner declared fresh inOwn owned inOwner first =>
    cases refusedOther with
    | undeclared missing => exact absurd missing declared
    | repeated _ seen => exact absurd seen fresh
    | @claimed extension' owner' _ _ inOwn' owned' inOwner' first' =>
      have same : extension = extension' := by
        cases order : compareText extension extension' with
        | lt => exact absurd inOwner (first' extension inOwn order owner owned)
        | eq => exact compareText_eq_iff.mp order
        | gt =>
          have swapped : compareText extension' extension = .lt := by
            rw [compareText_swap, order]
            rfl
          exact absurd inOwner' (first extension' inOwn' swapped owner' owned')
      subst same
      have sameOwner : owner = owner' := by
        by_contra differ
        exact (consistent.apart.forall owned owned' differ).2 extension inOwner inOwner'
      rw [sameOwner]

end Refusal

/-! ## One extractor checked -/

/-- Checking one more extractor: a missing language, then a language seen already, then its
extensions in code-point order against those claimed so far. -/
theorem checkExtractors_cons (languages : List String) (claims : Claims) (extractor : Extractor)
    (rest : List Extractor) :
    checkExtractors languages claims (extractor :: rest) =
      if extractor.language = "" then
        .error (.registry (extractor.describe ++ " does not declare a language"))
      else if extractor.language ∈ languages then
        .error (.registry ("Extractor for language '" ++ extractor.language ++
          "' already registered"))
      else
        (claimExtensions extractor.language claims (sortedDistinct extractor.extensions)).bind
          fun claimed => checkExtractors (languages ++ [extractor.language]) claimed rest := by
  -- the do-block's throws and bind are `Except.error` and `Except.bind` once its tests are read
  by_cases missing : extractor.language = ""
  · simp [checkExtractors, missing]
    rfl
  · by_cases seen : extractor.language ∈ languages
    · simp [checkExtractors, missing, seen]
      rfl
    · simp [checkExtractors, missing, seen]
      rfl

/-- Of the distinct extensions of an extractor, one claimed by an earlier extractor with
none before it claimed is the first claimed one in code-point order. -/
theorem first_claimed {earlier : List Extractor} {extensions before after : List String}
    {extension : String} (split : sortedDistinct extensions = before ++ extension :: after)
    (free : ∀ other ∈ before, (claimsOf earlier).lookup other = none) :
    ∀ other ∈ extensions, compareText other extension = .lt →
      ∀ owner ∈ earlier, other ∉ owner.extensions := by
  intro other inOwn order
  have ascending := sortedDistinct_ascending extensions
  rw [split, List.pairwise_append, List.pairwise_cons] at ascending
  have listed : other ∈ before ++ extension :: after := by
    rw [← split]
    exact mem_sortedDistinct.mpr inOwn
  rcases List.mem_append.mp listed with inBefore | inRest
  · exact lookup_claimsOf_eq_none_iff.mp (free other inBefore)
  · rcases List.mem_cons.mp inRest with rfl | inAfter
    · simp at order
    · -- an extension after the first claimed one comes after it in code-point order
      have later := ascending.2.1.1 other inAfter
      rw [compareText_swap, later] at order
      cases order

/-- Checking an extractor after consistent ones either accepts it, when it follows them
consistently, and goes on with it recorded, or refuses it with its `Refusal`. -/
theorem checkExtractors_step {done : List Extractor} (consistent : Consistent done)
    (extractor : Extractor) (rest : List Extractor) :
    (Consistent (done ++ [extractor]) ∧
      checkExtractors (done.map Extractor.language) (claimsOf done) (extractor :: rest) =
        checkExtractors ((done ++ [extractor]).map Extractor.language)
          (claimsOf (done ++ [extractor])) rest) ∨
    (¬ Consistent (done ++ [extractor]) ∧ ∃ failure, Refusal done extractor failure ∧
      checkExtractors (done.map Extractor.language) (claimsOf done) (extractor :: rest) =
        .error failure) := by
  rw [checkExtractors_cons]
  by_cases missing : extractor.language = ""
  · have refused : Refusal done extractor _ := .undeclared missing
    exact .inr ⟨refused.not_consistent, _, refused, if_pos missing⟩
  by_cases seen : extractor.language ∈ done.map Extractor.language
  · have refused := Refusal.repeated missing seen
    exact .inr ⟨refused.not_consistent, _, refused, by rw [if_neg missing, if_pos seen]⟩
  rw [if_neg missing, if_neg seen]
  cases claiming : claimExtensions extractor.language (claimsOf done)
      (sortedDistinct extractor.extensions) with
  | ok claimed =>
    have free : ∀ extension ∈ sortedDistinct extractor.extensions,
        (claimsOf done).lookup extension = none := by
      intro extension member
      rw [lookup_claimsOf_eq_none_iff]
      intro before old inBefore
      exact (claimExtensions_eq_ok claiming).1 extension member
        (mem_keys_claimsOf.mpr ⟨before, old, inBefore⟩)
    have recorded : claimExtensions extractor.language _ _ = _ :=
      claimExtensions_of_unclaimed (sortedDistinct_nodup _) free
    rw [claiming, Except.ok.injEq] at recorded
    subst recorded
    refine .inl ⟨Consistent.append_singleton_iff.mpr ⟨consistent, missing, seen, ?_⟩, ?_⟩
    · intro extension inOwn
      exact lookup_claimsOf_eq_none_iff.mp (free extension (mem_sortedDistinct.mpr inOwn))
    · simp [Except.bind, claimsOf]
  | error failure =>
    obtain ⟨before, extension, after, ownerLanguage, split, free, owned, rfl⟩ :=
      claimExtensions_eq_error (sortedDistinct_nodup _) claiming
    obtain ⟨owner, old, inOwner, rfl⟩ := exists_of_lookup_claimsOf owned
    have inOwn : extension ∈ extractor.extensions :=
      mem_sortedDistinct.mp (by rw [split]; simp)
    have refused := Refusal.claimed missing seen inOwn old inOwner (first_claimed split free)
    exact .inr ⟨refused.not_consistent, _, refused, rfl⟩

/-! ## A whole sequence checked -/

/-- After consistent extractors, the check of the rest passes exactly when the rest follow
them consistently. -/
theorem checkExtractors_eq_ok_iff :
    ∀ {done : List Extractor} (rest : List Extractor), Consistent done →
      (checkExtractors (done.map Extractor.language) (claimsOf done) rest = .ok () ↔
        Consistent (done ++ rest))
  | done, [], consistent => by simp [checkExtractors, consistent]
  | done, extractor :: rest, consistent => by
    rcases checkExtractors_step consistent extractor rest with
      ⟨next, step⟩ | ⟨blocked, failure, -, step⟩
    · rw [step, checkExtractors_eq_ok_iff rest next]
      simp
    · rw [step]
      refine ⟨fun wrong => (by cases wrong), fun consistentAll => absurd ?_ blocked⟩
      have prefixed : done ++ extractor :: rest = (done ++ [extractor]) ++ rest := by simp
      exact (prefixed ▸ consistentAll).of_append

/-- After consistent extractors, the check of the rest fails exactly with the refusal of the
first extractor that does not follow those before it consistently. -/
theorem checkExtractors_eq_error_iff :
    ∀ {done : List Extractor} (rest : List Extractor), Consistent done → ∀ failure,
      (checkExtractors (done.map Extractor.language) (claimsOf done) rest = .error failure ↔
        ∃ middle extractor later, rest = middle ++ extractor :: later ∧
          Consistent (done ++ middle) ∧ Refusal (done ++ middle) extractor failure)
  | done, [], consistent, failure => by simp [checkExtractors]
  | done, extractor :: rest, consistent, failure => by
    rcases checkExtractors_step consistent extractor rest with
      ⟨next, step⟩ | ⟨blocked, refusal, refused, step⟩
    · -- accepted: the refused extractor comes later
      rw [step, checkExtractors_eq_error_iff rest next failure]
      constructor
      · rintro ⟨middle, culprit, later, rfl, consistentMiddle, refusedCulprit⟩
        exact ⟨extractor :: middle, culprit, later, rfl, by simpa using consistentMiddle,
          by simpa using refusedCulprit⟩
      · rintro ⟨middle, culprit, later, split, consistentMiddle, refusedCulprit⟩
        cases middle with
        | nil =>
          obtain ⟨rfl, rfl⟩ := List.cons.inj split
          exact absurd next (by simpa using refusedCulprit.not_consistent)
        | cons first middle =>
          obtain ⟨rfl, rfl⟩ := List.cons.inj split
          exact ⟨middle, culprit, later, rfl, by simpa using consistentMiddle,
            by simpa using refusedCulprit⟩
    · -- refused: this extractor is the first one, and its refusal is the failure
      rw [step, Except.error.injEq]
      constructor
      · rintro rfl
        exact ⟨[], extractor, rest, rfl, by simpa using consistent, by simpa using refused⟩
      · rintro ⟨middle, culprit, later, split, consistentMiddle, refusedCulprit⟩
        cases middle with
        | nil =>
          obtain ⟨rfl, rfl⟩ := List.cons.inj split
          exact refused.unique consistent (by simpa using refusedCulprit)
        | cons first middle =>
          obtain ⟨rfl, -⟩ := List.cons.inj split
          have prefixed : done ++ extractor :: middle = (done ++ [extractor]) ++ middle := by simp
          exact absurd (prefixed ▸ consistentMiddle).of_append blocked

/-! ## Building a registry -/

/-- A build succeeds exactly on a consistent sequence, and holds it. -/
theorem Registry.build_eq_ok_iff (extractors : List Extractor) (registry : Registry) :
    Registry.build extractors = .ok registry ↔ Consistent extractors ∧ registry = ⟨extractors⟩ := by
  have checked := @checkExtractors_eq_ok_iff [] extractors Consistent.nil
  simp only [List.map_nil, claimsOf_nil, List.nil_append] at checked
  simp only [Registry.build, bind, Except.bind]
  cases passed : checkExtractors [] [] extractors with
  | error failure =>
    simp only [reduceCtorEq, false_iff]
    rintro ⟨consistent, -⟩
    simp [checked.mpr consistent] at passed
  | ok passed =>
    simp only [pure, Except.pure, Except.ok.injEq]
    constructor
    · intro built
      exact ⟨checked.mp passed, built.symm⟩
    · rintro ⟨-, rfl⟩
      rfl

/-- A build fails exactly with the refusal of the first extractor that does not follow those
before it consistently. -/
theorem Registry.build_eq_error_iff (extractors : List Extractor) (failure : Failure) :
    Registry.build extractors = .error failure ↔
      ∃ earlier extractor later, extractors = earlier ++ extractor :: later ∧
        Consistent earlier ∧ Refusal earlier extractor failure := by
  have checked := @checkExtractors_eq_error_iff [] extractors Consistent.nil failure
  simp only [List.map_nil, claimsOf_nil, List.nil_append] at checked
  rw [← checked]
  simp only [Registry.build, bind, Except.bind]
  cases checkExtractors [] [] extractors with
  | error refusal => simp
  | ok passed => simp [pure, Except.pure]

/-- A registry holding a consistent sequence answers every lookup from it. -/
theorem Consistent.answers {extractors : List Extractor} (consistent : Consistent extractors) :
    Registry.Answers ⟨extractors⟩ extractors where
  size_eq := rfl
  languages_eq := rfl
  contains_iff language := by simp [Registry.contains, Registry.languages]
  get?_eq_some_iff language extractor := by
    unfold Registry.get?
    constructor
    · intro found
      exact ⟨List.mem_of_find?_eq_some found, by simpa using List.find?_some found⟩
    · rintro ⟨member, rfl⟩
      cases found : extractors.find? fun other => other.language == extractor.language with
      | none =>
        have := List.find?_eq_none.mp found extractor member
        simp at this
      | some other =>
        -- languages are distinct, so the extractor found under the language is this one
        have sameLanguage : other.language = extractor.language := by
          simpa using List.find?_some found
        rw [List.inj_on_of_nodup_map consistent.distinct (List.mem_of_find?_eq_some found) member
          sameLanguage]
  forExtension_eq_some_iff extension extractor := by
    unfold Registry.forExtension
    constructor
    · intro found
      have member := List.mem_of_find?_eq_some found
      exact ⟨member, (@claiming_eq_some_iff ⟨extractors⟩ consistent.apart extractor member _).mp found⟩
    · rintro ⟨member, claims⟩
      exact (@claiming_eq_some_iff ⟨extractors⟩ consistent.apart extractor member _).mpr claims

/-- A registry accepts exactly the consistent extractor sequences: a build succeeds exactly
when every extractor declares a language, the languages are distinct and no extension is
claimed twice; the registry built then answers its size, its languages in order, membership,
lookup by language and lookup by extension from the sequence; and a build that fails reports
the refusal of the first extractor that conflicts with itself or an earlier one. -/
theorem build_accepts_exactly_consistent (extractors : List Extractor) :
    (∀ registry, Registry.build extractors = .ok registry ↔
      Consistent extractors ∧ registry = ⟨extractors⟩) ∧
    (∀ registry, Registry.build extractors = .ok registry → registry.Answers extractors) ∧
    (∀ failure, Registry.build extractors = .error failure ↔
      ∃ earlier extractor later, extractors = earlier ++ extractor :: later ∧
        Consistent earlier ∧ Refusal earlier extractor failure) := by
  refine ⟨Registry.build_eq_ok_iff extractors, fun registry built => ?_,
    Registry.build_eq_error_iff extractors⟩
  obtain ⟨consistent, rfl⟩ := (Registry.build_eq_ok_iff extractors registry).mp built
  exact consistent.answers

end DocIndex.Extract
