import DocIndex.Proofs.Extract.HeadingKeys

/-!
# The heading tree of a Markdown document

A document's headings form a forest by level: a heading lies below the nearest earlier
heading of a smaller level, and at the top when no earlier heading is smaller. Building the
forest takes each heading with the run of deeper headings right after it as its children,
and goes on with the rest as its siblings. The invariant that carries this is `Encloses`:
a run of headings is built below a heading smaller than all of them, and the headings
between that one and the run are no smaller than the run's first heading. Then every
heading of the run that no earlier heading of the run is smaller than lies right below the
run's enclosing heading.

The main statement, `heading_tree_nests_by_level`, says that the sections of a document's
page list its headings in preorder, one section per heading with the heading's text and
the truncated text below it, that each section lies below the nearest earlier heading of a
smaller level, and that sibling identifiers are the first free candidates of their slugs.
-/

namespace DocIndex.Markdown

open DocIndex.Document DocIndex.Text

/-! ## Positions in a forest -/

/-- The sections of a forest in preorder, each with the position, in that order, of the
section it lies directly below; `start` is the position of the forest's first section and
`parent` the position of the section above the forest (none at the top). -/
def preorder (start : Nat) (parent : Option Nat) : List Section → List (Section × Option Nat)
  | [] => []
  | (section'@⟨_, _, _, _, _, _, children⟩) :: rest =>
    let below := preorder (start + 1) (some start) children
    (section', parent) :: below ++ preorder (start + 1 + below.length) parent rest

theorem preorder_cons (start : Nat) (parent : Option Nat) (s : Section) (rest : List Section) :
    preorder start parent (s :: rest) =
      (s, parent) :: preorder (start + 1) (some start) s.children ++
        preorder (start + 1 + (preorder (start + 1) (some start) s.children).length) parent
          rest := by
  obtain ⟨_, _, _, _, _, _, children⟩ := s
  rw [preorder]

/-- A section with its identifier and children left out. -/
def faceOf (s : Section) : Section :=
  { s with id := "", children := [] }

/-- The section a heading shows as, identifier and children left out: its text as both
labels, `#` and its text as its key, and the text below it, truncated, as its detail. -/
def Heading.face (heading : Heading) : Section :=
  { id := "", shortLabel := heading.text, label := heading.text,
    detail := truncate heading.content maxDetailChars, searchKey := ["#", heading.text] }

/-! ## The level rule -/

/-- Where a heading preceded by the headings `before` nests: below the nearest of them
whose level is smaller than its own, given by its position in `before`, or at the top
(`none`) when none of them is smaller. -/
def NestsUnder (before : List Heading) (heading : Heading) : Option Nat → Prop
  | none => ∀ other ∈ before, heading.level ≤ other.level
  | some position => ∃ front parent between, before = front ++ parent :: between ∧
      front.length = position ∧ parent.level < heading.level ∧
      ∀ other ∈ between, heading.level ≤ other.level

/-- `id` is the first of `slug`, `slug-1`, `slug-2`, … that `used` does not hold. -/
def FirstFree (used : List String) (slug id : String) : Prop :=
  ∃ count, id = candidateId slug count ∧ id ∉ used ∧
    ∀ earlier < count, candidateId slug earlier ∈ used

/-- Every section's identifier, at every depth, is the first free candidate of its label's
slug among the identifiers its earlier siblings took; `used` holds those of the siblings
before the list. -/
def IdsFirstFree : List String → List Section → Prop
  | _, [] => True
  | used, ⟨id, _, label, _, _, _, children⟩ :: rest =>
    FirstFree used (slugify label) id ∧ IdsFirstFree [] children ∧ IdsFirstFree (id :: used) rest

/-- A forest lays out a run of headings by level: in preorder it shows the headings in
order, one section each; each heading lies below the nearest earlier heading of a smaller
level, or at the top when there is none; and sibling identifiers are the first free
candidates of their slugs. -/
structure LevelNesting (headings : List Heading) (forest : List Section) : Prop where
  shows : (preorder 0 none forest).map (fun node => faceOf node.1) = headings.map Heading.face
  nests : ∀ before heading after, headings = before ++ heading :: after →
    ∃ node ∈ (preorder 0 none forest)[before.length]?, NestsUnder before heading node.2
  ids : IdsFirstFree [] forest

/-! ## Building the forest -/

/-- The deeper headings right after a heading, and the rest. -/
theorem takeWhile_append_dropWhile_deeper (heading : Heading) (rest : List Heading) :
    rest.takeWhile (fun other => other.level > heading.level) ++
      rest.dropWhile (fun other => other.level > heading.level) = rest :=
  List.takeWhile_append_dropWhile

/-- With enough fuel, the forest shows the headings in preorder, wherever it starts. -/
theorem faces_preorder_sectionsFrom :
    ∀ (fuel : Nat) (used : List String) (run : List Heading), run.length < fuel →
      ∀ (start : Nat) (parent : Option Nat),
        (preorder start parent (sectionsFrom used fuel run)).map (fun node => faceOf node.1) =
          run.map Heading.face
  | 0, _, _, enough => by omega
  | _ + 1, _, [], _ => fun _ _ => by simp [sectionsFrom, preorder]
  | fuel + 1, used, heading :: rest, enough => by
    intro start parent
    obtain ⟨childrenShort, siblingsShort⟩ := deeper_lengths_lt heading
      (Nat.lt_of_succ_lt_succ enough)
    rw [sectionsFrom_cons, preorder_cons]
    simp only [List.cons_append, List.map_cons, List.map_append]
    rw [faces_preorder_sectionsFrom fuel [] _ childrenShort,
      faces_preorder_sectionsFrom fuel _ _ siblingsShort,
      ← List.map_append, takeWhile_append_dropWhile_deeper]
    rfl

theorem length_preorder_sectionsFrom {fuel : Nat} {run : List Heading}
    (enough : run.length < fuel) (used : List String) (start : Nat) (parent : Option Nat) :
    (preorder start parent (sectionsFrom used fuel run)).length = run.length := by
  simpa using congrArg List.length (faces_preorder_sectionsFrom fuel used run enough start parent)

/-- Sibling identifiers are the first free candidates of their slugs, whatever the fuel. -/
theorem idsFirstFree_sectionsFrom :
    ∀ (fuel : Nat) (used : List String) (run : List Heading),
      IdsFirstFree used (sectionsFrom used fuel run)
  | 0, _, _ => by simp [sectionsFrom, IdsFirstFree]
  | _ + 1, _, [] => by simp [sectionsFrom, IdsFirstFree]
  | fuel + 1, used, heading :: rest => by
    rw [sectionsFrom_cons, IdsFirstFree]
    obtain ⟨count, -, result, fresh, first⟩ := freshId_first_free used (slugify heading.text)
    exact ⟨⟨count, result, result ▸ fresh, first⟩, idsFirstFree_sectionsFrom fuel [] _,
      idsFirstFree_sectionsFrom fuel _ _⟩

/-! ## The nesting invariant -/

/-- The context a run of headings is built in, given the headings `pre` before it and the
position of the heading it is built below: every heading of the run is deeper than that
one, and the headings between that one and the run are no deeper than the run's first
heading. At the top, no heading before the run is deeper than its first one. -/
def Encloses (pre run : List Heading) : Option Nat → Prop
  | none => ∀ other ∈ pre, ∀ first ∈ run.head?, first.level ≤ other.level
  | some position => ∃ front parent between, pre = front ++ parent :: between ∧
      front.length = position ∧ (∀ heading ∈ run, parent.level < heading.level) ∧
      ∀ other ∈ between, ∀ first ∈ run.head?, first.level ≤ other.level

/-- The first heading of a run nests below the run's enclosing heading. -/
theorem Encloses.nestsUnder {pre rest : List Heading} {heading : Heading}
    {parent : Option Nat} (encloses : Encloses pre (heading :: rest) parent) :
    NestsUnder pre heading parent := by
  cases parent with
  | none => exact fun other member => encloses other member heading rfl
  | some position =>
    obtain ⟨front, above, between, split, length, deeper, between_le⟩ := encloses
    exact ⟨front, above, between, split, length, deeper heading List.mem_cons_self,
      fun other member => between_le other member heading rfl⟩

/-- The children of a heading are built below it. -/
theorem encloses_children (pre : List Heading) (heading : Heading) (rest : List Heading) :
    Encloses (pre ++ [heading]) (rest.takeWhile fun other => other.level > heading.level)
      (some pre.length) := by
  refine ⟨pre, heading, [], rfl, rfl, fun other member => ?_, by simp⟩
  simpa using List.mem_takeWhile_imp member

/-- The heading after the children of a heading is no deeper than it or its children. -/
theorem level_first_after_le {heading : Heading} {rest : List Heading} {first : Heading}
    (isFirst : first ∈ (rest.dropWhile fun other => other.level > heading.level).head?) :
    first.level ≤ heading.level ∧
      ∀ other ∈ rest.takeWhile (fun other => other.level > heading.level),
        first.level ≤ other.level := by
  have stops : first.level ≤ heading.level := by
    have head := List.head?_dropWhile_not (fun other => decide (other.level > heading.level)) rest
    rw [Option.mem_def.mp isFirst] at head
    simpa using head
  refine ⟨stops, fun other member => ?_⟩
  have deeper := List.mem_takeWhile_imp member
  simp only [decide_eq_true_eq] at deeper
  omega

/-- The siblings after a heading's children are built where the heading was, with the
heading and its children now before them. -/
theorem Encloses.siblings {pre rest : List Heading} {heading : Heading}
    {parent : Option Nat} (encloses : Encloses pre (heading :: rest) parent) :
    Encloses (pre ++ heading :: rest.takeWhile fun other => other.level > heading.level)
      (rest.dropWhile fun other => other.level > heading.level) parent := by
  have passed : ∀ (between : List Heading),
      (∀ other ∈ between, heading.level ≤ other.level) →
        ∀ other ∈ between ++ heading :: rest.takeWhile (fun other => other.level > heading.level),
          ∀ first ∈ (rest.dropWhile fun other => other.level > heading.level).head?,
            first.level ≤ other.level := by
    intro between betweenLe other member first isFirst
    obtain ⟨stops, belowLe⟩ := level_first_after_le isFirst
    rcases List.mem_append.mp member with early | late
    · exact le_trans stops (betweenLe other early)
    · rcases List.mem_cons.mp late with rfl | child
      · exact stops
      · exact belowLe other child
  cases parent with
  | none =>
    exact passed pre (fun other member => encloses other member heading rfl)
  | some position =>
    obtain ⟨front, above, between, rfl, length, deeper, betweenLe⟩ := encloses
    refine ⟨front, above, between ++ heading :: _, by simp, length, fun other member => ?_,
      passed between fun other member => betweenLe other member heading rfl⟩
    exact deeper other (List.mem_cons_of_mem _ (List.dropWhile_subset _ member))

/-- A position in `first ++ second` lies in `second`, or strictly inside `first`. -/
theorem append_eq_append_cons_cases {α : Type} {first second front back : List α} {x : α}
    (split : first ++ second = front ++ x :: back) :
    (∃ later, front = first ++ later ∧ second = later ++ x :: back) ∨
      ∃ rest, first = front ++ x :: rest := by
  rcases List.append_eq_append_iff.mp split with ⟨later, rfl, second⟩ | ⟨inside, rfl, tail⟩
  · exact .inl ⟨later, rfl, second⟩
  · cases inside with
    | nil => exact .inl ⟨[], by simp, by simpa using tail.symm⟩
    | cons y inside =>
      obtain ⟨rfl, -⟩ := List.cons.inj tail
      exact .inr ⟨inside, rfl⟩

/-- Built in its context, a run of headings nests each heading below the nearest earlier
heading of a smaller level. -/
theorem nestsUnder_sectionsFrom :
    ∀ (fuel : Nat) (used : List String) (pre run : List Heading) (parent : Option Nat),
      run.length < fuel → Encloses pre run parent →
        ∀ front heading back, run = front ++ heading :: back →
          ∃ node ∈ (preorder pre.length parent (sectionsFrom used fuel run))[front.length]?,
            NestsUnder (pre ++ front) heading node.2
  | 0, _, _, _, _, enough, _ => by omega
  | _ + 1, _, _, [], _, _, _ => by
    intro front heading back split
    simp at split
  | fuel + 1, used, pre, first :: rest, parent, enough, encloses => by
    intro front heading back split
    obtain ⟨childrenShort, siblingsShort⟩ := deeper_lengths_lt first
      (Nat.lt_of_succ_lt_succ enough)
    cases front with
    | nil =>
      obtain ⟨rfl, rfl⟩ := List.cons.inj split
      rw [sectionsFrom_cons, preorder_cons]
      exact ⟨_, rfl, by simpa using encloses.nestsUnder⟩
    | cons same front =>
      simp only [List.cons_append, List.cons.injEq] at split
      obtain ⟨rfl, split⟩ := split
      rw [sectionsFrom_cons, preorder_cons, List.cons_append, List.length_cons,
        List.getElem?_cons_succ]
      dsimp only
      rw [length_preorder_sectionsFrom childrenShort]
      -- the heading lies among the children of the run's first heading or among its siblings
      rw [← takeWhile_append_dropWhile_deeper first rest] at split
      rcases append_eq_append_cons_cases split with ⟨later, rfl, siblings⟩ | ⟨childrenBack, children⟩
      · obtain ⟨node, found, nests⟩ := nestsUnder_sectionsFrom fuel
          (freshId used (slugify first.text) (used.length + 1) 0 :: used) _ _ parent
          siblingsShort encloses.siblings later heading back siblings
        have start : (pre ++ first :: rest.takeWhile fun other => other.level > first.level).length =
            pre.length + 1 + (rest.takeWhile fun other => other.level > first.level).length := by
          simp only [List.length_append, List.length_cons]
          omega
        rw [start] at found
        rw [List.length_append, List.getElem?_append_right
          (by rw [length_preorder_sectionsFrom childrenShort]; omega),
          length_preorder_sectionsFrom childrenShort, Nat.add_sub_cancel_left]
        exact ⟨node, found, by simpa using nests⟩
      · obtain ⟨node, found, nests⟩ := nestsUnder_sectionsFrom fuel [] _ _ _ childrenShort
          (encloses_children pre first rest) front heading childrenBack children
        have inside : front.length < (preorder (pre.length + 1) (some pre.length)
            (sectionsFrom [] fuel (rest.takeWhile fun other => other.level > first.level))).length := by
          rw [length_preorder_sectionsFrom childrenShort, children]
          simp
        rw [List.getElem?_append_left inside]
        exact ⟨node, by simpa using found, by simpa using nests⟩

/-- The forest of a run of headings lays the run out by level. -/
theorem sectionsOf_levelNesting (headings : List Heading) :
    LevelNesting headings (sectionsOf headings) := by
  rw [sectionsOf_eq_sectionsFrom]
  exact ⟨faces_preorder_sectionsFrom _ [] headings (Nat.lt_succ_self _) 0 none,
    nestsUnder_sectionsFrom _ [] [] headings none (Nat.lt_succ_self _) (by simp [Encloses]),
    idsFirstFree_sectionsFrom _ [] headings⟩

/-- The sections of a Markdown document's page are the heading tree of its body: in
preorder they list the headings of the body's blocks in order, one section per heading,
each labelled and keyed by the heading's text with the truncated text below it as its
detail; each heading lies below the nearest earlier heading of a smaller level, at the top
when there is none; and each identifier is the heading's slug, or the slug with the least
suffix `-k` that no earlier sibling took. -/
theorem heading_tree_nests_by_level {load : Yaml.Loader} {relativePath text : String}
    {page : Page} (made : documentPage load relativePath text = .ok page) :
    ∃ matter body, splitFrontMatter load text = .ok (matter, body) ∧
      LevelNesting (headingsOf (splitByHeadings body)) page.sections := by
  unfold documentPage at made
  obtain ⟨⟨matter, body⟩, split, made⟩ := bind_eq_ok made
  obtain ⟨keyPath, -, made⟩ := bind_eq_ok made
  cases made
  exact ⟨matter, body, split, sectionsOf_levelNesting _⟩

/-- A document whose heading levels go 1, 3, 2 and which has no front matter makes a page,
and the page's sections lay those headings out by level. -/
theorem skipped_level_nests_below_top :
    ∃ page, documentPage (fun _ => .ok none) "guide.md" "# A\n### B\n## C\n" = .ok page ∧
      ∃ matter body,
        splitFrontMatter (fun _ => .ok none) "# A\n### B\n## C\n" = .ok (matter, body) ∧
        LevelNesting (headingsOf (splitByHeadings body)) page.sections := by
  have plain : "# A\n### B\n## C\n".startsWith "---" = false := by decide +kernel
  have stemmed : (Disk.PurePath.parse "guide.md").withoutSuffix = .ok ⟨"", ["guide"]⟩ := rfl
  obtain ⟨title, detail, made⟩ := documentPage_of_plain plain stemmed
  exact ⟨_, made, heading_tree_nests_by_level made⟩

end DocIndex.Markdown
