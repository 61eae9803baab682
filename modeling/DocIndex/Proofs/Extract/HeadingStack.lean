import Mathlib.Tactic.Set
import Mathlib.Data.List.TakeWhile
import DocIndex.Markdown.Page

/-!
# The heading stack builds the level-nesting of the headings

`nestHeadings` nests a document's headings with a stack: each heading closes the open
headings at its level or deeper, then opens itself, and a closed heading joins the innermost
heading still open, or the top level. Two facts about the loop are proved here.

The stack keeps its open headings at strictly increasing levels from the outermost to the
innermost, after every heading of every document (`foldl_pushHeading_levelsIncrease`).

The forest the loop builds is the recursive level-nesting `nodesFrom`, in which a heading
takes as its children the run of deeper headings right after it
(`nestHeadings_eq_nodesFrom`). The loop invariant behind it: once the run of headings deeper
than an open heading has been pushed, closing that run leaves the stack as it was, with the
run's level-nesting added to the open heading's children (`closeFrom_foldl_pushHeading`).
`sectionsFrom` reads the same recursion straight into sections, so the sections of a page
are `sectionsFrom` of its headings (`sectionsOf_eq_sectionsFrom`).
-/

namespace DocIndex.Markdown

open DocIndex.Document DocIndex.Text

/-- The level-nesting of a run of headings: each heading with the deeper headings right
after it as its children; `fuel` exceeds the length of the run. -/
def nodesFrom : Nat → List Heading → List HeadingNode
  | 0, _ => []
  | _ + 1, [] => []
  | fuel + 1, heading :: rest =>
    .node heading (nodesFrom fuel (rest.takeWhile fun other => other.level > heading.level)) ::
      nodesFrom fuel (rest.dropWhile fun other => other.level > heading.level)

/-- The sections of a run of headings: each heading with the deeper headings after it as its
children; `used` holds the ids its earlier siblings took. -/
def sectionsFrom (used : List String) : Nat → List Heading → List Section
  | 0, _ => []
  | _ + 1, [] => []
  | fuel + 1, heading :: rest =>
    let below := rest.takeWhile fun other => other.level > heading.level
    let after := rest.dropWhile fun other => other.level > heading.level
    let id := freshId used (slugify heading.text) (used.length + 1) 0
    { id
      shortLabel := heading.text
      label := heading.text
      detail := truncate heading.content maxDetailChars
      searchKey := ["#", heading.text]
      children := sectionsFrom [] fuel below } :: sectionsFrom (id :: used) fuel after

theorem sectionsFrom_cons (used : List String) (fuel : Nat) (heading : Heading)
    (rest : List Heading) :
    sectionsFrom used (fuel + 1) (heading :: rest) =
      { id := freshId used (slugify heading.text) (used.length + 1) 0,
        shortLabel := heading.text, label := heading.text,
        detail := truncate heading.content maxDetailChars, searchKey := ["#", heading.text],
        children := sectionsFrom [] fuel
          (rest.takeWhile fun other => other.level > heading.level) } ::
        sectionsFrom (freshId used (slugify heading.text) (used.length + 1) 0 :: used) fuel
          (rest.dropWhile fun other => other.level > heading.level) := rfl

/-- The children and the siblings of a heading are fewer than the headings after it. -/
theorem deeper_lengths_lt (heading : Heading) {rest : List Heading} {fuel : Nat}
    (short : rest.length < fuel) :
    (rest.takeWhile fun other => other.level > heading.level).length < fuel ∧
      (rest.dropWhile fun other => other.level > heading.level).length < fuel :=
  ⟨Nat.lt_of_le_of_lt (List.takeWhile_sublist _).length_le short,
    Nat.lt_of_le_of_lt (List.dropWhile_sublist _).length_le short⟩

/-- The headings still open in a state of the stack, innermost first. -/
def openHeadings (state : List HeadingNode × HeadingStack) : List Heading :=
  state.2.map Prod.fst

/-- The innermost open heading, if any, is above `level`. -/
def OpenBelow (level : Nat) (state : List HeadingNode × HeadingStack) : Prop :=
  ∀ heading ∈ (openHeadings state).head?, heading.level < level

/-- The open headings' levels strictly increase from the outermost to the innermost. -/
def LevelsIncrease (state : List HeadingNode × HeadingStack) : Prop :=
  (openHeadings state).Pairwise fun inner outer => outer.level < inner.level

/-- Closed headings join, in order, the innermost open heading or the top level. -/
def attachNodes (nodes : List HeadingNode) (state : List HeadingNode × HeadingStack) :
    List HeadingNode × HeadingStack :=
  nodes.foldl (fun state node => attachNode node state) state

@[simp]
theorem openHeadings_attachNode (node : HeadingNode) (state : List HeadingNode × HeadingStack) :
    openHeadings (attachNode node state) = openHeadings state := by
  obtain ⟨roots, _ | ⟨⟨parent, children⟩, below⟩⟩ := state <;> rfl

theorem attachNodes_top (nodes : List HeadingNode) (roots : List HeadingNode) :
    attachNodes nodes (roots, []) = (roots ++ nodes, []) := by
  induction nodes generalizing roots with
  | nil => simp [attachNodes]
  | cons node nodes ih => simpa [attachNodes, attachNode] using ih (roots ++ [node])

theorem attachNodes_open (nodes : List HeadingNode) (roots : List HeadingNode)
    (heading : Heading) (children : List HeadingNode) (below : HeadingStack) :
    attachNodes nodes (roots, (heading, children) :: below) =
      (roots, (heading, children ++ nodes) :: below) := by
  induction nodes generalizing children with
  | nil => simp [attachNodes]
  | cons node nodes ih => simpa [attachNodes, attachNode] using ih (children ++ [node])

section Close

variable {level : Nat} {roots : List HeadingNode} {heading : Heading}
  {children : List HeadingNode} {below : HeadingStack}

@[simp]
theorem closeFrom_top (level : Nat) (roots : List HeadingNode) :
    closeFrom level (roots, []) = (roots, []) := by
  rw [closeFrom]

theorem closeFrom_of_le (closes : level ≤ heading.level) :
    closeFrom level (roots, (heading, children) :: below) =
      closeFrom level (attachNode (.node heading children) (roots, below)) := by
  rw [closeFrom, if_pos closes]

theorem closeFrom_of_lt (stays : heading.level < level) :
    closeFrom level (roots, (heading, children) :: below) =
      (roots, (heading, children) :: below) := by
  rw [closeFrom, if_neg (Nat.not_le.mpr stays)]

end Close

theorem OpenBelow.mono {low high : Nat} {state : List HeadingNode × HeadingStack}
    (open_ : OpenBelow low state) (le : low ≤ high) : OpenBelow high state :=
  fun heading top => Nat.lt_of_lt_of_le (open_ heading top) le

@[simp]
theorem openBelow_attachNode {level : Nat} {node : HeadingNode}
    {state : List HeadingNode × HeadingStack} :
    OpenBelow level (attachNode node state) ↔ OpenBelow level state := by
  simp [OpenBelow]

/-- Closing from `level` does nothing once the innermost open heading is above it. -/
theorem closeFrom_of_openBelow {level : Nat} {state : List HeadingNode × HeadingStack}
    (open_ : OpenBelow level state) : closeFrom level state = state := by
  obtain ⟨roots, _ | ⟨⟨heading, children⟩, below⟩⟩ := state
  · exact closeFrom_top level roots
  · exact closeFrom_of_lt (open_ heading rfl)

/-- Closing pops a part of the stack, and leaves its innermost open heading above `level`. -/
theorem closeFrom_pops (level : Nat) (state : List HeadingNode × HeadingStack) :
    openHeadings (closeFrom level state) <:+ openHeadings state ∧
      OpenBelow level (closeFrom level state) := by
  obtain ⟨roots, _ | ⟨⟨heading, children⟩, below⟩⟩ := state
  · simp [OpenBelow, openHeadings]
  · by_cases closes : level ≤ heading.level
    · rw [closeFrom_of_le closes]
      obtain ⟨popped, open_⟩ := closeFrom_pops level (attachNode (.node heading children) (roots, below))
      refine ⟨?_, open_⟩
      rw [openHeadings_attachNode] at popped
      exact popped.trans (List.suffix_cons _ _)
    · rw [closeFrom_of_lt (Nat.not_le.mp closes)]
      exact ⟨List.suffix_refl _, fun top found => by
        simp_all [openHeadings]⟩
termination_by state.2.length
decreasing_by
  cases below <;> simp [attachNode]

/-- Closing from a level after closing from a deeper one is closing from the first. -/
theorem closeFrom_closeFrom {low high : Nat} (le : low ≤ high) :
    ∀ state : List HeadingNode × HeadingStack,
      closeFrom low (closeFrom high state) = closeFrom low state
  | (roots, []) => by simp
  | (roots, (heading, children) :: below) => by
    by_cases closes : high ≤ heading.level
    · rw [closeFrom_of_le closes, closeFrom_closeFrom le, closeFrom_of_le (Nat.le_trans le closes)]
    · rw [closeFrom_of_lt (Nat.not_le.mp closes)]
termination_by state => state.2.length
decreasing_by
  cases below <;> simp [attachNode]

theorem pushHeading_closeFrom {level : Nat} {heading : Heading}
    (state : List HeadingNode × HeadingStack) (le : heading.level ≤ level) :
    pushHeading (closeFrom level state) heading = pushHeading state heading := by
  simp only [pushHeading, closeFrom_closeFrom le]

/-- Before a run whose first heading is at `high` or above, the stack may as well be closed
from `high`: the first push closes it anyway. -/
theorem closeFrom_foldl_closeFrom {low high : Nat} (le : low ≤ high) {run : List Heading}
    (first : ∀ next ∈ run.head?, next.level ≤ high) (state : List HeadingNode × HeadingStack) :
    closeFrom low (run.foldl pushHeading (closeFrom high state)) =
      closeFrom low (run.foldl pushHeading state) := by
  cases run with
  | nil => exact closeFrom_closeFrom le state
  | cons next rest =>
    rw [List.foldl_cons, List.foldl_cons, pushHeading_closeFrom state (first next rfl)]

/-- The loop invariant: pushing a run of headings at `level` or deeper onto a stack whose
innermost open heading is above `level`, then closing the run, adds the run's
level-nesting to the innermost open heading's children, or to the top level. -/
theorem closeFrom_foldl_pushHeading {level : Nat} :
    ∀ (fuel : Nat) (run : List Heading) (state : List HeadingNode × HeadingStack),
      run.length < fuel → (∀ heading ∈ run, level ≤ heading.level) → OpenBelow level state →
      closeFrom level (run.foldl pushHeading state) = attachNodes (nodesFrom fuel run) state
  | 0, _, _, short, _, _ => absurd short (Nat.not_lt_zero _)
  | _ + 1, [], _, _, _, open_ => closeFrom_of_openBelow open_
  | fuel + 1, heading :: rest, state, short, deep, open_ => by
    have atLevel : level ≤ heading.level := deep heading List.mem_cons_self
    set deeper := rest.takeWhile fun other => other.level > heading.level
    set after := rest.dropWhile fun other => other.level > heading.level
    obtain ⟨deeperShort, afterShort⟩ := deeper_lengths_lt heading (by simpa using short)
    have pushed : pushHeading state heading = (state.1, (heading, []) :: state.2) := by
      simp only [pushHeading, closeFrom_of_openBelow (open_.mono atLevel)]
    have children : closeFrom (heading.level + 1)
        (deeper.foldl pushHeading (state.1, (heading, []) :: state.2)) =
          (state.1, (heading, nodesFrom fuel deeper) :: state.2) := by
      rw [closeFrom_foldl_pushHeading fuel deeper _ deeperShort
        (fun other inDeeper => Nat.succ_le_of_lt (by simpa using List.mem_takeWhile_imp inDeeper))
        (by simp [OpenBelow, openHeadings]), attachNodes_open, List.nil_append]
    have afterFirst : ∀ next ∈ after.head?, next.level ≤ heading.level := by
      intro next first
      have stops := List.head?_dropWhile_not (fun other => other.level > heading.level) rest
      rw [show (rest.dropWhile _).head? = some next from first] at stops
      simpa using stops
    have closed : closeFrom heading.level (state.1, (heading, nodesFrom fuel deeper) :: state.2) =
        attachNode (.node heading (nodesFrom fuel deeper)) state := by
      rw [closeFrom_of_le (Nat.le_refl _), closeFrom_of_openBelow]
      exact openBelow_attachNode.mpr (open_.mono atLevel)
    calc closeFrom level ((heading :: rest).foldl pushHeading state)
        = closeFrom level (after.foldl pushHeading
            (deeper.foldl pushHeading (state.1, (heading, []) :: state.2))) := by
          rw [List.foldl_cons, pushed, ← List.foldl_append, List.takeWhile_append_dropWhile]
      _ = closeFrom level (after.foldl pushHeading
            (state.1, (heading, nodesFrom fuel deeper) :: state.2)) := by
          rw [← children, closeFrom_foldl_closeFrom (Nat.le_succ_of_le atLevel)
            (fun next first => Nat.le_succ_of_le (afterFirst next first))]
      _ = closeFrom level (after.foldl pushHeading
            (attachNode (.node heading (nodesFrom fuel deeper)) state)) := by
          rw [← closed, closeFrom_foldl_closeFrom atLevel afterFirst]
      _ = attachNodes (nodesFrom (fuel + 1) (heading :: rest)) state := by
          rw [closeFrom_foldl_pushHeading fuel after _ afterShort
            (fun other inAfter => deep other
              (List.mem_cons_of_mem _ ((List.dropWhile_sublist _).subset inAfter)))
            (openBelow_attachNode.mpr open_)]
          rfl

/-- The stack loop nests a document's headings by level: it builds their level-nesting. -/
theorem nestHeadings_eq_nodesFrom (headings : List Heading) :
    nestHeadings headings = nodesFrom (headings.length + 1) headings := by
  have built := closeFrom_foldl_pushHeading (headings.length + 1) headings ([], [])
    (Nat.lt_succ_self _) (fun _ _ => Nat.zero_le _) (by simp [OpenBelow, openHeadings])
  rw [nestHeadings, built, attachNodes_top, List.nil_append]

theorem sectionsOfNodes_nodesFrom :
    ∀ (fuel : Nat) (used : List String) (run : List Heading),
      sectionsOfNodes used (nodesFrom fuel run) = sectionsFrom used fuel run
  | 0, _, _ => by simp [nodesFrom, sectionsOfNodes, sectionsFrom]
  | _ + 1, _, [] => by simp [nodesFrom, sectionsOfNodes, sectionsFrom]
  | fuel + 1, used, heading :: rest => by
    rw [nodesFrom, sectionsOfNodes, sectionsFrom, sectionsOfNodes_nodesFrom fuel [],
      sectionsOfNodes_nodesFrom fuel]

/-- The sections of a page are the level-nesting of its headings, read into sections. -/
theorem sectionsOf_eq_sectionsFrom (headings : List Heading) :
    sectionsOf headings = sectionsFrom [] (headings.length + 1) headings := by
  rw [sectionsOf, nestHeadings_eq_nodesFrom, sectionsOfNodes_nodesFrom]

/-- One push keeps the open headings at strictly increasing levels: it pops down to the
open headings above the new one, which it then opens. -/
theorem levelsIncrease_pushHeading {state : List HeadingNode × HeadingStack}
    (increasing : LevelsIncrease state) (heading : Heading) :
    LevelsIncrease (pushHeading state heading) := by
  obtain ⟨popped, open_⟩ := closeFrom_pops heading.level state
  have kept : LevelsIncrease (closeFrom heading.level state) :=
    increasing.sublist popped.sublist
  unfold LevelsIncrease openHeadings at kept ⊢
  rw [pushHeading, List.map_cons, List.pairwise_cons]
  refine ⟨fun outer opened => ?_, kept⟩
  cases stack : (closeFrom heading.level state).2 with
  | nil => simp [stack] at opened
  | cons top rest =>
    rw [stack, List.map_cons, List.pairwise_cons] at kept
    have topBelow : top.1.level < heading.level := open_ top.1 (by simp [openHeadings, stack])
    rw [stack, List.map_cons, List.mem_cons] at opened
    rcases opened with rfl | deeper
    · exact topBelow
    · exact Nat.lt_trans (kept.1 outer deeper) topBelow

/-- After every heading of every document, the stack holds open headings at strictly
increasing levels. -/
theorem foldl_pushHeading_levelsIncrease (headings : List Heading) :
    LevelsIncrease (headings.foldl pushHeading ([], [])) := by
  suffices pushed : ∀ state, LevelsIncrease state →
      LevelsIncrease (headings.foldl pushHeading state) from
    pushed ([], []) (by simp [LevelsIncrease, openHeadings])
  induction headings with
  | nil => exact fun _ increasing => increasing
  | cons heading rest ih => exact fun _ increasing => ih _ (levelsIncrease_pushHeading increasing heading)

end DocIndex.Markdown
