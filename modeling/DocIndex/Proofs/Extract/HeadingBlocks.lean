import Mathlib
import DocIndex.Markdown.Heading

/-!
# Heading blocks of a Markdown document

A document is read line by line, line ends kept. Each line starts where the lines before it
end. A fence line, one whose first non-blank characters are three backticks or three
tildes, flips the fence state, and the flip counts for that line itself; a line is a heading
line when, after its own flip, the state is outside a fence and the line without its line
feeds reads as a heading. `markLinesFrom` marks every line so, by its position among the
lines: its start is the sum of the lengths before it, and its fence state the starting state
flipped once for each fence line up to it.

The main statement, `split_by_headings_partitions_at_heading_lines`, says that splitting a
document at its headings gives the text before the first heading line as a block when that
text is not empty, then one block per heading line, in order, holding the heading's text
and level, the stripped text of the lines after it up to the next heading line, and where
its line starts. It follows that the blocks start at strictly increasing positions, that the
document from a heading line's start begins with that line, that no fence line is a heading
line, and that the lines before the first heading line and the groups of each heading line
with the lines after it partition the document's lines.

The proof follows the split's one pass: after some lines, the finished blocks, the block
being read and the fence state are what the marked lines read so far say
(`foldl_step_close`).
-/

namespace DocIndex.Markdown

open DocIndex.Text

/-! ## Lines of a document -/

/-- The lines of a text put back together give the text. -/
theorem flatten_linesFrom (current text : List Char) :
    (linesFrom current text).flatten = current.reverse ++ text := by
  fun_induction linesFrom current text with
  | case1 current empty => simp [List.isEmpty_iff.mp empty]
  | case2 current _ => simp
  | case3 current rest ih => simp [ih]
  | case4 current c rest _ _ ih => simp [ih]
  | case5 current c rest _ _ ih => simp [ih]

theorem flatten_linesKeep (text : List Char) : (linesKeep text).flatten = text := by
  simp [linesKeep, flatten_linesFrom]

/-- No line of a text is empty: each holds at least its first character. -/
theorem ne_nil_of_mem_linesFrom {current text : List Char} {line : List Char}
    (member : line ∈ linesFrom current text) : line ≠ [] := by
  fun_induction linesFrom current text with
  | case1 current _ => simp at member
  | case2 current nonempty =>
    rw [List.mem_singleton] at member
    subst member
    simpa [List.isEmpty_iff] using nonempty
  | case3 current rest ih =>
    rcases List.mem_cons.mp member with rfl | later
    · simp
    · exact ih later
  | case4 current c rest _ _ ih =>
    rcases List.mem_cons.mp member with rfl | later
    · simp
    · exact ih later
  | case5 current c rest _ _ ih => exact ih member

/-! ## Marked lines -/

/-- Whether a line, its line feeds dropped, opens or closes a fence. -/
def isFenceLine (line : List Char) : Bool :=
  isFence (dropLineFeeds line)

/-- A line of a document with where it starts, counted in characters, and, when it is a
heading line, its level and text. -/
structure MarkedLine where
  line : List Char
  offset : Nat
  heading : Option (Nat × String)

/-- The lines of a document marked, read from the fence state `inFence` and the position
`start`: line `k` starts where the lines before it end; the fence state after line `k` is
`inFence` flipped once for each fence line among the lines up to `k`, that one included; and
line `k` is a heading line when that state is outside a fence and the line, its line feeds
dropped, reads as a heading. -/
def markLinesFrom (inFence : Bool) (start : Nat) (lines : List (List Char)) : List MarkedLine :=
  lines.mapIdx fun k line =>
    let fenced := inFence ^^ ((lines.take (k + 1)).countP isFenceLine % 2 == 1)
    ⟨line, start + ((lines.take k).map List.length).sum,
      if fenced then none else headingOf (dropLineFeeds line)⟩

/-- The lines of a document, marked from outside a fence and its start. -/
def markLines (content : String) : List MarkedLine :=
  markLinesFrom false 0 (linesKeep content.toList)

/-- Whether a marked line is no heading line. -/
def MarkedLine.isPlain (marked : MarkedLine) : Bool :=
  marked.heading.isNone

/-- The text of the lines before the first heading line, joined and stripped. -/
def leadingText (marked : List MarkedLine) : String :=
  strip (String.ofList ((marked.takeWhile MarkedLine.isPlain).map MarkedLine.line).flatten)

/-- The block of each heading line, in order: the heading's text and level, the text of the
lines after it up to the next heading line, and where its line starts. -/
def headingBlocks : List MarkedLine → List Block
  | [] => []
  | marked :: after =>
    match marked.heading with
    | some (level, text) => ⟨some text, level, leadingText after, marked.offset⟩ :: headingBlocks after
    | none => headingBlocks after

/-- The blocks of marked lines: the text before the first heading line, when it is not empty,
then the block of each heading line. -/
def blocksOfLines (marked : List MarkedLine) : List Block :=
  (if (leadingText marked).isEmpty then [] else [⟨none, 0, leadingText marked, 0⟩]) ++
    headingBlocks marked

/-- Each heading line with the lines after it up to the next heading line, in order. -/
def headingGroups : List MarkedLine → List (List MarkedLine)
  | [] => []
  | marked :: after =>
    if marked.heading.isSome then (marked :: after.takeWhile MarkedLine.isPlain) :: headingGroups after
    else headingGroups after

/-- The fence state flips on a fence line. -/
def flipOn (line : List Char) (inFence : Bool) : Bool :=
  if isFenceLine line then !inFence else inFence

/-- The mark of a line read in the fence state `inFence`: its heading, unless the line's
own flip leaves the state inside a fence. -/
def markOf (inFence : Bool) (line : List Char) : Option (Nat × String) :=
  if flipOn line inFence then none else headingOf (dropLineFeeds line)

theorem odd_succ (count : Nat) : ((count + 1) % 2 == 1) = !(count % 2 == 1) := by
  rcases Nat.mod_two_eq_zero_or_one count with parity | parity <;> simp [Nat.add_mod, parity]

/-- Counting one more fence line flips the fence state once. -/
theorem parity_flip (inFence fence : Bool) (count : Nat) :
    (inFence ^^ ((count + if fence then 1 else 0) % 2 == 1)) =
      ((if fence then !inFence else inFence) ^^ (count % 2 == 1)) := by
  cases inFence <;> cases fence <;> simp [odd_succ]

/-- Marking a line and then the lines after it, from the fence state and position the line
leaves. -/
theorem markLinesFrom_cons (inFence : Bool) (start : Nat) (line : List Char)
    (lines : List (List Char)) :
    markLinesFrom inFence start (line :: lines) =
      ⟨line, start, markOf inFence line⟩ ::
        markLinesFrom (flipOn line inFence) (start + line.length) lines := by
  simp only [markLinesFrom, List.mapIdx_cons, List.take_succ_cons, List.countP_cons,
    List.take_zero, List.countP_nil, List.map_cons, List.sum_cons, List.map_nil, List.sum_nil]
  refine congrArg₂ _ ?_ (List.mapIdx_eq_mapIdx_iff.mpr fun k _ => ?_)
  · cases fence : isFenceLine line <;> simp [markOf, flipOn, fence]
  · rw [parity_flip, Nat.add_assoc]
    rfl

@[simp]
theorem length_markLinesFrom (inFence : Bool) (start : Nat) (lines : List (List Char)) :
    (markLinesFrom inFence start lines).length = lines.length :=
  List.length_mapIdx

theorem lines_markLinesFrom (inFence : Bool) (start : Nat) (lines : List (List Char)) :
    (markLinesFrom inFence start lines).map MarkedLine.line = lines := by
  induction lines generalizing inFence start with
  | nil => rfl
  | cons line lines ih => rw [markLinesFrom_cons, List.map_cons, ih]

/-! ## The split's one pass -/

/-- The split's state with some more lines added to the block being read. -/
def Splitter.extend (state : Splitter) (lines : List (List Char)) : Splitter :=
  { state with lines := lines.reverse ++ state.lines }

theorem Splitter.step_of_plain {state : Splitter} {line : List Char}
    (plain : markOf state.inFence line = none) :
    state.step line =
      { (state.extend [line]) with
        inFence := flipOn line state.inFence, position := state.position + line.length } := by
  unfold markOf flipOn isFenceLine at plain
  simp only [Splitter.step, plain, Splitter.extend]
  rfl

theorem Splitter.step_of_heading {state : Splitter} {line : List Char} {level : Nat}
    {text : String} (found : markOf state.inFence line = some (level, text)) :
    state.step line =
      { done := state.close, heading := some text, level, offset := state.position, lines := [],
        inFence := flipOn line state.inFence, position := state.position + line.length } := by
  unfold markOf flipOn isFenceLine at found
  simp only [Splitter.step, found]
  rfl

/-- After the lines, the split has closed the block being read extended by the lines before
the first heading line, and then the block of each heading line. -/
theorem foldl_step_close (lines : List (List Char)) :
    ∀ state : Splitter,
      (lines.foldl Splitter.step state).close.reverse =
        (state.extend (((markLinesFrom state.inFence state.position lines).takeWhile
          MarkedLine.isPlain).map MarkedLine.line)).close.reverse ++
          headingBlocks (markLinesFrom state.inFence state.position lines) := by
  induction lines with
  | nil =>
    intro state
    simp [markLinesFrom, headingBlocks, Splitter.extend]
  | cons line lines ih =>
    intro state
    rw [List.foldl_cons, markLinesFrom_cons]
    cases mark : markOf state.inFence line with
    | none =>
      rw [Splitter.step_of_plain mark, ih]
      simp [List.takeWhile_cons, MarkedLine.isPlain, headingBlocks, Splitter.extend,
        Splitter.close]
    | some found =>
      obtain ⟨level, text⟩ := found
      rw [Splitter.step_of_heading mark, ih]
      simp [MarkedLine.isPlain, headingBlocks, Splitter.extend, Splitter.close, leadingText]

/-- Splitting a document at its headings gives the blocks of its marked lines. -/
theorem splitByHeadings_eq_blocksOfLines (content : String) :
    splitByHeadings content = blocksOfLines (markLines content) := by
  rw [splitByHeadings, foldl_step_close]
  by_cases empty : (leadingText (markLines content)).isEmpty <;>
    simp_all [markLines, Splitter.start, Splitter.extend, Splitter.close, blocksOfLines,
      leadingText]

/-! ## Positions -/

/-- Every marked line starts at or after the position the marking starts from. -/
theorem start_le_offset {inFence : Bool} {start : Nat} {lines : List (List Char)}
    {marked : MarkedLine} (member : marked ∈ markLinesFrom inFence start lines) :
    start ≤ marked.offset := by
  induction lines generalizing inFence start with
  | nil => simp [markLinesFrom] at member
  | cons line lines ih =>
    rw [markLinesFrom_cons, List.mem_cons] at member
    rcases member with rfl | later
    · exact le_refl _
    · exact le_trans (Nat.le_add_right _ _) (ih later)

/-- Lines that are not empty start at strictly increasing positions. -/
theorem offsets_ascending {inFence : Bool} {start : Nat} {lines : List (List Char)}
    (nonempty : ∀ line ∈ lines, line ≠ []) :
    ((markLinesFrom inFence start lines).map MarkedLine.offset).Pairwise (· < ·) := by
  induction lines generalizing inFence start with
  | nil => simp [markLinesFrom]
  | cons line lines ih =>
    rw [markLinesFrom_cons, List.map_cons, List.pairwise_cons]
    refine ⟨fun offset member => ?_, ih fun other member => nonempty other (.tail _ member)⟩
    obtain ⟨marked, inLater, rfl⟩ := List.mem_map.mp member
    have later := start_le_offset inLater
    have long : 0 < line.length := List.length_pos_iff.mpr (nonempty line List.mem_cons_self)
    dsimp only
    omega

/-- The text from where a marked line starts begins with that line. -/
theorem line_prefix_drop_offset {inFence : Bool} {start : Nat} {lines : List (List Char)}
    {marked : MarkedLine} (member : marked ∈ markLinesFrom inFence start lines) :
    marked.line <+: lines.flatten.drop (marked.offset - start) := by
  induction lines generalizing inFence start with
  | nil => simp [markLinesFrom] at member
  | cons line lines ih =>
    rw [markLinesFrom_cons, List.mem_cons] at member
    rcases member with rfl | later
    · simp
    · have after := start_le_offset later
      have split : marked.offset - start = line.length + (marked.offset - (start + line.length)) := by
        omega
      rw [List.flatten_cons, split, List.drop_append, List.drop_eq_nil_of_le (by omega),
        List.nil_append, Nat.add_sub_cancel_left]
      exact ih later

/-- The blocks of heading lines start where their lines start, in the lines' order. -/
theorem offsets_headingBlocks_sublist :
    ∀ marked : List MarkedLine,
      ((headingBlocks marked).map Block.offset).Sublist (marked.map MarkedLine.offset)
  | [] => List.Sublist.slnil
  | first :: after => by
    rw [headingBlocks, List.map_cons]
    split
    · exact (offsets_headingBlocks_sublist after).cons_cons _
    · exact (offsets_headingBlocks_sublist after).cons _

@[simp]
theorem strip_empty : strip "" = "" := rfl

/-- The block of the text before the first heading line starts before every heading block. -/
theorem headingBlocks_offset_pos {lines : List (List Char)}
    (nonempty : ∀ line ∈ lines, line ≠ [])
    (text : (leadingText (markLinesFrom false 0 lines)).isEmpty = false) :
    ∀ block ∈ headingBlocks (markLinesFrom false 0 lines), 0 < block.offset := by
  cases lines with
  | nil => simp [markLinesFrom, leadingText] at text
  | cons line lines =>
    intro block member
    rw [markLinesFrom_cons] at member text
    cases mark : markOf false line with
    | some found =>
      simp [leadingText, MarkedLine.isPlain, mark] at text
    | none =>
      rw [headingBlocks, mark] at member
      obtain ⟨marked, inLater, same⟩ := List.mem_map.mp
        ((offsets_headingBlocks_sublist _).subset (List.mem_map_of_mem member))
      have later := start_le_offset inLater
      have long : 0 < line.length := List.length_pos_iff.mpr (nonempty line List.mem_cons_self)
      omega

/-- The blocks of a document start at strictly increasing positions. -/
theorem splitByHeadings_offsets_ascending (content : String) :
    ((splitByHeadings content).map Block.offset).Pairwise (· < ·) := by
  have nonempty : ∀ line ∈ linesKeep content.toList, line ≠ [] :=
    fun _ member => ne_nil_of_mem_linesFrom member
  have headings := (offsets_ascending nonempty).sublist
    (offsets_headingBlocks_sublist (markLines content))
  rw [splitByHeadings_eq_blocksOfLines, blocksOfLines, List.map_append, List.pairwise_append]
  refine ⟨by split <;> simp, headings, fun first isFirst offset member => ?_⟩
  split at isFirst
  · simp at isFirst
  · rename_i text
    simp only [List.map_cons, List.map_nil, List.mem_singleton] at isFirst
    obtain ⟨block, inBlocks, rfl⟩ := List.mem_map.mp member
    rw [isFirst]
    exact headingBlocks_offset_pos nonempty (by simpa [markLines] using text) block inBlocks

/-! ## Fences and groups -/

theorem isBlank_hash : isBlank '#' = false := by decide +kernel

/-- A fence line reads as no heading: a heading starts with `#`, a fence with blanks and
then three backticks or tildes. -/
theorem headingOf_of_isFence {line : List Char} (fence : isFence line = true) :
    headingOf line = none := by
  cases line with
  | nil => rfl
  | cons c rest =>
    by_cases hash : c = '#'
    · subst hash
      simp [isFence, isBlank_hash] at fence
    · simp [headingOf, hash]

/-- No fence line is a heading line. -/
theorem heading_eq_none_of_fence {inFence : Bool} {start : Nat} {lines : List (List Char)}
    {marked : MarkedLine} (member : marked ∈ markLinesFrom inFence start lines)
    (fence : isFenceLine marked.line = true) : marked.heading = none := by
  induction lines generalizing inFence start with
  | nil => simp [markLinesFrom] at member
  | cons line lines ih =>
    rw [markLinesFrom_cons, List.mem_cons] at member
    rcases member with rfl | later
    · simp only [markOf]
      split
      · rfl
      · exact headingOf_of_isFence fence
    · exact ih later

/-- The lines before the first heading line and the group of each heading line make up all
the lines, in order. -/
theorem takeWhile_append_flatten_headingGroups :
    ∀ marked : List MarkedLine,
      marked.takeWhile MarkedLine.isPlain ++ (headingGroups marked).flatten = marked
  | [] => rfl
  | first :: after => by
    have rest := takeWhile_append_flatten_headingGroups after
    cases plain : first.isPlain with
    | true =>
      have none : first.heading.isSome = false := by simpa [MarkedLine.isPlain] using plain
      simp [plain, headingGroups, none, rest]
    | false =>
      have some : first.heading.isSome = true := by simpa [MarkedLine.isPlain] using plain
      simp [plain, headingGroups, some, rest]

/-- A group is a heading line and the lines after it that are no heading lines. -/
theorem mem_headingGroups :
    ∀ {marked : List MarkedLine} {group : List MarkedLine}, group ∈ headingGroups marked →
      ∃ first run, group = first :: run ∧ first.heading.isSome ∧ ∀ other ∈ run, other.isPlain
  | [], _, member => by simp [headingGroups] at member
  | first :: after, group, member => by
    rw [headingGroups] at member
    split at member
    · rcases List.mem_cons.mp member with rfl | later
      · exact ⟨first, _, rfl, ‹_›, fun _ inRun => List.mem_takeWhile_imp inRun⟩
      · exact mem_headingGroups later
    · exact mem_headingGroups member

/-- The text of a heading block is the text of its group's lines after the heading line. -/
theorem contents_headingBlocks :
    ∀ marked : List MarkedLine,
      (headingBlocks marked).map Block.content =
        (headingGroups marked).map fun group =>
          strip (String.ofList (group.tail.map MarkedLine.line).flatten)
  | [] => rfl
  | first :: after => by
    rw [headingBlocks, headingGroups]
    cases found : first.heading with
    | none => simpa using contents_headingBlocks after
    | some found =>
      simp [contents_headingBlocks after, leadingText]

/-! ## The split -/

/-- Splitting a document at its headings partitions it at its heading lines. With its lines
marked (`markLines`), the blocks are the text before the first heading line, when it is not
empty, then, for each heading line in order, the heading's text and level, the stripped text
of the lines after it up to the next heading line, and where its line starts. The blocks
start at strictly increasing positions, the document from where a line starts begins with
that line, and no fence line is a heading line. The lines before the first heading line and
then each heading line's group, the heading line with the lines after it up to the next
heading line, are all the lines in order, and a group's lines after its heading line are
what its block's text is made of. -/
theorem split_by_headings_partitions_at_heading_lines (content : String) :
    (markLines content).map MarkedLine.line = linesKeep content.toList ∧
      splitByHeadings content = blocksOfLines (markLines content) ∧
      ((splitByHeadings content).map Block.offset).Pairwise (· < ·) ∧
      (∀ marked ∈ markLines content, marked.line <+: content.toList.drop marked.offset) ∧
      (∀ marked ∈ markLines content, isFenceLine marked.line = true → marked.heading = none) ∧
      (markLines content).takeWhile MarkedLine.isPlain ++
          (headingGroups (markLines content)).flatten = markLines content ∧
      (∀ group ∈ headingGroups (markLines content), ∃ first run, group = first :: run ∧
          first.heading.isSome ∧ ∀ other ∈ run, other.isPlain) ∧
      (headingBlocks (markLines content)).map Block.content =
        (headingGroups (markLines content)).map fun group =>
          strip (String.ofList (group.tail.map MarkedLine.line).flatten) := by
  refine ⟨lines_markLinesFrom _ _ _, splitByHeadings_eq_blocksOfLines content,
    splitByHeadings_offsets_ascending content, fun marked member => ?_,
    fun marked member => heading_eq_none_of_fence member,
    takeWhile_append_flatten_headingGroups _, fun group member => mem_headingGroups member,
    contents_headingBlocks _⟩
  simpa [flatten_linesKeep] using line_prefix_drop_offset member

example : splitByHeadings "# A\n~~~\n# B\n~~~\n" = [⟨some "A", 1, "~~~\n# B\n~~~", 0⟩] := by
  decide +kernel

end DocIndex.Markdown
