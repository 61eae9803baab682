import DocIndex.Text.Basic
import DocIndex.Text.Case
import DocIndex.Text.Word

/-!
# Headings

A Markdown document splits into blocks at its ATX headings: a line of one to six `#`, at
least one blank, and the heading text, optionally closed by blanks and a run of `#`. Lines
inside fenced code blocks are never headings: a line whose first non-blank characters are
three backticks or three tildes opens or closes a fence, before that line is itself tested.
Each block has its heading (none for the text before the first heading), the heading's
level, the stripped text up to the next heading, and the position of its heading line.
-/

namespace DocIndex.Markdown

open DocIndex.Text

/-- The anchor of a heading: lower-cased, only word characters, hyphens and spaces kept,
stripped, and each run of spaces turned into one hyphen; `section` when nothing is left. -/
def slugify (text : String) : String :=
  let kept := (lowerFrom [] text.toList).filter fun c => isWordChar c || c = '-' || c = ' '
  let words := wordsOf kept
  if words.isEmpty then "section" else String.ofList (List.intercalate ['-'] words)

/-- Whether the characters after a heading's text close it: only blanks, or blanks, a run
of `#` and then only blanks. -/
def closesHeading (rest : List Char) : Bool :=
  rest.all isBlank ||
    (let gap := rest.takeWhile isBlank
     let after := rest.drop gap.length
     let marks := after.takeWhile (· = '#')
     !gap.isEmpty && !marks.isEmpty && (after.drop marks.length).all isBlank)

/-- The shortest non-empty start of `rest` after which the heading closes; `taken` holds
what was taken so far, last character first. -/
def headingTextFrom (taken : List Char) : List Char → List Char
  | [] => taken.reverse
  | c :: rest =>
    if closesHeading rest then (c :: taken).reverse else headingTextFrom (c :: taken) rest

/-- The level and text of a heading line (without its line feed), if it is one. -/
def headingOf (line : List Char) : Option (Nat × String) :=
  let marks := line.takeWhile (· = '#')
  let level := marks.length
  if level = 0 ∨ 6 < level then none
  else
    let afterMarks := line.drop level
    let gap := (afterMarks.takeWhile isBlank).length
    let rest := afterMarks.drop gap
    if gap = 0 then none
    else if rest.isEmpty then (if 2 ≤ gap then some (level, "") else none)
    else some (level, strip (String.ofList (headingTextFrom [] rest)))

/-- Whether a line opens or closes a fenced code block. -/
def isFence (line : List Char) : Bool :=
  let rest := line.dropWhile isBlank
  ['\x60', '\x60', '\x60'].isPrefixOf rest || ['~', '~', '~'].isPrefixOf rest

/-- A heading and the text up to the next heading. -/
structure Block where
  heading : Option String
  level : Nat
  content : String
  offset : Nat
  deriving DecidableEq, Repr

/-- The state of the split after some lines. -/
structure Splitter where
  done : List Block
  heading : Option String
  level : Nat
  offset : Nat
  lines : List (List Char)
  inFence : Bool
  position : Nat

/-- The split before any line. -/
def Splitter.start : Splitter :=
  ⟨[], none, 0, 0, [], false, 0⟩

/-- The blocks finished, with the block being read closed: it is kept when it has a heading
or some text. -/
def Splitter.close (state : Splitter) : List Block :=
  let text := strip (String.ofList state.lines.reverse.flatten)
  if state.heading.isSome || !text.isEmpty then
    ⟨state.heading, state.level, text, state.offset⟩ :: state.done
  else state.done

/-- Drop the line feeds that end a line. -/
def dropLineFeeds (line : List Char) : List Char :=
  (line.reverse.dropWhile (· = '\n')).reverse

/-- Read one line, line end included. -/
def Splitter.step (state : Splitter) (line : List Char) : Splitter :=
  let bare := dropLineFeeds line
  let inFence := if isFence bare then !state.inFence else state.inFence
  let found := if inFence then none else headingOf bare
  match found with
  | some (level, text) =>
    { done := state.close, heading := some text, level, offset := state.position, lines := [],
      inFence, position := state.position + line.length }
  | none =>
    ⟨state.done, state.heading, state.level, state.offset, line :: state.lines, inFence,
      state.position + line.length⟩

/-- Split a document into heading blocks. -/
def splitByHeadings (content : String) : List Block :=
  ((linesKeep content.toList).foldl Splitter.step Splitter.start).close.reverse

end DocIndex.Markdown
