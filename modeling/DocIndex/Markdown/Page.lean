import DocIndex.Markdown.Heading
import DocIndex.Markdown.FrontMatter
import DocIndex.Document.Basic
import DocIndex.Disk.Path
import DocIndex.Text.Paragraph

/-!
# The page of a Markdown document

A Markdown document is one page whose sections are its headings, nested with a stack: each
heading closes the open headings at its level or deeper, then joins the innermost heading
still open, or the top level, and opens itself. Among siblings, a heading's id is the slug
of its text, made unique by a suffix `-1`, `-2`, … when an earlier sibling took it. A section's key is `["#", text]`, relative to the page's.

The page's title is the front matter's title, else the first top-level (`#`) heading,
else the file's stem; an empty text counts as missing. Its detail is the front matter's
description, else the first paragraph of the text before the first heading, followed by
the front matter's tags. Its key is the path without the suffix.
-/

namespace DocIndex.Markdown

open DocIndex.Document DocIndex.Disk DocIndex.Text

/-- A heading of a document: its text, level and the text below it. -/
structure Heading where
  text : String
  level : Nat
  content : String

/-- The headings of a document's blocks, in order. -/
def headingsOf (blocks : List Block) : List Heading :=
  blocks.filterMap fun block => block.heading.map fun text => ⟨text, block.level, block.content⟩

/-- The first of `slug`, `slug-1`, `slug-2`, … that is not in `used`; `fuel` bounds the
search and exceeds the size of `used`. -/
def freshId (used : List String) (slug : String) : Nat → Nat → String
  | 0, _ => slug
  | fuel + 1, count =>
    let candidate := if count = 0 then slug else slug ++ "-" ++ toString count
    if used.contains candidate then freshId used slug fuel (count + 1) else candidate

/-- A heading with the headings nested below it. -/
inductive HeadingNode where
  | node (heading : Heading) (children : List HeadingNode)

/-- The headings still open as a document's headings are nested, innermost first, each with
the headings closed below it so far. -/
abbrev HeadingStack := List (Heading × List HeadingNode)

/-- A closed heading joins the children of the innermost open heading, or the top-level
headings when none is open. -/
def attachNode (node : HeadingNode) :
    List HeadingNode × HeadingStack → List HeadingNode × HeadingStack
  | (roots, []) => (roots ++ [node], [])
  | (roots, (parent, children) :: below) => (roots, (parent, children ++ [node]) :: below)

/-- Close the open headings from the innermost one while their level is `level` or more. -/
def closeFrom (level : Nat) : List HeadingNode × HeadingStack → List HeadingNode × HeadingStack
  | (roots, (heading, children) :: below) =>
    if level ≤ heading.level then
      closeFrom level (attachNode (.node heading children) (roots, below))
    else (roots, (heading, children) :: below)
  | (roots, []) => (roots, [])
termination_by state => state.2.length
decreasing_by
  cases below <;> simp [attachNode]

/-- Take the next heading: close the open headings at its level or deeper, then open it. -/
def pushHeading (state : List HeadingNode × HeadingStack) (heading : Heading) :
    List HeadingNode × HeadingStack :=
  let closed := closeFrom heading.level state
  (closed.1, (heading, []) :: closed.2)

/-- Nest a document's headings with a stack as they come, then close those still open. -/
def nestHeadings (headings : List Heading) : List HeadingNode :=
  (closeFrom 0 (headings.foldl pushHeading ([], []))).1

/-- The sections of nested headings; `used` holds the ids the earlier siblings took. -/
def sectionsOfNodes (used : List String) : List HeadingNode → List Section
  | [] => []
  | .node heading children :: rest =>
    let id := freshId used (slugify heading.text) (used.length + 1) 0
    { id
      shortLabel := heading.text
      label := heading.text
      detail := truncate heading.content maxDetailChars
      searchKey := ["#", heading.text]
      children := sectionsOfNodes [] children } :: sectionsOfNodes (id :: used) rest

/-- The sections of a document's headings. -/
def sectionsOf (headings : List Heading) : List Section :=
  sectionsOfNodes [] (nestHeadings headings)

/-- The first of the texts that is not empty. -/
def firstNonEmpty : List (Option String) → Option String
  | [] => none
  | some text :: rest => if text.isEmpty then firstNonEmpty rest else some text
  | none :: rest => firstNonEmpty rest

/-- The page of a Markdown document at `relativePath`, its front matter read by `load`. -/
def documentPage (load : Yaml.Loader) (relativePath : String) (text : String) :
    Except Failure Page := do
  let (matter, body) ← splitFrontMatter load text
  let blocks := splitByHeadings body
  let intro := ((blocks.filter fun block => block.heading.isNone).getLast?.map Block.content).getD ""
  let headings := headingsOf blocks
  let firstTitle := (headings.find? fun heading => heading.level = 1).map Heading.text
  let described := (firstNonEmpty [matter.description]).getD (firstParagraph intro)
  let detail := match matter.tags with
    | some (first :: more) =>
      let joined := ", ".intercalate (first :: more)
      if described.isEmpty then "Tags: " ++ joined else described ++ "\n\nTags: " ++ joined
    | _ => described
  let path := PurePath.parse relativePath
  let keyPath ← path.withoutSuffix
  let title := match firstNonEmpty [matter.title] with
    | some title => title
    | none => (firstNonEmpty [firstTitle]).getD path.stem
  return { path := relativePath, title, detail, searchKey := [keyPath.text],
           sections := sectionsOf headings }

end DocIndex.Markdown
