import DocIndex.Text.Basic

/-!
# Cleaning documentation text

`cleandoc` normalizes the text of a docstring: tabs are expanded to eight columns, the
first line loses its leading blanks, the common indentation of the other non-blank lines is
removed, and empty lines at both ends are dropped. A string literal is first stripped of its
prefix letters and quotes; comment lines lose their markers.
-/

namespace DocIndex.Text

/-- The pieces of a character list between the occurrences of `separator`, `current` holding
the piece read so far, last character first. -/
def piecesFrom (separator : Char) (current : List Char) : List Char → List (List Char)
  | [] => [current.reverse]
  | c :: rest =>
    if c = separator then current.reverse :: piecesFrom separator [] rest
    else piecesFrom separator (c :: current) rest

/-- The pieces of a character list between the occurrences of `separator`; one more piece
than there are separators. -/
def splitOnChar (separator : Char) (chars : List Char) : List (List Char) :=
  piecesFrom separator [] chars

/-- The indentation of a line that is not blank: how many blanks lead it. -/
def indentOf (line : List Char) : Option Nat :=
  let content := line.dropWhile isBlank
  if content.isEmpty then none else some (line.length - content.length)

/-- The smallest indentation among lines that are not blank. -/
def marginOf (lines : List (List Char)) : Option Nat :=
  lines.foldl (fun margin line =>
    match margin, indentOf line with
    | some m, some i => some (min m i)
    | none, some i => some i
    | m, none => m) none

/-- Drop the empty lines at the front. -/
def dropEmptyFront (lines : List (List Char)) : List (List Char) :=
  lines.dropWhile List.isEmpty

/-- Dedent docstring text: expand tabs, strip the first line's leading blanks and the other
lines' common indentation, and drop empty lines at both ends. -/
def cleandoc (text : String) : String :=
  match splitOnChar '\n' (expandTabsFrom 0 text.toList) with
  | [] => ""
  | first :: rest =>
    let margin := marginOf rest
    let body := match margin with
      | some m => rest.map (List.drop m)
      | none => rest
    let lines := first.dropWhile isBlank :: body
    let kept := (dropEmptyFront (dropEmptyFront lines.reverse).reverse)
    String.ofList (List.intercalate ['\n'] kept)

/-- The quotes a string literal may be delimited by, longest first. -/
def literalQuotes : List (List Char) :=
  [['"', '"', '"'], ['\'', '\'', '\''], ['"'], ['\'']]

/-- Remove the first quote pair that encloses the text. -/
def unquote (text : List Char) : List (List Char) → List Char
  | [] => text
  | quote :: others =>
    if quote.isPrefixOf text && quote.isSuffixOf text && 2 * quote.length ≤ text.length then
      (text.drop quote.length).take (text.length - 2 * quote.length)
    else unquote text others

/-- The documentation a string literal carries: its prefix letters and quotes removed, then
cleaned. -/
def literalDoc (literal : String) : String :=
  let text := literal.toList.dropWhile (oneOf "rRuUbBfF")
  cleandoc (String.ofList (unquote text literalQuotes))

/-- One comment's text without its markers: a line comment loses `//` and one space, a
block comment loses its delimiters and is cleaned; trailing blanks are dropped. -/
def commentText (comment : String) : String :=
  let chars := comment.toList
  let body :=
    if ['/', '/'].isPrefixOf chars then
      let after := chars.drop 2
      String.ofList (if after.head? = some ' ' then after.drop 1 else after)
    else if ['/', '*'].isPrefixOf chars && ['*', '/'].isSuffixOf chars then
      cleandoc (String.ofList ((chars.drop 2).take (chars.length - 4)))
    else comment
  stripEnd body

/-- The documentation of a run of comments: their texts, one per line, stripped. -/
def commentsDoc (comments : List String) : String :=
  strip (joinWith "\n" (comments.map commentText))

end DocIndex.Text
