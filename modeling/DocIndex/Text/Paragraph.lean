import DocIndex.Text.Basic

/-!
# Paragraphs

`truncate` cuts a long text at the last paragraph break that fits, and `firstParagraph`
finds the first paragraph with content. A paragraph break is a line feed, then blank
characters, the last of them a line feed; each break swallows the longest such run.
-/

namespace DocIndex.Text

/-- How many characters of a section's text are kept as its detail. -/
def maxDetailChars : Int := 6000

/-- Where a slice bound falls in a list of length `length`: a negative bound counts from
the end, and the result is clamped to the list. -/
def sliceBound (length : Nat) (bound : Int) : Nat :=
  if bound < 0 then min length (Int.toNat (length + bound)) else min length bound.toNat

/-- The last position `i` with `i + 2 ≤ limit` where two line feeds start. -/
def lastBreakBefore (chars : List Char) (limit : Nat) : Option Nat :=
  ((List.range chars.length).filter fun i =>
    i + 2 ≤ limit && (chars.drop i).take 2 == ['\n', '\n']).getLast?

/-- Cut a text longer than `maxChars` at the last paragraph break that fits, or at
`maxChars` when none fits past the start, and drop trailing blanks. -/
def truncate (text : String) (maxChars : Int) : String :=
  let chars := text.toList
  if (chars.length : Int) ≤ maxChars then text
  else
    let limit := sliceBound chars.length maxChars
    let cut : Int := match lastBreakBefore chars limit with
      | some i => if i = 0 then maxChars else i
      | none => maxChars
    stripEnd (String.ofList (chars.take (sliceBound chars.length cut)))

/-- Where the paragraph break that starts at a line feed ends, given the characters `rest`
after that line feed: at the last line feed of the blank run that follows, if there is one. -/
def breakEnd (rest : List Char) : Option Nat :=
  let run := rest.takeWhile isBlank
  ((List.range run.length).filter fun i => run[i]? = some '\n').getLast?

/-- The paragraphs of a text, split at paragraph breaks; `current` holds the paragraph read
so far, last character first. -/
def paragraphsFrom (current : List Char) : List Char → List (List Char)
  | [] => [current.reverse]
  | c :: rest =>
    if c = '\n' then
      match breakEnd rest with
      | some last => current.reverse :: paragraphsFrom [] (rest.drop (last + 1))
      | none => paragraphsFrom (c :: current) rest
    else paragraphsFrom (c :: current) rest
termination_by chars => chars.length
decreasing_by
  all_goals simp only [List.length_drop, List.length_cons]
  all_goals omega

/-- The first paragraph with content, stripped; empty when there is none. -/
def firstParagraph (text : String) : String :=
  let pieces := (paragraphsFrom [] text.toList).map fun piece => strip (String.ofList piece)
  (pieces.find? fun piece => !piece.isEmpty).getD ""

end DocIndex.Text
