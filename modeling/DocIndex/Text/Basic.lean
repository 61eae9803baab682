import DocIndex.Text.RangeTable

/-!
# Text operations

The blank characters of Unicode 14: the characters of the White_Space property together
with the four information separators U+001C to U+001F. They separate tokens and are
what `strip` removes. `isWhiteSpace` leaves the separators out: it is the White_Space
property itself, the blank of program sources.

A text may hold a lone surrogate, a UTF-16 code unit from U+D800 to U+DFFF that stands
alone: a JSON or YAML escape such as `\ud800` can write one, though it is no character.
Such a unit is kept as a stand-in character of the last private-use plane, the unit plus
0x100000 (U+10D800 to U+10DFFF), so that it survives reading and is written back as the
same escape. A stand-in, like the unit it stands for, is no letter, digit or blank, and
`codePoint` gives back the unit, by which texts are ordered. Strict UTF-8 encoding refuses a
text that holds one, naming the first run of lone surrogates by its position among the
text's characters (`encodeRefusal?`).

Operations on texts as the library uses them: trimming by a character class, splitting into
lines and blank-separated words, tab expansion, and searching for a piece of text. They
work on the character list of a text, so each one is a plain recursion that lemmas can
follow.
-/

namespace DocIndex.Text

/-- Code points of the blank characters, as ranges. -/
def blankTable : RangeTable where
  ranges := #[
  (0x9, 0xD), (0x1C, 0x20), (0x85, 0x85), (0xA0, 0xA0), (0x1680, 0x1680), (0x2000, 0x200A),
  (0x2028, 0x2029), (0x202F, 0x202F), (0x205F, 0x205F), (0x3000, 0x3000)]

/-- Whether a character is blank. -/
def isBlank (c : Char) : Bool :=
  blankTable.contains c.toNat

/-- Whether a character is white space by the White_Space property alone: a blank other
than the four information separators. -/
def isWhiteSpace (c : Char) : Bool :=
  isBlank c && !(0x1C ≤ c.toNat && c.toNat ≤ 0x1F)

/-- How far a stand-in lies above the unit it stands for. -/
def standInOffset : Nat := 0x100000

/-- Whether a number is a surrogate code unit. -/
def isSurrogate (unit : Nat) : Bool :=
  0xD800 ≤ unit && unit ≤ 0xDFFF

/-- The stand-in of a surrogate code unit. -/
def standIn (unit : Nat) : Char :=
  Char.ofNat (unit + standInOffset)

/-- The surrogate code unit a character stands for, if it is a stand-in. -/
def surrogateOf? (c : Char) : Option Nat :=
  if c.toNat ≥ standInOffset && isSurrogate (c.toNat - standInOffset) then
    some (c.toNat - standInOffset)
  else none

/-- The code point a character stands for: the unit of a stand-in, its own otherwise. -/
def codePoint (c : Char) : Nat :=
  (surrogateOf? c).getD c.toNat

/-- The character of a code point from an escape: a surrogate becomes its stand-in. -/
def charOfCodePoint (code : Nat) : Char :=
  if isSurrogate code then standIn code else Char.ofNat code

/-- Whether a character stands for a lone surrogate. -/
def isStandIn (c : Char) : Bool :=
  (surrogateOf? c).isSome

/-- Why strict UTF-8 encoding refuses a text, in the encoder's words: the first run of lone
surrogates, one named by its unit, several by the span of their positions. A text without a
lone surrogate encodes. -/
def encodeRefusal? (text : String) : Option String :=
  let position := (text.toList.takeWhile fun c => !isStandIn c).length
  match (text.toList.dropWhile fun c => !isStandIn c).takeWhile isStandIn with
  | [] => none
  | [c] => some ("'utf-8' codec can't encode character '\\u" ++
      String.ofList (Nat.toDigits 16 (codePoint c)) ++ "' in position " ++
      toString position ++ ": surrogates not allowed")
  | run => some ("'utf-8' codec can't encode characters in position " ++
      toString position ++ "-" ++ toString (position + run.length - 1) ++
      ": surrogates not allowed")

/-- Drop the leading characters that satisfy `drop`. -/
def trimStart (drop : Char → Bool) (text : String) : String :=
  String.ofList (text.toList.dropWhile drop)

/-- Drop the trailing characters that satisfy `drop`. -/
def trimEnd (drop : Char → Bool) (text : String) : String :=
  String.ofList ((text.toList.reverse.dropWhile drop).reverse)

/-- Drop the leading and trailing characters that satisfy `drop`. -/
def trimBoth (drop : Char → Bool) (text : String) : String :=
  trimEnd drop (trimStart drop text)

/-- Drop leading and trailing blanks. -/
def strip (text : String) : String :=
  trimBoth isBlank text

/-- Drop leading blanks. -/
def stripStart (text : String) : String :=
  trimStart isBlank text

/-- Drop trailing blanks. -/
def stripEnd (text : String) : String :=
  trimEnd isBlank text

/-- Whether a character is one of `chars`. -/
def oneOf (chars : String) (c : Char) : Bool :=
  chars.toList.contains c

/-- Whether `needle` occurs in `hay` as a contiguous piece. -/
def occursWithin (needle : List Char) : List Char → Bool
  | [] => needle.isEmpty
  | c :: rest => needle.isPrefixOf (c :: rest) || occursWithin needle rest

/-- Whether the text `needle` occurs in the text `hay`. -/
def occursIn (needle hay : String) : Bool :=
  occursWithin needle.toList hay.toList

/-- The position of the first occurrence of `needle` at or after the start of `hay`. -/
def findFrom (needle : List Char) : List Char → Nat → Option Nat
  | [], position => if needle.isEmpty then some position else none
  | c :: rest, position =>
    if needle.isPrefixOf (c :: rest) then some position else findFrom needle rest (position + 1)

/-- Split at the occurrences of `separator` found scanning left to right, at most `limit`
of them; `current` holds the piece read so far, last character first. -/
def splitScan (separator : List Char) (limit : Nat) (current : List Char) :
    List Char → List (List Char)
  | [] => [current.reverse]
  | c :: rest =>
    if cut : 0 < limit ∧ 0 < separator.length ∧ separator.isPrefixOf (c :: rest) = true then
      current.reverse :: splitScan separator (limit - 1) [] ((c :: rest).drop separator.length)
    else
      splitScan separator limit (c :: current) rest
termination_by hay => hay.length
decreasing_by
  · simp only [List.length_drop, List.length_cons]
    omega
  · simp

/-- Split `hay` at the first `limit` occurrences of a non-empty `separator`. -/
def splitOnLimit (separator : List Char) (hay : List Char) (limit : Nat) :
    List (List Char) :=
  splitScan separator limit [] hay

/-- Whether a character ends a line: the line feed, carriage return, vertical tab, form feed,
the file, group and record separators, the next-line character and the line and paragraph
separators. -/
def isLineBreak (c : Char) : Bool :=
  c = '\n' || c = '\r' || c = '\x0b' || c = '\x0c' || c = '\x1c' || c = '\x1d' ||
    c = '\x1e' || c = '\x85' || c = '\u2028' || c = '\u2029'

/-- The lines of a text with their ends kept, `current` holding the line read so far, last
character first; a carriage return followed by a line feed ends one line, and no empty piece
follows a final line end. -/
def linesFrom (current : List Char) : List Char → List (List Char)
  | [] => if current.isEmpty then [] else [current.reverse]
  | '\r' :: '\n' :: rest => ('\n' :: '\r' :: current).reverse :: linesFrom [] rest
  | c :: rest =>
    if isLineBreak c then (c :: current).reverse :: linesFrom [] rest
    else linesFrom (c :: current) rest

/-- The lines of a character list, ends kept. -/
def linesKeep (text : List Char) : List (List Char) :=
  linesFrom [] text

/-- The lines of a text, line ends kept. -/
def splitLinesKeep (text : String) : List String :=
  (linesKeep text.toList).map String.ofList

/-- Drop a line end (one line feed, or a carriage return with its line feed, or any single
line break) from the end of a line. -/
def dropLineEnd (line : List Char) : List Char :=
  match line.reverse with
  | '\n' :: '\r' :: rest => rest.reverse
  | c :: rest => if isLineBreak c then rest.reverse else line
  | [] => []

/-- The lines of a text without their ends. -/
def splitLines (text : String) : List String :=
  (linesKeep text.toList).map fun line => String.ofList (dropLineEnd line)

/-- Replace each tab by spaces up to the next multiple of eight columns; a line feed or a
carriage return starts a new column count. -/
def expandTabsFrom (column : Nat) : List Char → List Char
  | [] => []
  | '\t' :: rest =>
    let width := 8 - column % 8
    List.replicate width ' ' ++ expandTabsFrom (column + width) rest
  | c :: rest =>
    if c = '\n' || c = '\r' then c :: expandTabsFrom 0 rest
    else c :: expandTabsFrom (column + 1) rest

/-- Expand the tabs of a text to eight columns. -/
def expandTabs (text : String) : String :=
  String.ofList (expandTabsFrom 0 text.toList)

/-- The blank-separated words of a character list, `current` holding the word read so
far, last character first. -/
def wordsFrom (current : List Char) : List Char → List (List Char)
  | [] => if current.isEmpty then [] else [current.reverse]
  | c :: rest =>
    if isBlank c then
      if current.isEmpty then wordsFrom [] rest else current.reverse :: wordsFrom [] rest
    else
      wordsFrom (c :: current) rest

/-- The blank-separated words of a character list. -/
def wordsOf (text : List Char) : List (List Char) :=
  wordsFrom [] text

/-- The blank-separated words of a text. -/
def splitBlank (text : String) : List String :=
  (wordsOf text.toList).map String.ofList

/-- Join texts with a separator between neighbours. -/
def joinWith (separator : String) : List String → String
  | [] => ""
  | [only] => only
  | first :: rest => first ++ separator ++ joinWith separator rest

/-- Replace every occurrence of a non-empty `needle` by `replacement`, left to right. -/
def replaceAll (needle replacement : String) (text : String) : String :=
  if needle.isEmpty then text
  else joinWith replacement ((splitOnLimit needle.toList text.toList text.length).map String.ofList)

end DocIndex.Text
