import DocIndex.Text.Basic

/-!
# YAML tokens and the reading cursor

A YAML character stream is first cut into tokens: indicators of structure (the start and
end of block and flow collections, keys, values, entries), node properties (anchors,
aliases, tags), scalars and directives. This module holds the token type, the character
classes the tokenizer decides by, and the `Cursor` that walks the characters while keeping
the line and column that indentation is measured in.

Columns count characters from the start of a line, except that a byte order mark takes no
column. A line ends at a line feed, a next-line character, a line or paragraph separator,
or a carriage return that no line feed follows; a carriage return followed by a line feed
ends the line at the line feed.
-/

namespace DocIndex.Yaml

/-- What a directive says. -/
inductive DirectiveValue where
  | version (major minor : Nat)
  | tagHandle (handle expansion : String)
  | ignored
  deriving DecidableEq, Repr

/-- One token of a YAML character stream. -/
inductive Token where
  | directive (name : String) (value : DirectiveValue)
  | documentStart
  | documentEnd
  | blockSequenceStart
  | blockMappingStart
  | blockEnd
  | flowSequenceStart
  | flowMappingStart
  | flowSequenceEnd
  | flowMappingEnd
  | key
  | value
  | blockEntry
  | flowEntry
  | alias (name : String)
  | anchor (name : String)
  | tag (handle : Option String) (suffix : String)
  | scalar (text : String) (plain : Bool)
  | streamEnd
  deriving DecidableEq, Repr

/-- Whether a character ends a line. -/
def isBreak (c : Char) : Bool :=
  c = '\r' || c = '\n' || c = '\x85' || c = '\u2028' || c = '\u2029'

/-- Whether a character ends a line or is the end of the stream, read as `'\x00'`. -/
def isBreakOrEnd (c : Char) : Bool :=
  c = '\x00' || isBreak c

/-- Whether a character is a space, a tab, a line end or the end of the stream: what may
follow an indicator for it to count as one. -/
def isBlankOrEnd (c : Char) : Bool :=
  c = ' ' || c = '\t' || isBreakOrEnd c

/-- Whether a character may appear in an anchor name, a directive name or a tag handle. -/
def isWordChar (c : Char) : Bool :=
  ('0' ≤ c && c ≤ '9') || ('A' ≤ c && c ≤ 'Z') || ('a' ≤ c && c ≤ 'z') || c = '-' || c = '_'

/-- Whether a character is a hexadecimal digit. -/
def isHexDigit (c : Char) : Bool :=
  ('0' ≤ c && c ≤ '9') || ('A' ≤ c && c ≤ 'F') || ('a' ≤ c && c ≤ 'f')

/-- The value of a hexadecimal digit. -/
def hexValue (c : Char) : Nat :=
  if '0' ≤ c && c ≤ '9' then c.toNat - '0'.toNat
  else if 'A' ≤ c && c ≤ 'F' then c.toNat - 'A'.toNat + 10
  else c.toNat - 'a'.toNat + 10

/-- The number that hexadecimal digits write. -/
def hexNumber (digits : List Char) : Nat :=
  digits.foldl (fun acc c => acc * 16 + hexValue c) 0

/-- Whether a character may appear in a YAML stream: tab, line feed, carriage return, the
printable ASCII characters, the next-line character and the rest of Unicode apart from
the C1 controls, surrogates (and their stand-ins) and the two non-characters U+FFFE and
U+FFFF. -/
def isStreamChar (c : Char) : Bool :=
  let n := DocIndex.Text.codePoint c
  n = 0x09 || n = 0x0A || n = 0x0D || (0x20 ≤ n && n ≤ 0x7E) || n = 0x85 ||
    (0xA0 ≤ n && n ≤ 0xD7FF) || (0xE000 ≤ n && n ≤ 0xFFFD) || 0x10000 ≤ n

/-- A position in the character stream: the characters still to read, and the index, line
and column of the first of them. -/
structure Cursor where
  rest : List Char
  index : Nat
  line : Nat
  column : Nat

namespace Cursor

/-- The cursor at the start of a text. -/
def start (text : String) : Cursor :=
  ⟨text.toList, 0, 0, 0⟩

/-- The character `k` places ahead, or `'\x00'` past the end. -/
def peek (cursor : Cursor) (k : Nat) : Char :=
  cursor.rest.getD k '\x00'

/-- The next character, or `'\x00'` at the end. -/
def current (cursor : Cursor) : Char :=
  cursor.peek 0

/-- The next `n` characters, fewer at the end. -/
def ahead (cursor : Cursor) (n : Nat) : List Char :=
  cursor.rest.take n

/-- Read one character, moving to the next line after a line end. -/
def advance (cursor : Cursor) : Cursor :=
  match cursor.rest with
  | [] => cursor
  | c :: tail =>
    let endsLine := c = '\n' || c = '\x85' || c = '\u2028' || c = '\u2029' ||
      (c = '\r' && tail.head? != some '\n')
    { rest := tail
      index := cursor.index + 1
      line := if endsLine then cursor.line + 1 else cursor.line
      column := if endsLine then 0 else if c = '\uFEFF' then cursor.column else cursor.column + 1 }

/-- Read `n` characters. -/
def forward (cursor : Cursor) : Nat → Cursor
  | 0 => cursor
  | n + 1 => cursor.advance.forward n

/-- How many of the next characters satisfy `p`. -/
def spanOf (p : Char → Bool) (cursor : Cursor) : Nat :=
  (cursor.rest.takeWhile p).length

/-- Read the characters that satisfy `p`. -/
def skipWhile (p : Char → Bool) (cursor : Cursor) : Cursor :=
  cursor.forward (cursor.spanOf p)

/-- Read the characters up to the end of the line, leaving the line end. -/
def skipToLineEnd (cursor : Cursor) : Cursor :=
  cursor.skipWhile fun c => !isBreakOrEnd c

/-- Read one line end, if one comes next: a carriage return with a line feed, a carriage
return, a line feed or a next-line character read as `"\n"`, a line or paragraph
separator as itself. -/
def lineBreak (cursor : Cursor) : Cursor × String :=
  match cursor.rest with
  | '\r' :: '\n' :: _ => (cursor.forward 2, "\n")
  | c :: _ =>
    if c = '\r' || c = '\n' || c = '\x85' then (cursor.advance, "\n")
    else if c = '\u2028' || c = '\u2029' then (cursor.advance, String.singleton c)
    else (cursor, "")
  | [] => (cursor, "")

/-- Whether a document marker (`---` or `...` followed by a blank or the end) comes next. -/
def atDocumentMarker (cursor : Cursor) : Bool :=
  (cursor.ahead 3 = ['-', '-', '-'] || cursor.ahead 3 = ['.', '.', '.']) &&
    isBlankOrEnd (cursor.peek 3)

/-- Reading a character leaves the characters after it. -/
theorem advance_rest (cursor : Cursor) (c : Char) (tail : List Char)
    (h : cursor.rest = c :: tail) : cursor.advance.rest = tail := by
  simp [advance, h]

end Cursor

end DocIndex.Yaml
