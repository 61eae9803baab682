import DocIndex.Yaml.Token
import DocIndex.Yaml.Problem
import DocIndex.Text.Utf8

/-!
# Reading single tokens

The readers here each take a cursor at the first character of one token and return the
token with the cursor after it: plain scalars, single- and double-quoted scalars, literal
and folded block scalars, anchors and aliases, tags and directives.

Scalars fold their line ends as YAML 1.1 says. Inside a plain or quoted scalar a single
line end becomes a space, and `n + 1` line ends in a row become `n` line feeds; a line
or paragraph separator is kept as itself. A block scalar keeps its line ends (a literal
one) or folds the line ends between two lines of text that start without a blank (a
folded one), and its last line ends are kept, dropped or kept once by its chomping
indicator.

Loops that read a run of lines take a fuel argument; every caller passes more than the
number of characters left, and every round reads at least one character.
-/

namespace DocIndex.Yaml

open DocIndex.Text

/-- A token and the cursor after it. -/
abbrev Read := Except Problem (Token × Cursor)

/-- Fuel for a loop over the rest of the stream: more than the characters left. -/
def Cursor.fuel (cursor : Cursor) : Nat :=
  cursor.rest.length + 1

/-! ## Plain scalars -/

/-- Whether a `:` ends a plain scalar when `next` follows it: before a blank, and in flow
context also before a flow indicator. -/
def colonEndsPlain (flow : Bool) (next : Char) : Bool :=
  isBlankOrEnd next || (flow && ",[]\x7b\x7d".toList.contains next)

/-- The length of the next run of a plain scalar's characters on one line. -/
def plainRun (flow : Bool) : List Char → Nat
  | [] => 0
  | c :: rest =>
    if isBlankOrEnd c then 0
    else if c = ':' && colonEndsPlain flow (rest.headD '\x00') then 0
    else if flow && ",?[]\x7b\x7d".toList.contains c then 0
    else plainRun flow rest + 1

/-- What follows a run of a plain scalar: the cursor after the spaces and line ends, the
text they fold to (`none` when the scalar ends there) and whether a line end was read. -/
structure Gap where
  cursor : Cursor
  text : Option String
  crossedLine : Bool

/-- Read blank lines after a line end inside a plain scalar: spaces and line ends, stopping
(with `none`) at a document marker; `breaks` holds the line ends read so far. -/
def plainBreaks : Nat → Cursor → String → Cursor × Option String
  | 0, cursor, breaks => (cursor, some breaks)
  | fuel + 1, cursor, breaks =>
    let c := cursor.current
    if c = ' ' then plainBreaks fuel cursor.advance breaks
    else if isBreak c then
      let (cursor, lineEnd) := cursor.lineBreak
      if cursor.atDocumentMarker then (cursor, none)
      else plainBreaks fuel cursor (breaks ++ lineEnd)
    else (cursor, some breaks)

/-- Read the gap after a run of a plain scalar. -/
def plainGap (cursor : Cursor) : Gap :=
  let spaces := cursor.spanOf (· = ' ')
  let whitespace := String.ofList (cursor.ahead spaces)
  let cursor := cursor.forward spaces
  if isBreak cursor.current then
    let (cursor, lineEnd) := cursor.lineBreak
    if cursor.atDocumentMarker then ⟨cursor, none, true⟩
    else
      match plainBreaks cursor.fuel cursor "" with
      | (cursor, none) => ⟨cursor, none, true⟩
      | (cursor, some breaks) =>
        let folded :=
          if lineEnd ≠ "\n" then lineEnd ++ breaks
          else if breaks.isEmpty then " "
          else breaks
        ⟨cursor, some folded, true⟩
  else if whitespace.isEmpty then ⟨cursor, none, false⟩
  else ⟨cursor, some whitespace, false⟩

/-- Read the runs of a plain scalar after the first, each preceded by the folded gap
`spaces`; a run needs a column of at least `indent` in block context. Returns the text,
the cursor and whether the last gap read a line end. -/
def plainRuns (flow : Bool) (indent : Int) :
    Nat → Cursor → String → String → Bool → String × Cursor × Bool
  | 0, cursor, text, _, crossed => (text, cursor, crossed)
  | fuel + 1, cursor, text, spaces, crossed =>
    let length := plainRun flow cursor.rest
    if cursor.current = '#' || length = 0 then (text, cursor, crossed)
    else
      let text := text ++ spaces ++ String.ofList (cursor.ahead length)
      let gap := plainGap (cursor.forward length)
      match gap.text with
      | none => (text, gap.cursor, gap.crossedLine)
      | some folded =>
        if gap.cursor.current = '#' || (!flow && (gap.cursor.column : Int) < indent) then
          (text, gap.cursor, gap.crossedLine)
        else plainRuns flow indent fuel gap.cursor text folded gap.crossedLine

/-- Read a plain scalar in block indentation `indent` (the column of the enclosing block
collection) and the given flow context. Also returns whether the scalar ended after a line
end, which allows a simple key again. -/
def readPlain (flow : Bool) (indent : Int) (cursor : Cursor) : Token × Cursor × Bool :=
  let (text, cursor, crossed) := plainRuns flow (indent + 1) cursor.fuel cursor "" "" false
  (.scalar text true, cursor, crossed)

/-! ## Quoted scalars -/

/-- Whether a character needs attention inside a quoted scalar. -/
def isQuotedSpecial (c : Char) : Bool :=
  c = '\'' || c = '"' || c = '\\' || isBlankOrEnd c

/-- The character a one-letter escape of a double-quoted scalar stands for. -/
def escapeOf (c : Char) : Option Char :=
  match c with
  | '0' => some '\x00'
  | 'a' => some '\x07'
  | 'b' => some '\x08'
  | 't' => some '\t'
  | '\t' => some '\t'
  | 'n' => some '\n'
  | 'v' => some '\x0b'
  | 'f' => some '\x0c'
  | 'r' => some '\r'
  | 'e' => some '\x1b'
  | ' ' => some ' '
  | '"' => some '"'
  | '\\' => some '\\'
  | '/' => some '/'
  | 'N' => some '\x85'
  | '_' => some '\xa0'
  | 'L' => some '\u2028'
  | 'P' => some '\u2029'
  | _ => none

/-- The number of hexadecimal digits a numeric escape takes. -/
def escapeWidth : Char → Option Nat
  | 'x' => some 2
  | 'u' => some 4
  | 'U' => some 8
  | _ => none

/-- The character of a code point from a numeric escape; a surrogate code point, which no
character has, reads as its stand-in. -/
def escapedChar (code : Nat) : Char :=
  DocIndex.Text.charOfCodePoint code

/-- Read the line ends of a quoted scalar after its first one: blanks are skipped and a
document marker at the start of a line is an error. -/
def quotedBreaks : Nat → Cursor → String → Except Problem (Cursor × String)
  | 0, cursor, breaks => .ok (cursor, breaks)
  | fuel + 1, cursor, breaks =>
    if cursor.atDocumentMarker then
      .error (.malformed "found unexpected document separator in a quoted scalar")
    else
      let cursor := cursor.skipWhile fun c => c = ' ' || c = '\t'
      if isBreak cursor.current then
        let (cursor, lineEnd) := cursor.lineBreak
        quotedBreaks fuel cursor (breaks ++ lineEnd)
      else .ok (cursor, breaks)

/-- Read the characters of a quoted scalar up to a blank or its closing quote, with quotes
doubled (single-quoted) or escapes (double-quoted) replaced. -/
def quotedText (double : Bool) : Nat → Cursor → String → Except Problem (Cursor × String)
  | 0, cursor, text => .ok (cursor, text)
  | fuel + 1, cursor, text =>
    let length := cursor.spanOf fun c => !isQuotedSpecial c
    let text := text ++ String.ofList (cursor.ahead length)
    let cursor := cursor.forward length
    let c := cursor.current
    if !double && c = '\'' && cursor.peek 1 = '\'' then
      quotedText double fuel (cursor.forward 2) (text.push '\'')
    else if (double && c = '\'') || (!double && (c = '"' || c = '\\')) then
      quotedText double fuel cursor.advance (text.push c)
    else if double && c = '\\' then
      let cursor := cursor.advance
      let c := cursor.current
      match escapeOf c with
      | some replacement => quotedText double fuel cursor.advance (text.push replacement)
      | none =>
        match escapeWidth c with
        | some width =>
          let cursor := cursor.advance
          let digits := cursor.ahead width
          if digits.length = width && digits.all isHexDigit then
            let code := hexNumber digits
            if code > 0x10FFFF then .error (.badValue "chr() arg not in range(0x110000)")
            else quotedText double fuel (cursor.forward width) (text.push (escapedChar code))
          else .error (.malformed "expected an escape of hexadecimal digits")
        | none =>
          if isBreak c then
            match quotedBreaks cursor.fuel cursor.lineBreak.1 "" with
            | .ok (cursor, breaks) => quotedText double fuel cursor (text ++ breaks)
            | .error problem => .error problem
          else .error (.malformed "found an unknown escape character")
    else .ok (cursor, text)

/-- Read blanks and line ends inside a quoted scalar, folded. -/
def quotedSpaces (cursor : Cursor) : Except Problem (Cursor × String) :=
  let length := cursor.spanOf fun c => c = ' ' || c = '\t'
  let whitespace := String.ofList (cursor.ahead length)
  let cursor := cursor.forward length
  let c := cursor.current
  if cursor.rest.isEmpty then .error (.malformed "found unexpected end of stream in a quoted scalar")
  else if isBreak c then
    let (cursor, lineEnd) := cursor.lineBreak
    match quotedBreaks cursor.fuel cursor "" with
    | .ok (cursor, breaks) =>
      let folded :=
        if lineEnd ≠ "\n" then lineEnd ++ breaks
        else if breaks.isEmpty then " "
        else breaks
      .ok (cursor, folded)
    | .error problem => .error problem
  else .ok (cursor, whitespace)

/-- Read a quoted scalar's pieces until its closing quote. -/
def quotedPieces (double : Bool) (quote : Char) :
    Nat → Cursor → String → Except Problem (Cursor × String)
  | 0, cursor, text => .ok (cursor, text)
  | fuel + 1, cursor, text =>
    if cursor.current = quote && !cursor.rest.isEmpty then .ok (cursor.advance, text)
    else
      match quotedSpaces cursor with
      | .error problem => .error problem
      | .ok (cursor, spaces) =>
        match quotedText double cursor.fuel cursor "" with
        | .error problem => .error problem
        | .ok (cursor, more) => quotedPieces double quote fuel cursor (text ++ spaces ++ more)

/-- Read a single-quoted or double-quoted scalar, the cursor at its opening quote. -/
def readQuoted (cursor : Cursor) : Read :=
  let quote := cursor.current
  let double := quote = '"'
  let cursor := cursor.advance
  match quotedText double cursor.fuel cursor "" with
  | .error problem => .error problem
  | .ok (cursor, text) =>
    match quotedPieces double quote cursor.fuel cursor text with
    | .error problem => .error problem
    | .ok (cursor, text) => .ok (.scalar text false, cursor)

/-! ## Block scalars -/

/-- How a block scalar treats its last line ends: `none` keeps one, `some true` keeps all,
`some false` keeps none. -/
abbrev Chomping := Option Bool

/-- The chomping sign after a block scalar's indicator. -/
def chompingOf (c : Char) : Option Bool :=
  if c = '+' then some true else if c = '-' then some false else none

/-- Read a block scalar's header: the chomping and indentation indicators in either order,
then spaces, an optional comment and the line end. -/
def blockHeader (cursor : Cursor) : Except Problem (Chomping × Option Nat × Cursor) :=
  let digit (c : Char) : Option Nat := if '0' ≤ c && c ≤ '9' then some (c.toNat - '0'.toNat) else none
  let zero := Problem.malformed "expected indentation indicator in the range 1-9, but found 0"
  let indicators : Except Problem (Chomping × Option Nat × Cursor) :=
    match chompingOf cursor.current with
    | some chomp =>
      let cursor := cursor.advance
      match digit cursor.current with
      | some 0 => .error zero
      | some n => .ok (some chomp, some n, cursor.advance)
      | none => .ok (some chomp, none, cursor)
    | none =>
      match digit cursor.current with
      | some 0 => .error zero
      | some n =>
        let cursor := cursor.advance
        match chompingOf cursor.current with
        | some chomp => .ok (some chomp, some n, cursor.advance)
        | none => .ok (none, some n, cursor)
      | none => .ok (none, none, cursor)
  match indicators with
  | .error problem => .error problem
  | .ok (chomping, increment, cursor) =>
    let c := cursor.current
    if !(c = ' ' || isBreakOrEnd c) then
      .error (.malformed "expected chomping or indentation indicators")
    else
      let cursor := cursor.skipWhile (· = ' ')
      let cursor := if cursor.current = '#' then cursor.skipToLineEnd else cursor
      if !isBreakOrEnd cursor.current then
        .error (.malformed "expected a comment or a line break after a block scalar header")
      else .ok (chomping, increment, cursor.lineBreak.1)

/-- Read the blank lines before a block scalar's first line when its indentation is not
given: line ends are kept, and the deepest column reached by spaces is returned. -/
def blockIndentation : Nat → Cursor → String → Nat → Cursor × String × Nat
  | 0, cursor, breaks, deepest => (cursor, breaks, deepest)
  | fuel + 1, cursor, breaks, deepest =>
    let c := cursor.current
    if c = ' ' then
      let cursor := cursor.advance
      blockIndentation fuel cursor breaks (max deepest cursor.column)
    else if isBreak c then
      let (cursor, lineEnd) := cursor.lineBreak
      blockIndentation fuel cursor (breaks ++ lineEnd) deepest
    else (cursor, breaks, deepest)

/-- Skip spaces up to column `indent`. -/
def skipIndent (indent : Nat) (cursor : Cursor) : Cursor :=
  let room := indent - cursor.column
  cursor.forward ((cursor.ahead room).takeWhile (· = ' ')).length

/-- Read the line ends of blank lines inside a block scalar, skipping indentation up to
column `indent` on each line. -/
def blockBreaks (indent : Nat) : Nat → Cursor → String → Cursor × String
  | 0, cursor, breaks => (cursor, breaks)
  | fuel + 1, cursor, breaks =>
    let cursor := skipIndent indent cursor
    if isBreak cursor.current then
      let (cursor, lineEnd) := cursor.lineBreak
      blockBreaks indent fuel cursor (breaks ++ lineEnd)
    else (cursor, breaks)

/-- The state of reading a block scalar's lines: the text so far, the line ends read since
the last line of text, and the line end of that line. -/
structure BlockLines where
  cursor : Cursor
  text : String
  breaks : String
  lineEnd : String

/-- Read the lines of a block scalar at column `indent`. -/
def blockLines (folded : Bool) (indent : Nat) : Nat → BlockLines → BlockLines
  | 0, state => state
  | fuel + 1, state =>
    let cursor := state.cursor
    if cursor.column ≠ indent || cursor.rest.isEmpty then state
    else
      let text := state.text ++ state.breaks
      let leadingNonSpace := !(cursor.current = ' ' || cursor.current = '\t')
      let length := cursor.spanOf fun c => !isBreakOrEnd c
      let text := text ++ String.ofList (cursor.ahead length)
      let (cursor, lineEnd) := (cursor.forward length).lineBreak
      let (cursor, breaks) := blockBreaks indent cursor.fuel cursor ""
      if cursor.column = indent && !cursor.rest.isEmpty then
        let joined :=
          if folded && lineEnd = "\n" && leadingNonSpace &&
              !(cursor.current = ' ' || cursor.current = '\t') then
            if breaks.isEmpty then text ++ " " else text
          else text ++ lineEnd
        blockLines folded indent fuel ⟨cursor, joined, breaks, lineEnd⟩
      else ⟨cursor, text, breaks, lineEnd⟩

/-- Read a literal (`|`) or folded (`>`) block scalar, the cursor at its indicator, inside a
block collection at column `blockIndent`. -/
def readBlock (blockIndent : Int) (cursor : Cursor) : Read :=
  let folded := cursor.current = '>'
  match blockHeader cursor.advance with
  | .error problem => .error problem
  | .ok (chomping, increment, cursor) =>
    let least : Nat := (max (blockIndent + 1) 1).toNat
    let (indent, cursor, breaks) := match increment with
      | none =>
        let (cursor, breaks, deepest) := blockIndentation cursor.fuel cursor "" 0
        (max least deepest, cursor, breaks)
      | some n =>
        let indent := least + n - 1
        let (cursor, breaks) := blockBreaks indent cursor.fuel cursor ""
        (indent, cursor, breaks)
    let state := blockLines folded indent cursor.fuel ⟨cursor, "", breaks, ""⟩
    let text := match chomping with
      | some false => state.text
      | some true => state.text ++ state.lineEnd ++ state.breaks
      | none => state.text ++ state.lineEnd
    .ok (.scalar text false, state.cursor)

/-! ## Anchors, aliases and tags -/

/-- Whether a character may follow an anchor or alias name. -/
def endsName (c : Char) : Bool :=
  isBlankOrEnd c || "?:,]\x7d%@".toList.contains c || c = '\x60'

/-- Read an anchor (`&name`) or an alias (`*name`), the cursor at its indicator. -/
def readNamed (cursor : Cursor) : Read :=
  let isAlias := cursor.current = '*'
  let cursor := cursor.advance
  let length := cursor.spanOf isWordChar
  let name := String.ofList (cursor.ahead length)
  let cursor := cursor.forward length
  if length = 0 || !endsName cursor.current then
    .error (.malformed "expected alphabetic or numeric character in an anchor or alias")
  else if isAlias then .ok (.alias name, cursor)
  else .ok (.anchor name, cursor)

/-- Read a tag handle: `!`, `!!` or `!word!`. -/
def readHandle (cursor : Cursor) : Except Problem (String × Cursor) :=
  if cursor.current ≠ '!' then .error (.malformed "expected '!' to start a tag handle")
  else if cursor.peek 1 = ' ' then .ok ("!", cursor.advance)
  else
    let length := (cursor.advance).spanOf isWordChar
    if cursor.peek (length + 1) ≠ '!' then .error (.malformed "expected '!' to end a tag handle")
    else .ok (String.ofList (cursor.ahead (length + 2)), cursor.forward (length + 2))

/-- Whether a character may appear in a tag's URI. -/
def isUriChar (c : Char) : Bool :=
  isWordChar c || "-;/?:@&=+$,_.!~*'()[]%".toList.contains c

/-- Read `%XX` escapes of a tag's URI, which must spell UTF-8. -/
def uriEscapes : Nat → Cursor → List UInt8 → Except Problem (String × Cursor)
  | 0, cursor, _ => .ok ("", cursor)
  | fuel + 1, cursor, bytes =>
    if cursor.current = '%' then
      let cursor := cursor.advance
      let digits := cursor.ahead 2
      if digits.length = 2 && digits.all isHexDigit then
        uriEscapes fuel (cursor.forward 2) (bytes ++ [(hexNumber digits).toUInt8])
      else .error (.malformed "expected URI escape sequence of 2 hexadecimal numbers")
    else
      match decodeStrict bytes with
      | .ok text => .ok (text, cursor)
      | .error _ => .error (.malformed "a URI escape is not UTF-8")

/-- Read the URI of a tag, with its escapes decoded; it may not be empty. -/
def tagUri : Nat → Cursor → String → Bool → Except Problem (String × Cursor)
  | 0, cursor, text, any => if any then .ok (text, cursor) else .error (.malformed "expected URI")
  | fuel + 1, cursor, text, any =>
    let length := cursor.spanOf fun c => isUriChar c && c ≠ '%'
    let text := text ++ String.ofList (cursor.ahead length)
    let cursor := cursor.forward length
    let any := any || length > 0
    if cursor.current = '%' then
      match uriEscapes cursor.fuel cursor [] with
      | .ok (decoded, cursor) => tagUri fuel cursor (text ++ decoded) true
      | .error problem => .error problem
    else if any then .ok (text, cursor)
    else .error (.malformed "expected URI")

/-- Whether a tag starting here is written with a handle: a `!` comes after the first
character before a space or line end. -/
def hasHandle : List Char → Bool
  | [] => false
  | c :: rest =>
    if c = '!' then true
    else if c = ' ' || isBreakOrEnd c then false
    else hasHandle rest

/-- Read a tag, the cursor at its `!`: verbatim `!<uri>`, the lone `!`, `!handle!suffix`
or `!suffix`. A space, line end or the end of the stream must follow it. -/
def readTag (cursor : Cursor) : Read :=
  let parts : Except Problem (Option String × String × Cursor) :=
    if cursor.peek 1 = '<' then
      match tagUri (cursor.forward 2).fuel (cursor.forward 2) "" false with
      | .error problem => .error problem
      | .ok (uri, cursor) =>
        if cursor.current ≠ '>' then .error (.malformed "expected '>' to end a verbatim tag")
        else .ok (none, uri, cursor.advance)
    else if isBlankOrEnd (cursor.peek 1) then .ok (none, "!", cursor.advance)
    else
      let handle : Except Problem (String × Cursor) :=
        if hasHandle (cursor.rest.drop 1) then readHandle cursor else .ok ("!", cursor.advance)
      match handle with
      | .error problem => .error problem
      | .ok (handle, cursor) =>
        match tagUri cursor.fuel cursor "" false with
        | .error problem => .error problem
        | .ok (suffix, cursor) => .ok (some handle, suffix, cursor)
  match parts with
  | .error problem => .error problem
  | .ok (handle, suffix, cursor) =>
    let c := cursor.current
    if c = ' ' || isBreakOrEnd c then .ok (.tag handle suffix, cursor)
    else .error (.malformed "expected a space after a tag")

/-! ## Directives -/

/-- The number a run of decimal digits writes. -/
def decimalNumber (digits : List Char) : Nat :=
  digits.foldl (fun acc c => acc * 10 + (c.toNat - '0'.toNat)) 0

/-- Read the decimal number of a `%YAML` directive. -/
def versionNumber (cursor : Cursor) : Except Problem (Nat × Cursor) :=
  let length := cursor.spanOf fun c => '0' ≤ c && c ≤ '9'
  if length = 0 then .error (.malformed "expected a digit in a YAML directive")
  else .ok (decimalNumber (cursor.ahead length), cursor.forward length)

/-- Read the parameters of a `%YAML` directive. -/
def versionValue (cursor : Cursor) : Except Problem (DirectiveValue × Cursor) :=
  match versionNumber (cursor.skipWhile (· = ' ')) with
  | .error problem => .error problem
  | .ok (major, cursor) =>
    if cursor.current ≠ '.' then .error (.malformed "expected a digit or '.' in a YAML directive")
    else
      match versionNumber cursor.advance with
      | .error problem => .error problem
      | .ok (minor, cursor) =>
        let c := cursor.current
        if c = ' ' || isBreakOrEnd c then .ok (.version major minor, cursor)
        else .error (.malformed "expected a digit or ' ' in a YAML directive")

/-- Read the parameters of a `%TAG` directive. -/
def tagHandleValue (cursor : Cursor) : Except Problem (DirectiveValue × Cursor) :=
  match readHandle (cursor.skipWhile (· = ' ')) with
  | .error problem => .error problem
  | .ok (handle, cursor) =>
    if cursor.current ≠ ' ' then .error (.malformed "expected ' ' after a tag handle")
    else
      let cursor := cursor.skipWhile (· = ' ')
      match tagUri cursor.fuel cursor "" false with
      | .error problem => .error problem
      | .ok (expansion, cursor) =>
        let c := cursor.current
        if c = ' ' || isBreakOrEnd c then .ok (.tagHandle handle expansion, cursor)
        else .error (.malformed "expected ' ' after a tag expansion")

/-- Read a directive, the cursor at its `%`, through the end of its line. -/
def readDirective (cursor : Cursor) : Read :=
  let cursor := cursor.advance
  let length := cursor.spanOf isWordChar
  let name := String.ofList (cursor.ahead length)
  let cursor := cursor.forward length
  let c := cursor.current
  if length = 0 || !(c = ' ' || isBreakOrEnd c) then
    .error (.malformed "expected alphabetic or numeric character in a directive name")
  else
    let value : Except Problem (DirectiveValue × Cursor) :=
      if name = "YAML" then versionValue cursor
      else if name = "TAG" then tagHandleValue cursor
      else .ok (.ignored, cursor.skipToLineEnd)
    match value with
    | .error problem => .error problem
    | .ok (value, cursor) =>
      let cursor := cursor.skipWhile (· = ' ')
      let cursor := if cursor.current = '#' then cursor.skipToLineEnd else cursor
      if !isBreakOrEnd cursor.current then
        .error (.malformed "expected a comment or a line break after a directive")
      else .ok (.directive name value, cursor.lineBreak.1)

end DocIndex.Yaml
