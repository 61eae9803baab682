import DocIndex.Yaml.Token.Read

/-!
# Cutting a YAML stream into tokens

`tokenize` reads a whole YAML stream into its tokens, or says why it cannot. Beside the
cursor, the tokenizer keeps the indentation of the open block collections, the depth of
open flow collections, and the candidates for simple keys.

Block structure is read off the columns: a key or an entry at a deeper column than the
innermost open block collection opens a new one (a `blockMappingStart` or
`blockSequenceStart`), and a token at a shallower column closes the collections deeper
than it (a `blockEnd` each).

A simple key is a key written without `?`: a scalar, alias, anchor, tag or flow
collection that turns out to be followed by `:` on the same line, within 1024
characters. The tokenizer cannot know this when it reads the key, so it records where the
key began (a `Candidate`) and puts the `key` token, and the start of a block mapping if
one opens there, in front of it once the `:` arrives. A candidate at the column of the
enclosing block mapping is required: it must be a key, and the stream is malformed if its
line ends without the `:`.
-/

namespace DocIndex.Yaml

/-- A place where a simple key may have started. -/
structure Candidate where
  level : Nat
  position : Nat
  required : Bool
  index : Nat
  line : Nat
  column : Nat

/-- The state of cutting a stream into tokens. -/
structure Tokenizer where
  cursor : Cursor
  tokens : Array Token
  flowLevel : Nat
  indent : Int
  indents : List Int
  allowSimpleKey : Bool
  candidates : List Candidate
  finished : Bool

namespace Tokenizer

/-- The tokenizer at the start of a text. -/
def init (text : String) : Tokenizer :=
  ⟨Cursor.start text, #[], 0, -1, [], true, [], false⟩

/-- Whether reading is inside a flow collection. -/
def inFlow (t : Tokenizer) : Bool :=
  t.flowLevel ≠ 0

/-- Close the block collections deeper than `column`, each with a `blockEnd`. -/
def closeBlocks (column : Int) : Int → List Int → Array Token → Int × List Int × Array Token
  | indent, outer :: rest, tokens =>
    if indent > column then closeBlocks column outer rest (tokens.push .blockEnd)
    else (indent, outer :: rest, tokens)
  | indent, [], tokens => (indent, [], tokens)

/-- Close the block collections deeper than `column`; nothing closes inside a flow
collection. -/
def unwind (t : Tokenizer) (column : Int) : Tokenizer :=
  if t.inFlow then t
  else
    let (indent, indents, tokens) := closeBlocks column t.indent t.indents t.tokens
    { t with indent := indent, indents := indents, tokens := tokens }

/-- Open a block collection at `column` if it is deeper than the innermost one; says
whether one was opened. -/
def addIndent (t : Tokenizer) (column : Nat) : Tokenizer × Bool :=
  if t.indent < column then ({ t with indent := column, indents := t.indent :: t.indents }, true)
  else (t, false)

/-- Append a token. -/
def push (t : Tokenizer) (token : Token) : Tokenizer :=
  { t with tokens := t.tokens.push token }

/-- The error of a required simple key whose `:` did not come. -/
def missingColon : Problem :=
  .malformed "could not find expected ':' after a simple key"

/-- Drop the candidates that can no longer be keys: those on an earlier line or more than
1024 characters back. -/
def dropStale (t : Tokenizer) : Except Problem Tokenizer :=
  let stale (candidate : Candidate) : Bool :=
    candidate.line ≠ t.cursor.line || t.cursor.index - candidate.index > 1024
  if t.candidates.any fun candidate => stale candidate && candidate.required then
    .error missingColon
  else .ok { t with candidates := t.candidates.filter fun candidate => !stale candidate }

/-- The candidate at the current flow depth. -/
def candidateHere (t : Tokenizer) : Option Candidate :=
  t.candidates.find? fun candidate => candidate.level = t.flowLevel

/-- Drop the candidate at the current flow depth; a required one cannot be dropped. -/
def dropCandidate (t : Tokenizer) : Except Problem Tokenizer :=
  match t.candidateHere with
  | some candidate =>
    if candidate.required then .error missingColon
    else .ok { t with candidates := t.candidates.filter fun other => other.level ≠ t.flowLevel }
  | none => .ok t

/-- Record that a simple key may start at the next token, when one is allowed there. -/
def saveCandidate (t : Tokenizer) : Except Problem Tokenizer :=
  if t.allowSimpleKey then
    match t.dropCandidate with
    | .error problem => .error problem
    | .ok t =>
      let candidate : Candidate :=
        { level := t.flowLevel
          position := t.tokens.size
          required := !t.inFlow && t.indent = t.cursor.column
          index := t.cursor.index
          line := t.cursor.line
          column := t.cursor.column }
      .ok { t with candidates := candidate :: t.candidates }
  else .ok t

/-- Skip spaces, comments and line ends up to the next token; a line end in block context
allows a simple key again. -/
def skipGaps : Nat → Tokenizer → Tokenizer
  | 0, t => t
  | fuel + 1, t =>
    let cursor := t.cursor.skipWhile (· = ' ')
    let cursor := if cursor.current = '#' then cursor.skipToLineEnd else cursor
    let (after, lineEnd) := cursor.lineBreak
    if lineEnd.isEmpty then { t with cursor := cursor }
    else
      let allow := if t.inFlow then t.allowSimpleKey else true
      skipGaps fuel { t with cursor := after, allowSimpleKey := allow }

/-- Skip a byte order mark at the very start, then the gaps before the next token. -/
def skipToToken (t : Tokenizer) : Tokenizer :=
  let t := if t.cursor.index = 0 && t.cursor.current = '\uFEFF' then
      { t with cursor := t.cursor.advance }
    else t
  skipGaps t.cursor.fuel t

/-- Read a one-character indicator token. -/
def single (t : Tokenizer) (token : Token) : Tokenizer :=
  { t with cursor := t.cursor.advance, tokens := t.tokens.push token }

/-- The end of the stream: close every block collection. -/
def streamEnd (t : Tokenizer) : Except Problem Tokenizer := do
  let t ← (t.unwind (-1)).dropCandidate
  .ok { t with allowSimpleKey := false, candidates := [], finished := true,
               tokens := t.tokens.push .streamEnd }

/-- A directive line. -/
def directive (t : Tokenizer) : Except Problem Tokenizer := do
  let t ← (t.unwind (-1)).dropCandidate
  let (token, cursor) ← readDirective t.cursor
  .ok { t with allowSimpleKey := false, cursor := cursor, tokens := t.tokens.push token }

/-- A document marker, `---` or `...`. -/
def documentMarker (t : Tokenizer) (token : Token) : Except Problem Tokenizer := do
  let t ← (t.unwind (-1)).dropCandidate
  .ok { t with allowSimpleKey := false, cursor := t.cursor.forward 3,
               tokens := t.tokens.push token }

/-- `[` or `{`: it may start a simple key, and opens a flow collection. -/
def flowStart (t : Tokenizer) (token : Token) : Except Problem Tokenizer := do
  let t ← t.saveCandidate
  .ok ({ t with flowLevel := t.flowLevel + 1, allowSimpleKey := true }.single token)

/-- `]` or `}`: closes a flow collection; one that closes nothing is malformed. -/
def flowEnd (t : Tokenizer) (token : Token) : Except Problem Tokenizer := do
  let t ← t.dropCandidate
  if t.flowLevel = 0 then .error (.malformed "found a closing bracket that closes nothing")
  else .ok ({ t with flowLevel := t.flowLevel - 1, allowSimpleKey := false }.single token)

/-- `,` between flow entries. -/
def flowEntry (t : Tokenizer) : Except Problem Tokenizer := do
  let t ← { t with allowSimpleKey := true }.dropCandidate
  .ok (t.single .flowEntry)

/-- `-` before a block sequence entry; it opens a block sequence at a deeper column. -/
def blockEntry (t : Tokenizer) : Except Problem Tokenizer := do
  let t ← if t.inFlow then .ok t
    else if !t.allowSimpleKey then .error (.malformed "sequence entries are not allowed here")
    else
      let (t, opened) := t.addIndent t.cursor.column
      .ok (if opened then t.push .blockSequenceStart else t)
  let t ← { t with allowSimpleKey := true }.dropCandidate
  .ok (t.single .blockEntry)

/-- `?` before an explicit key; it opens a block mapping at a deeper column. -/
def explicitKey (t : Tokenizer) : Except Problem Tokenizer := do
  let t ← if t.inFlow then .ok t
    else if !t.allowSimpleKey then .error (.malformed "mapping keys are not allowed here")
    else
      let (t, opened) := t.addIndent t.cursor.column
      .ok (if opened then t.push .blockMappingStart else t)
  let t ← { t with allowSimpleKey := !t.inFlow }.dropCandidate
  .ok (t.single .key)

/-- Insert a token before the token numbered `position`. -/
def insertAt (t : Tokenizer) (position : Nat) (token : Token) : Tokenizer :=
  { t with tokens := t.tokens.insertIdxIfInBounds position token }

/-- `:` after a key. When a candidate waits at this depth, it becomes the key: a `key`
token goes in front of it, and a block mapping opens at its column if that is deeper.
Otherwise the key was explicit or empty. -/
def valueIndicator (t : Tokenizer) : Except Problem Tokenizer := do
  let t ← match t.candidateHere with
    | some candidate =>
      let t := { t with candidates := t.candidates.filter fun other => other.level ≠ t.flowLevel }
      let t := t.insertAt candidate.position .key
      let t := if t.inFlow then t
        else
          let (t, opened) := t.addIndent candidate.column
          if opened then t.insertAt candidate.position .blockMappingStart else t
      .ok { t with allowSimpleKey := false }
    | none =>
      if !t.inFlow && !t.allowSimpleKey then .error (.malformed "mapping values are not allowed here")
      else
        let t := if t.inFlow then t
          else
            let (t, opened) := t.addIndent t.cursor.column
            if opened then t.push .blockMappingStart else t
        { t with allowSimpleKey := !t.inFlow }.dropCandidate
  .ok (t.single .value)

/-- A token that may start a simple key and is read by `read`. -/
def keyable (t : Tokenizer) (read : Cursor → Read) : Except Problem Tokenizer := do
  let t ← t.saveCandidate
  let (token, cursor) ← read t.cursor
  .ok { t with allowSimpleKey := false, cursor := cursor, tokens := t.tokens.push token }

/-- A literal or folded block scalar. -/
def blockScalar (t : Tokenizer) : Except Problem Tokenizer := do
  let t ← { t with allowSimpleKey := true }.dropCandidate
  let (token, cursor) ← readBlock t.indent t.cursor
  .ok { t with cursor := cursor, tokens := t.tokens.push token }

/-- A plain scalar. -/
def plain (t : Tokenizer) : Except Problem Tokenizer := do
  let t ← t.saveCandidate
  let (token, cursor, crossed) := readPlain t.inFlow t.indent t.cursor
  .ok { t with allowSimpleKey := crossed, cursor := cursor, tokens := t.tokens.push token }

/-- Whether a character cannot start a plain scalar on its own. -/
def isIndicator (c : Char) : Bool :=
  isBlankOrEnd c || "-?:,[]\x7b\x7d#&*!|>'\"%@".toList.contains c || c = '\x60'

/-- Whether a plain scalar starts here: at a character that is no indicator, or at `-`
(in block context also `?` or `:`) followed by a non-blank. -/
def startsPlain (t : Tokenizer) : Bool :=
  let c := t.cursor.current
  !isIndicator c ||
    (!isBlankOrEnd (t.cursor.peek 1) && (c = '-' || (!t.inFlow && (c = '?' || c = ':'))))

/-- Whether the cursor stands at the document marker `marker` in column 0. -/
def atMarker (t : Tokenizer) (marker : Char) : Bool :=
  t.cursor.column = 0 && t.cursor.ahead 3 = [marker, marker, marker] &&
    isBlankOrEnd (t.cursor.peek 3)

/-- Read the next token, with the block ends and key tokens it brings. -/
def step (t : Tokenizer) : Except Problem Tokenizer := do
  let t ← t.skipToToken.dropStale
  let t := t.unwind t.cursor.column
  let c := t.cursor.current
  let afterBlank := isBlankOrEnd (t.cursor.peek 1)
  if t.cursor.rest.isEmpty then t.streamEnd
  else if c = '%' && t.cursor.column = 0 then t.directive
  else if c = '-' && t.atMarker '-' then t.documentMarker .documentStart
  else if c = '.' && t.atMarker '.' then t.documentMarker .documentEnd
  else if c = '[' then t.flowStart .flowSequenceStart
  else if c = '\x7b' then t.flowStart .flowMappingStart
  else if c = ']' then t.flowEnd .flowSequenceEnd
  else if c = '\x7d' then t.flowEnd .flowMappingEnd
  else if c = ',' then t.flowEntry
  else if c = '-' && afterBlank then t.blockEntry
  else if c = '?' && (t.inFlow || afterBlank) then t.explicitKey
  else if c = ':' && (t.inFlow || afterBlank) then t.valueIndicator
  else if c = '*' || c = '&' then t.keyable readNamed
  else if c = '!' then t.keyable readTag
  else if (c = '|' || c = '>') && !t.inFlow then t.blockScalar
  else if c = '\'' || c = '"' then t.keyable readQuoted
  else if t.startsPlain then t.plain
  else .error (.malformed "found a character that cannot start any token")

/-- Read tokens until the end of the stream. -/
def run : Nat → Tokenizer → Except Problem (Array Token)
  | 0, _ => .error (.malformed "the stream did not end")
  | fuel + 1, t =>
    if t.finished then .ok t.tokens
    else
      match t.step with
      | .ok t => run fuel t
      | .error problem => .error problem

end Tokenizer

/-- The tokens of a YAML stream. Every step reads at least one character or ends the
stream, so the length of the text bounds the steps. -/
def tokenize (text : String) : Except Problem (List Token) :=
  if text.toList.all isStreamChar then
    (Tokenizer.run (text.length + 2) (Tokenizer.init text)).map Array.toList
  else .error (.malformed "the text holds a character that YAML does not allow")

end DocIndex.Yaml
