import DocIndex.Text.Identifier
import DocIndex.Text.Basic

/-!
# Python logical lines

The reader of Python sources first cuts the text into logical lines of tokens. A logical
line ends at a line feed outside brackets; a backslash before a line feed joins two lines.
Blank lines and lines holding only a comment carry no tokens and are dropped, and comments
are skipped. Each logical line keeps the width of its indentation: a space counts one
column, a tab eight, and a form feed or carriage return starts the count again. A carriage
return is no line end: elsewhere it is a blank like the other white space.

Names are runs of identifier characters (`Text.Identifier`); the reserved words of the
language are keywords and never names. Numbers start with an ASCII digit. A character
that starts no token (such as `$`, `?`, a superscript digit or a byte-order mark) is
skipped: it only separates the tokens around it.

A string literal has any run of the prefix letters `r`, `b`, `u` and `f` (in either case)
before its quotes. The replacement fields of an f-string (`{...}`, not `{{`) are read as
code: brackets nest there, string literals of any quote nest there, and line feeds are
allowed. A literal that is not closed (by the end of the text, or by a line feed in a
literal of one quote) is a *stray* token: its opening quotes and the pieces of its text
that were complete when it failed (`strayRest`), and what follows is read as code.

Reading is forgiving in five ways:

* a `def` or `class` (or `async def`) that comes after other tokens of a line, outside
  brackets, cannot go on with them: the line ends before it, and the line it starts is
  *resumed*, continuing the block of the line before whatever its indentation;
* in the parameter list of a `def` or the base list of a `class`, a `:` (or a `->` after
  `def`) where a parameter should start closes the list, as if its `)` were written there;
* a closing bracket that matches not the innermost open bracket but the one around it
  closes both, the innermost with a closing bracket of no width;
* the header of a `def` whose return annotation meets a line end before its colon goes on
  past the line end (no statement can end there), and once the colon comes, only the last
  operand before it is kept as the annotation;
* a text that ends inside brackets leaves its last line *truncated*.

Every token records where it starts and stops in the source, so the source text of any run
of tokens can be cut out exactly.
-/

namespace DocIndex.Python

open DocIndex.Text

/-- What a token is. -/
inductive TokenKind where
  | name
  | number
  | literal
  | stray
  | op
  deriving DecidableEq, Repr

/-- A token and where it lies in the source. -/
structure Token where
  kind : TokenKind
  start : Nat
  stop : Nat
  value : String
  deriving Repr

/-- A logical line: its indentation, its tokens, and how reading it went. -/
structure Line where
  indent : Nat
  tokens : List Token
  resumed : Bool := false
  truncated : Bool := false

/-- The reserved words: keywords that can never be names. -/
def reservedWords : List String :=
  ["False", "None", "True", "and", "as", "assert", "break", "class", "continue", "def", "del",
    "elif", "else", "except", "finally", "for", "from", "global", "if", "import", "in", "is",
    "lambda", "nonlocal", "not", "or", "pass", "raise", "return", "try", "while", "with",
    "yield"]

/-- Whether a character can start a name. -/
def isNameStart (c : Char) : Bool :=
  isIdentifierStart c

/-- Whether a character can continue a name. -/
def isNameChar (c : Char) : Bool :=
  isIdentifierContinue c

/-- Whether a character is a blank between tokens: white space, the byte-order mark, the
word joiner and the zero-width space. -/
def isSourceBlank (c : Char) : Bool :=
  isWhiteSpace c || c = '\uFEFF' || c = '\u2060' || c = '\u200B'

/-- Whether a character is an ASCII digit. -/
def isAsciiDigit (c : Char) : Bool :=
  '0' ≤ c && c ≤ '9'

/-- Whether a character starts an operator or delimiter. -/
def isOperatorChar (c : Char) : Bool :=
  "()[]\x7b\x7d:,;.+-*/%@&|^~<>=!".toList.contains c

/-- Whether letters can prefix a string literal. -/
def isStringPrefix (letters : List Char) : Bool :=
  !letters.isEmpty && letters.all fun c => "rRbBuUfF".toList.contains c

/-- Whether prefix letters make an f-string. -/
def hasFields (letters : List Char) : Bool :=
  letters.any fun c => c = 'f' || c = 'F'

mutual

/-- How many characters the rest of a string literal takes after its opening quotes, its
closing quotes included; none when it is not closed. `quote` is the quote character,
`triple` whether three of them open it and `fields` whether it has replacement fields. A
literal of one quote is not closed at a line feed, unless the line feed comes first in a
piece of its text: right after the opening quote, an escape or a replacement field, as
`fresh` says. `fuel` bounds the scan. -/
def stringRest (quote : Char) (triple fields : Bool) : Nat → Bool → List Char → Option Nat
  | 0, _, _ => none
  | _, _, [] => none
  | fuel + 1, fresh, c :: rest =>
    if c = '\\' then
      match rest with
      | _ :: more => (stringRest quote triple fields fuel true more).map (· + 2)
      | [] => none
    else if c = quote then
      if triple then
        match rest with
        | d :: e :: more =>
          if d = quote && e = quote then some 3
          else (stringRest quote triple fields fuel false (d :: e :: more)).map (· + 1)
        | more => (stringRest quote triple fields fuel false more).map (· + 1)
      else some 1
    else if c = '\n' && !triple && !fresh then none
    else if fields && c = '\x7b' then
      match rest with
      | '\x7b' :: more => (stringRest quote triple fields fuel true more).map (· + 2)
      | more =>
        match fieldRest fuel 0 more with
        | none => none
        | some inner =>
          (stringRest quote triple fields fuel true (more.drop inner)).map (· + 1 + inner)
    else (stringRest quote triple fields fuel false rest).map (· + 1)

/-- How many characters a replacement field takes after its opening brace, its closing
brace included; none when it is not closed. `depth` counts the brackets opened inside. -/
def fieldRest : Nat → Nat → List Char → Option Nat
  | 0, _, _ => none
  | _, _, [] => none
  | fuel + 1, depth, c :: rest =>
    if c = '\x7d' && depth = 0 then some 1
    else if c = '\x7b' || c = '(' || c = '[' then (fieldRest fuel (depth + 1) rest).map (· + 1)
    else if c = '\x7d' || c = ')' || c = ']' then (fieldRest fuel (depth - 1) rest).map (· + 1)
    else if c = '"' || c = '\'' then
      match literalRest false fuel (c :: rest) with
      | none => none
      | some inner => (fieldRest fuel depth ((c :: rest).drop inner)).map (· + inner)
    else if isNameStart c then
      let word := c :: rest.takeWhile isNameChar
      let after := (c :: rest).drop word.length
      match after with
      | q :: _ =>
        if (q = '"' || q = '\'') && isStringPrefix word then
          match literalRest (hasFields word) fuel after with
          | none => none
          | some inner =>
            (fieldRest fuel depth (after.drop inner)).map (· + word.length + inner)
        else (fieldRest fuel depth after).map (· + word.length)
      | [] => none
    else (fieldRest fuel depth rest).map (· + 1)

/-- How many characters a string literal takes from its opening quote; none when it is
not closed. -/
def literalRest (fields : Bool) : Nat → List Char → Option Nat
  | 0, _ => none
  | fuel + 1, chars =>
    match chars with
    | q :: a :: b :: rest =>
      if a = q && b = q then (stringRest q true fields fuel true rest).map (· + 3)
      else (stringRest q false fields fuel true (a :: b :: rest)).map (· + 1)
    | q :: rest => (stringRest q false fields fuel true rest).map (· + 1)
    | [] => none

end

/-- Whether a character is a hexadecimal digit. -/
def isHexChar (c : Char) : Bool :=
  isAsciiDigit c || ('a' ≤ c && c ≤ 'f') || ('A' ≤ c && c ≤ 'F')

/-- How many characters an escape takes after its backslash: `x`, `u` or `U` with two, four
or eight hexadecimal digits, `N` with a name in braces, one to three digits, a line end, or
one of the characters a backslash may escape; none when the backslash starts no escape. -/
def escapeLength (chars : List Char) : Nat :=
  let hex := fun (count : Nat) (more : List Char) =>
    if (more.take count).length = count && (more.take count).all isHexChar then count + 1
    else 0
  match chars with
  | 'x' :: more => hex 2 more
  | 'u' :: more => hex 4 more
  | 'U' :: more => hex 8 more
  | 'N' :: '\x7b' :: more =>
    let name := more.takeWhile fun c => c != '\x7d'
    if !name.isEmpty && name.length < more.length then name.length + 3 else 0
  | '\r' :: '\n' :: _ => 2
  | c :: _ =>
    if isAsciiDigit c then min 3 (chars.takeWhile isAsciiDigit).length
    else if "\n'\"abfrntv\\".toList.contains c then 1
    else 0
  | [] => 0

/-- How much of the text of a string literal that is not closed still belongs to it, after
its opening quotes. The text is read in pieces, and it keeps the pieces that ended before
the literal failed: a piece ends before and after an escape (a raw literal has none),
after one or two quotes that do not close a triple-quoted literal, and before a
replacement field or a doubled brace, the field or the doubled brace making a piece of its
own. The piece being read when a literal of one quote meets a line feed, or any literal
the end of the text, is not kept, and what it holds is read as code. `taken` counts the
characters passed, `kept` those kept, and `fresh` whether a piece has just begun. -/
def strayRest (quote : Char) (triple raw fields : Bool) :
    Nat → Nat → Nat → Bool → List Char → Nat
  | 0, _, kept, _, _ => kept
  | _, _, kept, _, [] => kept
  | fuel + 1, taken, kept, fresh, c :: rest =>
    if c = '\\' then
      if raw then
        let (escaped, more) := match rest with
          | d :: more => if d = quote || d = '\\' then (1, more) else (0, rest)
          | [] => (0, rest)
        let (lineEnd, more) := match more with
          | '\r' :: '\n' :: after => (2, after)
          | '\n' :: after => (1, after)
          | '\r' :: after => (1, after)
          | after => (0, after)
        strayRest quote triple raw fields fuel (taken + 1 + escaped + lineEnd) kept false more
      else
        let length := escapeLength rest
        strayRest quote triple raw fields fuel (taken + 1 + length) (taken + 1 + length) true
          (rest.drop length)
    else if c = quote then
      if triple then
        match rest with
        | d :: more =>
          if d = quote then
            if more.head? = some quote then kept
            else strayRest quote triple raw fields fuel (taken + 2) (taken + 2) true more
          else strayRest quote triple raw fields fuel (taken + 1) (taken + 1) true rest
        | [] => taken + 1
      else kept
    else if c = '\n' && !triple && !fresh then kept
    else if fields && (c = '\x7b' || c = '\x7d') then
      match rest with
      | d :: more =>
        if d = c then strayRest quote triple raw fields fuel (taken + 2) (taken + 2) true more
        else if c = '\x7d' then taken
        else
          match fieldRest fuel 0 rest with
          | some inner =>
            strayRest quote triple raw fields fuel (taken + 1 + inner) (taken + 1 + inner) true
              (rest.drop inner)
          | none => taken
      | [] => taken
    else strayRest quote triple raw fields fuel (taken + 1) kept false rest

/-- How many characters the opening quotes at the front of characters take: three for a
triple quote, one otherwise. -/
def openingQuotes : List Char → Nat
  | q :: a :: b :: _ => if a = q && b = q then 3 else 1
  | _ => 1

/-- Operators of three characters. -/
def longOps : List String := ["**=", "//=", ">>=", "<<=", "..."]

/-- Operators of two characters. -/
def pairOps : List String :=
  ["->", ":=", "**", "//", "==", "!=", "<=", ">=", "<<", ">>", "+=", "-=", "*=", "/=", "%=",
    "&=", "|=", "^=", "@=", "<>"]

/-- How many characters the operator at the front takes. -/
def opLength (chars : List Char) : Nat :=
  if longOps.contains (String.ofList (chars.take 3)) then 3
  else if pairOps.contains (String.ofList (chars.take 2)) then 2
  else 1

/-- Whether a character continues a number: ASCII letters and digits, the underscore and
the point. -/
def isNumberChar (c : Char) : Bool :=
  isAsciiDigit c || ('a' ≤ c && c ≤ 'z') || ('A' ≤ c && c ≤ 'Z') || c = '_' || c = '.'

/-- How many characters a number takes: number characters, and a sign right after an
exponent letter. -/
def numberLength : List Char → Nat
  | [] => 0
  | 'e' :: '+' :: more => 2 + numberLength more
  | 'e' :: '-' :: more => 2 + numberLength more
  | 'E' :: '+' :: more => 2 + numberLength more
  | 'E' :: '-' :: more => 2 + numberLength more
  | c :: rest => if isNumberChar c then 1 + numberLength rest else 0

/-- The indentation at the front of a line, counted from `width`: its width and how many
characters it takes. A form feed or a carriage return starts the count again. -/
def indentation (width : Nat) : List Char → Nat × Nat
  | ' ' :: rest => let (total, used) := indentation (width + 1) rest; (total, used + 1)
  | '\t' :: rest => let (total, used) := indentation (width + 8) rest; (total, used + 1)
  | '\x0c' :: rest => let (total, used) := indentation 0 rest; (total, used + 1)
  | '\r' :: rest => let (total, used) := indentation 0 rest; (total, used + 1)
  | _ => (width, 0)

/-- How many characters lie before the next line feed. -/
def toLineEnd (chars : List Char) : Nat :=
  (chars.takeWhile fun c => c != '\n').length

/-- Whether a token is an operator or delimiter with the given text. -/
def Token.isOpText (token : Token) (text : String) : Bool :=
  token.kind = .op && token.value == text

/-- Whether a token is the given name or keyword. -/
def Token.isName (token : Token) (text : String) : Bool :=
  token.kind = .name && token.value == text

/-- The definition keyword that tokens, first first, begin with: `def` (also after
`async`) or `class`. -/
def definitionKeyword : List Token → Option String
  | first :: second :: _ =>
    if first.isName "def" || first.isName "class" then some first.value
    else if first.isName "async" && second.isName "def" then some "def"
    else none
  | [first] => if first.isName "def" || first.isName "class" then some first.value else none
  | [] => none

/-- The word at the front of characters, after blanks. -/
def nextWord (chars : List Char) : String :=
  String.ofList ((chars.dropWhile fun c => c = ' ' || c = '\t').takeWhile isNameChar)

/-- The state of the cut into logical lines. -/
structure LexState where
  position : Nat
  brackets : List String
  lineStart : Bool
  indent : Nat
  current : List Token
  lines : List Line
  resumed : Bool := false
  continued : Bool := false

/-- How many brackets are open. -/
def LexState.depth (state : LexState) : Nat :=
  state.brackets.length

/-- The closing bracket of an opening one. -/
def closerOf (opener : String) : String :=
  if opener == "(" then ")" else if opener == "[" then "]" else "\x7d"

/-- The brackets still open after a closing bracket: it closes the innermost bracket when
it matches it, and is passed over otherwise. -/
def bracketsAfter (closer : String) : List String → List String
  | [] => []
  | inner :: rest => if closerOf inner == closer then rest else inner :: rest

/-- The logical lines finished, with the one being read closed. -/
def LexState.close (state : LexState) : List Line :=
  if state.current.isEmpty then state.lines
  else { indent := state.indent, tokens := state.current.reverse, resumed := state.resumed } ::
    state.lines

/-- The logical lines at the end of the text: a last line left inside brackets is
truncated. -/
def LexState.finish (state : LexState) : List Line :=
  if state.current.isEmpty then state.lines
  else { indent := state.indent, tokens := state.current.reverse, resumed := state.resumed,
         truncated := 0 < state.depth } :: state.lines

/-- Move past characters. -/
def LexState.skip (state : LexState) (count : Nat) : LexState :=
  { state with position := state.position + count }

/-- Start reading a logical line after `used` characters of indentation of the given
width. -/
def LexState.begin (state : LexState) (used width : Nat) : LexState :=
  { state with position := state.position + used, lineStart := false, indent := width }

/-- End the logical line at a line feed. -/
def LexState.finishLine (state : LexState) : LexState :=
  { state with position := state.position + 1, lineStart := true, current := [],
               lines := state.close, resumed := false, continued := false }

/-- End the logical line here, before a definition, and start a resumed line. -/
def LexState.cut (state : LexState) : LexState :=
  { state with current := [], lines := state.close, resumed := true }

/-- Add a token of the given kind spanning `count` characters. -/
def LexState.push (state : LexState) (source : Array Char) (kind : TokenKind) (count : Nat) :
    LexState :=
  let stop := state.position + count
  let token : Token :=
    ⟨kind, state.position, stop, String.ofList (source.extract state.position stop).toList⟩
  let brackets :=
    if kind = .op && (token.value = "(" || token.value = "[" || token.value = "\x7b") then
      token.value :: state.brackets
    else if kind = .op && (token.value = ")" || token.value = "]" || token.value = "\x7d") then
      bracketsAfter token.value state.brackets
    else state.brackets
  { state with position := stop, current := token :: state.current, brackets }

/-- Close the innermost open bracket with a closing bracket of no width, written right after
the last token read. -/
def LexState.closeHere (state : LexState) : LexState :=
  let place := (state.current.head?.map Token.stop).getD state.position
  let token : Token := ⟨.op, place, place, closerOf ((state.brackets.head?).getD "(")⟩
  { state with current := token :: state.current, brackets := state.brackets.drop 1 }

/-- Whether a name about to be read starts a definition that cuts the line short: `def`,
`class` or `async def`, outside brackets and after other tokens (a `def` right after
`async` belongs to it). `after` is the text after the name. -/
def LexState.cutsBefore (state : LexState) (word : String) (after : List Char) : Bool :=
  state.depth = 0 && !state.current.isEmpty && !state.continued &&
    ((word == "def" && !(state.current.head?.map fun t => t.isName "async").getD false) ||
      word == "class" || (word == "async" && nextWord after == "def"))

/-- Whether tokens given last first end in a return annotation that has not met its colon:
a `->` comes before any `:` outside brackets. `depth` counts the brackets closed after the
token reached. -/
def annotationOpen (depth : Nat) : List Token → Bool
  | [] => false
  | token :: rest =>
    if token.isOpText ")" || token.isOpText "]" || token.isOpText "\x7d" then
      annotationOpen (depth + 1) rest
    else if token.isOpText "(" || token.isOpText "[" || token.isOpText "\x7b" then
      annotationOpen (depth - 1) rest
    else if depth = 0 && token.isOpText ":" then false
    else if depth = 0 && token.isOpText "->" then true
    else annotationOpen depth rest

/-- Whether the logical line being read is a `def` header whose return annotation has not
met its colon. No statement can end there, so a line end outside brackets does not end the
line. -/
def LexState.awaitsColon (state : LexState) : Bool :=
  definitionKeyword state.current.reverse = some "def" && annotationOpen 0 state.current

/-- How many tokens, given last first, a closing bracket at their front closes: the
tokens up to its opening bracket, both included; none when it is not opened. `depth`
counts the brackets still to close and `count` the tokens passed. -/
def groupLength (depth count : Nat) : List Token → Nat
  | [] => 0
  | token :: rest =>
    if token.isOpText ")" || token.isOpText "]" || token.isOpText "\x7d" then
      groupLength (depth + 1) (count + 1) rest
    else if token.isOpText "(" || token.isOpText "[" || token.isOpText "\x7b" then
      if depth ≤ 1 then count + 1 else groupLength (depth - 1) (count + 1) rest
    else groupLength depth (count + 1) rest

/-- How many tokens, given last first, make the last operand: a name, number or literal
with the attribute names, calls and subscripts after it, or a bracketed group alone.
`fuel` bounds the steps. -/
def operandLength : Nat → List Token → Nat
  | 0, _ => 0
  | _ + 1, [] => 0
  | fuel + 1, token :: rest =>
    if token.isOpText ")" || token.isOpText "]" then
      let group := groupLength 0 0 (token :: rest)
      if group = 0 then 0
      else group + operandLength fuel (rest.drop (group - 1))
    else if token.kind = .name || token.kind = .number || token.kind = .literal then
      match rest with
      | dot :: more =>
        if dot.isOpText "." then
          let before := operandLength fuel more
          if before = 0 then 1 else 2 + before
        else 1
      | [] => 1
    else 0

/-- Keep, of a return annotation that went on past a line end, only its last operand: what
stands between the `->` and it cannot belong to the header and is passed over. -/
def LexState.keepLastOperand (state : LexState) : LexState :=
  let operand := operandLength (state.current.length + 1) state.current
  let kept := state.current.take operand
  let before := state.current.drop operand
  let throughArrow := before.dropWhile fun token => !token.isOpText "->"
  if operand = 0 || throughArrow.isEmpty then state
  else { state with current := kept ++ throughArrow }

/-- Whether an operator about to be read closes the parameter list of a `def` or the base
list of a `class`: a `:` (or a `->` after `def`) right after the list's `(` or a comma. -/
def LexState.endsHeaderList (state : LexState) (operator : String) : Bool :=
  state.brackets = ["("] &&
    (state.current.head?.map fun t => t.isOpText "(" || t.isOpText ",").getD false &&
    match definitionKeyword state.current.reverse with
    | some "def" => operator == ":" || operator == "->"
    | some "class" => operator == ":"
    | _ => false

/-- Whether a closing bracket about to be read misses the closing bracket of the innermost
open one: it does not match that one but matches the one around it, so the innermost is
taken as closed before it. -/
def LexState.missesCloser (state : LexState) (operator : String) : Bool :=
  match state.brackets with
  | inner :: outer :: _ => closerOf inner != operator && closerOf outer == operator
  | _ => false

/-- Read a string literal whose prefix letters take `lead` characters at the front of
`chars`: the whole literal, or only its opening quotes when it is not closed. -/
def LexState.literal (state : LexState) (source : Array Char) (fields : Bool) (lead : Nat)
    (chars : List Char) : LexState × List Char :=
  let body := chars.drop lead
  match literalRest fields (body.length + 1) body with
  | some count => (state.push source .literal (lead + count), body.drop count)
  | none =>
    let quotes := openingQuotes body
    let raw := (chars.take lead).any fun c => c = 'r' || c = 'R'
    let kept := match body with
      | quote :: _ =>
        strayRest quote (quotes = 3) raw fields (body.length + 1) 0 0 true (body.drop quotes)
      | [] => 0
    (state.push source .stray (lead + quotes + kept), body.drop (quotes + kept))

/-- Cut characters into logical lines; `fuel` bounds the steps. -/
def lexFrom (source : Array Char) : Nat → LexState → List Char → List Line
  | 0, state, _ => state.finish
  | _, state, [] => state.finish
  | fuel + 1, state, c :: rest =>
    let chars := c :: rest
    if state.lineStart then
      let (width, used) := indentation 0 chars
      let after := chars.drop used
      match after with
      | [] => state.finish
      | '#' :: _ =>
        let skipped := used + toLineEnd after
        lexFrom source fuel (state.skip skipped) (chars.drop skipped)
      | '\n' :: more => lexFrom source fuel (state.skip (used + 1)) more
      | _ => lexFrom source fuel (state.begin used width) after
    else if c = '\n' then
      if 0 < state.depth then lexFrom source fuel (state.skip 1) rest
      else if state.awaitsColon then
        lexFrom source fuel { state.skip 1 with continued := true } rest
      else lexFrom source fuel state.finishLine rest
    else if isSourceBlank c then lexFrom source fuel (state.skip 1) rest
    else if c = '\\' then
      match rest with
      | '\n' :: more => lexFrom source fuel (state.skip 2) more
      | '\r' :: '\n' :: more => lexFrom source fuel (state.skip 3) more
      | _ => lexFrom source fuel (state.skip 1) rest
    else if c = '#' then
      let skipped := toLineEnd chars
      lexFrom source fuel (state.skip skipped) (chars.drop skipped)
    else if c = '"' || c = '\'' then
      let (next, after) := state.literal source false 0 chars
      lexFrom source fuel next after
    else if isNameStart c then
      let word := c :: rest.takeWhile isNameChar
      let after := chars.drop word.length
      match after with
      | q :: _ =>
        if (q = '"' || q = '\'') && isStringPrefix word then
          let (next, remaining) := state.literal source (hasFields word) word.length chars
          lexFrom source fuel next remaining
        else
          let state := if state.cutsBefore (String.ofList word) after then state.cut else state
          lexFrom source fuel (state.push source .name word.length) after
      | [] => lexFrom source fuel (state.push source .name word.length) after
    else if isAsciiDigit c || (c = '.' && (rest.head?.map isAsciiDigit).getD false) then
      let count := max 1 (numberLength chars)
      lexFrom source fuel (state.push source .number count) (chars.drop count)
    else if isOperatorChar c then
      let count := opLength chars
      let operator := String.ofList (chars.take count)
      let state := if state.endsHeaderList operator then state.closeHere else state
      let state := if state.missesCloser operator then state.closeHere else state
      let state :=
        if operator == ":" && state.depth = 0 && state.continued then
          { state.keepLastOperand with continued := false }
        else state
      lexFrom source fuel (state.push source .op count) (chars.drop count)
    else lexFrom source fuel (state.skip 1) rest

/-- The logical lines of a Python source text. -/
def logicalLines (text : String) : List Line :=
  let chars := text.toList
  (lexFrom chars.toArray (2 * chars.length + 2) ⟨0, [], true, 0, [], [], false, false⟩ chars).reverse

end DocIndex.Python
