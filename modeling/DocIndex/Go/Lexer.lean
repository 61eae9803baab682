import DocIndex.Text.Identifier
import DocIndex.Text.Basic

/-!
# Go tokens

A Go source text cut into tokens: names, numbers, string and rune literals, comments,
operators and line ends. Every token records where it starts and stops and the line (from
zero) it starts and ends on; a line end is a token because it can end a declaration. Line
comments run to the line feed; block comments and raw strings may span lines.

Names are runs of identifier characters (`Text.Identifier`), numbers start with an ASCII
digit, and white space other than the line feed separates tokens. A character that starts
no token is skipped, and a rune literal left open on its line ends the tokens.
-/

namespace DocIndex.Go

open DocIndex.Text

/-- What a Go token is. -/
inductive TokenKind where
  | name
  | number
  | literal
  | comment
  | op
  | lineEnd
  deriving DecidableEq, Repr

/-- A Go token and where it lies in the source. -/
structure Token where
  kind : TokenKind
  start : Nat
  stop : Nat
  row : Nat
  endRow : Nat
  value : String
  deriving Repr

/-- How many characters a quoted literal takes after its opening quote: it ends at the
quote, an escape takes two characters, and an unescaped line feed ends it early. -/
def quotedRest (quote : Char) : List Char → Nat
  | [] => 0
  | '\\' :: c :: rest => if c = '\n' then 1 else 2 + quotedRest quote rest
  | c :: rest => if c = quote then 1 else if c = '\n' then 0 else 1 + quotedRest quote rest

/-- How many characters a block comment takes after its opening `/*`. -/
def blockCommentRest : List Char → Nat
  | [] => 0
  | '*' :: '/' :: _ => 2
  | _ :: rest => 1 + blockCommentRest rest

/-- Operators of three characters. -/
def longOps : List String := ["...", "<<=", ">>=", "&^="]

/-- Operators of two characters. -/
def pairOps : List String :=
  ["<-", ":=", "==", "!=", "<=", ">=", "&&", "||", "++", "--", "<<", ">>", "&^", "+=", "-=",
    "*=", "/=", "%=", "&=", "|=", "^="]

/-- How many characters the operator at the front takes. -/
def opLength (chars : List Char) : Nat :=
  if longOps.contains (String.ofList (chars.take 3)) then 3
  else if pairOps.contains (String.ofList (chars.take 2)) then 2
  else 1

/-- Whether a character is an ASCII digit. -/
def isAsciiDigit (c : Char) : Bool :=
  '0' ≤ c && c ≤ '9'

/-- Whether a character continues a number: ASCII letters and digits, the underscore and
the point. -/
def isNumberChar (c : Char) : Bool :=
  isAsciiDigit c || ('a' ≤ c && c ≤ 'z') || ('A' ≤ c && c ≤ 'Z') || c = '_' || c = '.'

/-- How many characters a number takes. -/
def numberLength : List Char → Nat
  | [] => 0
  | 'e' :: '+' :: more => 2 + numberLength more
  | 'e' :: '-' :: more => 2 + numberLength more
  | 'E' :: '+' :: more => 2 + numberLength more
  | 'E' :: '-' :: more => 2 + numberLength more
  | 'p' :: '+' :: more => 2 + numberLength more
  | 'p' :: '-' :: more => 2 + numberLength more
  | 'P' :: '+' :: more => 2 + numberLength more
  | 'P' :: '-' :: more => 2 + numberLength more
  | c :: rest => if isNumberChar c then 1 + numberLength rest else 0

/-- Whether a character starts an operator or delimiter. -/
def isOperatorChar (c : Char) : Bool :=
  "+-*/%&|^<>=!()[]\x7b\x7d,;.:~".toList.contains c

/-- Whether a rune literal whose opening quote stands before `rest` is closed on its
line: the last character it takes is its closing quote. -/
def runeClosed (rest : List Char) : Bool :=
  let count := quotedRest '\'' rest
  0 < count && rest[count - 1]? = some '\''

/-- How many line feeds some characters hold. -/
def lineFeeds (chars : List Char) : Nat :=
  chars.count '\n'

/-- Cut characters into tokens from `position` on line `row`; `fuel` bounds the steps. A
character that starts no token (such as `$`, a superscript digit or a byte-order mark) is
skipped, and a rune literal left open on its line ends the tokens: nothing after it is
read. -/
def tokensFrom : Nat → Nat → Nat → List Char → List Token
  | 0, _, _, _ => []
  | _, _, _, [] => []
  | fuel + 1, position, row, c :: rest =>
    let chars := c :: rest
    let emit := fun (kind : TokenKind) (count : Nat) =>
      let piece := chars.take count
      let endRow := row + lineFeeds piece
      Token.mk kind position (position + count) row endRow (String.ofList piece) ::
        tokensFrom fuel (position + count) endRow (chars.drop count)
    if c = '\n' then emit .lineEnd 1
    else if isWhiteSpace c then tokensFrom fuel (position + 1) row rest
    else if c = '/' && rest.head? = some '/' then
      emit .comment (chars.takeWhile (· != '\n')).length
    else if c = '/' && rest.head? = some '*' then
      emit .comment (2 + blockCommentRest (rest.drop 1))
    else if c = '\'' then
      if runeClosed rest then emit .literal (1 + quotedRest c rest) else []
    else if c = '"' then emit .literal (1 + quotedRest c rest)
    else if c = '\x60' then emit .literal (1 + ((rest.takeWhile (· != '\x60')).length +
      (if rest.contains '\x60' then 1 else 0)))
    else if isIdentifierStart c then emit .name (chars.takeWhile isIdentifierContinue).length
    else if isAsciiDigit c || (c = '.' && (rest.head?.map isAsciiDigit).getD false) then
      emit .number (max 1 (numberLength chars))
    else if isOperatorChar c then emit .op (opLength chars)
    else tokensFrom fuel (position + 1) row rest

/-- The tokens of a Go source text. -/
def tokenize (text : String) : List Token :=
  let chars := text.toList
  tokensFrom (chars.length + 1) 0 0 chars

end DocIndex.Go
