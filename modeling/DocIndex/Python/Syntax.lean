import DocIndex.Python.Lexer

/-!
# Python statement outline

The statements of a Python block as far as documentation needs them: function and class
definitions with the source text of their signatures and their bodies, definitions behind
decorators, expression statements (with the string literal that leads one, which is what a
docstring is), and every other statement. Reading is forgiving: a line that is not a
well-formed statement is just another statement, so the definitions around it are still
found.

Blocks follow indentation the way a block opener reads it: a header that ends with its
colon opens a block when the next line is indented deeper than the block the header stands
in, and that block lasts while lines are indented at least as deep as its first line. A
line indented deeper without such a header is just the next statement of the block it is
in; a line indented less closes blocks until one holds it. A header with simple statements
after its colon has those as its body. Simple statements on one line are separated by
semicolons outside brackets.

A definition's name is a name that is no reserved word; tokens between the name and the
parameter list (or a class's colon) that cannot stand there are passed over. A definition
header that lacks its closing colon, or whose name is missing, defines nothing and opens
no block. A resumed line continues the block of the line it was cut from. A line that the
end of the text leaves inside brackets is lost, though the blocks around it are not.
-/

namespace DocIndex.Python

/-- A statement of a block: a function definition (asynchronous or not, with its name, the
source text of its parameter list and return annotation, and its body), a class definition
(with its name, the source text of its base list and its body), a decorated definition, an
expression statement (with the source text of a leading lone string literal), or any other
statement. -/
inductive Statement where
  | function (isAsync : Bool) (name parameters returns : String) (body : List Statement)
  | classDef (name bases : String) (body : List Statement)
  | decorated (definition : Statement)
  | expression (leading : Option String)
  | other
  deriving Repr

/-- Whether a token is the given operator. -/
def Token.isOp (token : Token) (text : String) : Bool :=
  token.kind = .op && token.value == text

/-- Whether a token is the given keyword. -/
def Token.isWord (token : Token) (text : String) : Bool :=
  token.kind = .name && token.value == text

/-- Whether a token opens a bracket. -/
def Token.opens (token : Token) : Bool :=
  token.isOp "(" || token.isOp "[" || token.isOp "\x7b"

/-- Whether a token closes a bracket. -/
def Token.closes (token : Token) : Bool :=
  token.isOp ")" || token.isOp "]" || token.isOp "\x7d"

/-- Split tokens after an opening bracket at its closing bracket: the tokens up to and
including the closing one, and the rest. Without a closing bracket everything is inside. -/
def closeBracket (depth : Nat) (inside : List Token) : List Token → List Token × List Token
  | [] => (inside.reverse, [])
  | token :: rest =>
    if token.closes then
      if depth = 0 then ((token :: inside).reverse, rest)
      else closeBracket (depth - 1) (token :: inside) rest
    else if token.opens then closeBracket (depth + 1) (token :: inside) rest
    else closeBracket depth (token :: inside) rest

/-- Split tokens at the first token satisfying `stop` outside brackets: the tokens before
it, and the rest from it on. -/
def splitAtTop (stop : Token → Bool) (depth : Nat) (before : List Token) :
    List Token → List Token × List Token
  | [] => (before.reverse, [])
  | token :: rest =>
    if depth = 0 && stop token then (before.reverse, token :: rest)
    else if token.opens then splitAtTop stop (depth + 1) (token :: before) rest
    else if token.closes then splitAtTop stop (depth - 1) (token :: before) rest
    else splitAtTop stop depth (token :: before) rest

/-- The source text from the first to the last of some tokens. -/
def sourceOf (source : Array Char) (tokens : List Token) : String :=
  match tokens.head?, tokens.getLast? with
  | some first, some last => String.ofList (source.extract first.start last.stop).toList
  | _, _ => ""

/-- Split tokens into groups at the semicolons outside brackets; fuel bounds the groups. -/
def splitStatements : Nat → List Token → List (List Token)
  | 0, _ => []
  | _, [] => []
  | fuel + 1, tokens =>
    match splitAtTop (fun token => token.isOp ";") 0 [] tokens with
    | (group, _ :: rest) => group :: splitStatements fuel rest
    | (group, []) => [group]

/-- The simple statement a group of tokens forms. -/
def simpleStatement (tokens : List Token) : Statement :=
  match tokens with
  | [first] => if first.kind = .literal then .expression (some first.value) else .expression none
  | first :: second :: _ =>
    if first.kind = .literal && second.isOp "," then .expression (some first.value)
    else .expression none
  | [] => .other

/-- The simple statements of tokens separated by semicolons. -/
def simpleStatements (tokens : List Token) : List Statement :=
  ((splitStatements (tokens.length + 1) tokens).filter fun group => !group.isEmpty).map
    simpleStatement

/-- A bracketed group at the front of tokens, if the front token is the given opening
bracket: its tokens, brackets included, and the rest. -/
def bracketed (opening : String) : List Token → Option (List Token × List Token)
  | token :: rest =>
    if token.isOp opening then
      let (inside, after) := closeBracket 0 [] rest
      some (token :: inside, after)
    else none
  | [] => none

/-- Skip a bracketed group at the front of tokens, if there is one. -/
def skipBracketed (opening : String) (tokens : List Token) : List Token :=
  match bracketed opening tokens with
  | some (_, after) => after
  | none => tokens

/-- The tokens after a header's closing colon; none when the header does not go on with
its colon. -/
def afterColon (tokens : List Token) : Option (List Token) :=
  match tokens with
  | token :: rest => if token.isOp ":" then some rest else none
  | [] => none

/-- The body of a definition: the simple statements after its colon, or else its indented
block. -/
def bodyOf (inline : List Token) (block : List Statement) : List Statement :=
  let statements := simpleStatements inline
  if statements.isEmpty then block else statements

/-- Whether a token can be a definition's name: a name that is no reserved word. -/
def Token.isDefinitionName (token : Token) : Bool :=
  token.kind = .name && !reservedWords.contains token.value

/-- Pass over the tokens after a definition's name that cannot stand there, up to the
first `(`, `[`, `:` or `->`. -/
def skipStray (tokens : List Token) : List Token :=
  tokens.dropWhile fun token =>
    !(token.isOp "(" || token.isOp "[" || token.isOp ":" || token.isOp "->")

/-- Read a function header after `def`: the name, parameter text, return annotation text
and the tokens after the colon. -/
def functionHeader (source : Array Char) (tokens : List Token) :
    Option (String × String × String × List Token) :=
  match tokens with
  | name :: rest =>
    if !name.isDefinitionName then none
    else
      match bracketed "(" (skipBracketed "[" (skipStray rest)) with
      | none => none
      | some (parameters, after) =>
        let (returns, tail) := match after with
          | arrow :: more =>
            if arrow.isOp "->" then
              let (hint, tail) := splitAtTop (fun token => token.isOp ":") 0 [] more
              (sourceOf source hint, tail)
            else ("", after)
          | [] => ("", [])
        (afterColon tail).map fun inline =>
          (name.value, sourceOf source parameters, returns, inline)
  | [] => none

/-- Read a class header after `class`: the name, base list text and the tokens after the
colon. -/
def classHeader (source : Array Char) (tokens : List Token) :
    Option (String × String × List Token) :=
  match tokens with
  | name :: rest =>
    if !name.isDefinitionName then none
    else
      let afterParams := skipBracketed "[" (skipStray rest)
      match bracketed "(" afterParams with
      | some (bases, after) => (afterColon after).map fun inline =>
        (name.value, sourceOf source bases, inline)
      | none => (afterColon afterParams).map fun inline => (name.value, "", inline)
  | [] => none

/-- What one logical line starts. -/
inductive Item where
  | decorator
  | definition (statement : Statement)
  | statements (statements : List Statement)

/-- Whether a line's tokens start a statement with a body of its own. -/
def isCompoundHeader (tokens : List Token) : Bool :=
  match tokens with
  | first :: _ =>
    ["if", "elif", "else", "for", "while", "try", "except", "finally", "with", "async",
      "match", "case"].any first.isWord &&
      (tokens.getLast?.map fun last => last.isOp ":").getD false
  | [] => false

/-- Whether a logical line opens an indented block: a well-formed definition header or a
compound statement's header, ending with its colon. -/
def opensBlock (source : Array Char) (line : Line) : Bool :=
  !line.truncated &&
    match line.tokens with
    | first :: rest =>
      if first.isWord "def" then
        match functionHeader source rest with
        | some (_, _, _, inline) => inline.isEmpty
        | none => false
      else if first.isWord "async" && (rest.head?.map fun t => t.isWord "def").getD false then
        match functionHeader source (rest.drop 1) with
        | some (_, _, _, inline) => inline.isEmpty
        | none => false
      else if first.isWord "class" then
        match classHeader source rest with
        | some (_, _, inline) => inline.isEmpty
        | none => false
      else isCompoundHeader line.tokens
    | [] => false

/-- What a logical line starts, given the statements of the block it opens. -/
def itemOf (source : Array Char) (line : Line) (block : List Statement) : Item :=
  let function := fun (isAsync : Bool) (rest : List Token) =>
    match functionHeader source rest with
    | some (name, parameters, returns, inline) =>
      Item.definition (.function isAsync name parameters returns (bodyOf inline block))
    | none => Item.statements [.other]
  if line.truncated then .statements [.other]
  else
  match line.tokens with
  | first :: rest =>
    if first.isOp "@" then .decorator
    else if first.isWord "def" then function false rest
    else if first.isWord "async" && (rest.head?.map fun t => t.isWord "def").getD false then
      function true (rest.drop 1)
    else if first.isWord "class" then
      match classHeader source rest with
      | some (name, bases, inline) => .definition (.classDef name bases (bodyOf inline block))
      | none => .statements [.other]
    else if isCompoundHeader line.tokens then .statements [.other]
    else .statements (simpleStatements line.tokens)
  | [] => .statements []

/-- Join decorators to the definition after them; decorators before anything else stand
for a statement that is not a definition. -/
def joinDecorators (pending : Bool) : List Item → List Statement
  | [] => if pending then [.other] else []
  | .decorator :: rest => joinDecorators true rest
  | .definition statement :: rest =>
    (if pending then .decorated statement else statement) :: joinDecorators false rest
  | .statements statements :: rest =>
    (if pending then [.other] else []) ++ statements ++ joinDecorators false rest

/-- The items of the block at indentation `level`, and the lines after it: the block
holds lines indented at least `level`, and resumed lines. A line that opens a block takes
the following lines indented deeper than `level` as that block. `fuel` bounds the depth
of the reading. -/
def blockItems (source : Array Char) : Nat → Nat → List Line → List Item × List Line
  | 0, _, lines => ([], lines)
  | _, _, [] => ([], [])
  | fuel + 1, level, line :: rest =>
    if !line.resumed && line.indent < level then ([], line :: rest)
    else
      let (block, after) :=
        if opensBlock source line then
          match rest with
          | next :: _ =>
            if !next.resumed && level < next.indent then blockItems source fuel next.indent rest
            else ([], rest)
          | [] => ([], [])
        else ([], rest)
      let item := itemOf source line (joinDecorators false block)
      let (items, remaining) := blockItems source fuel level after
      (item :: items, remaining)

/-- The statements of a Python source text. -/
def readModule (text : String) : List Statement :=
  let lines := logicalLines text
  joinDecorators false (blockItems text.toList.toArray (lines.length + 1) 0 lines).1

end DocIndex.Python
