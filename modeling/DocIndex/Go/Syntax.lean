import DocIndex.Go.Lexer

/-!
# Go top-level declarations

The top level of a Go file as far as documentation needs it: comments, the package clause,
function and method declarations with the source text of their signatures, type
declarations with their specs, and every other declaration or statement. Each carries the
lines it starts and ends on, which decide what comments document it.

A declaration ends at a line end or semicolon outside brackets; bodies and composite types
in braces may span lines. A comment after the last token of a declaration stays at the top
level. Reading is forgiving: a parameter list that meets a brace before its closing
parenthesis ends there, and a line that is no declaration is just another node.
-/

namespace DocIndex.Go

/-- Whether a token is the given operator. -/
def Token.isOp (token : Token) (text : String) : Bool :=
  token.kind = .op && token.value == text

/-- Whether a token is the given keyword or name. -/
def Token.isWord (token : Token) (text : String) : Bool :=
  token.kind = .name && token.value == text

/-- Whether a token is a comment or a line end. -/
def Token.isTrivia (token : Token) : Bool :=
  token.kind = .comment || token.kind = .lineEnd

/-- Whether a token opens a parenthesis or bracket. -/
def Token.opensGroup (token : Token) : Bool :=
  token.isOp "(" || token.isOp "["

/-- Whether a token closes a parenthesis or bracket. -/
def Token.closesGroup (token : Token) : Bool :=
  token.isOp ")" || token.isOp "]"

/-- Whether a token ends a declaration outside brackets. -/
def Token.terminates (token : Token) : Bool :=
  token.kind = .lineEnd || token.isOp ";"

/-- Whether a brace after this token opens the body of a composite type. -/
def opensTypeBody (previous : Option Token) : Bool :=
  match previous with
  | some token => token.isWord "struct" || token.isWord "interface"
  | none => false

/-- The kind of type a type spec declares. -/
inductive TypeKind where
  | structType
  | interfaceType
  | other (text : String)
  | missing
  deriving DecidableEq, Repr

/-- One spec of a type declaration. -/
structure TypeSpec where
  name : String
  isAlias : Bool
  kind : TypeKind
  deriving Repr

/-- What a top-level node is: a comment, the package clause, a function with the source text
of its parameters and result, a method also with the text of its receiver and the type of
the receiver's first parameter, a type declaration with its specs, or anything else. -/
inductive DeclKind where
  | comment (text : String)
  | packageClause (name : Option String)
  | function (name parameters result : String)
  | method (receiver : String) (receiverType : Option String) (name parameters result : String)
  | typeDecl (specs : List TypeSpec)
  | other
  deriving Repr

/-- A top-level node and the lines it spans. -/
structure Decl where
  kind : DeclKind
  startRow : Nat
  endRow : Nat
  deriving Repr

/-- The source text from the first to the last of some tokens, comments and line ends at
either end left out. -/
def sourceOf (source : Array Char) (tokens : List Token) : String :=
  let kept := (tokens.dropWhile Token.isTrivia).reverse.dropWhile Token.isTrivia |>.reverse
  match kept.head?, kept.getLast? with
  | some first, some last => String.ofList (source.extract first.start last.stop).toList
  | _, _ => ""

/-- Tokens up to the one that closes an open parenthesis or bracket, that one included;
braces count only after `struct` or `interface`, and any other brace ends the group early.
`depth` counts the groups opened inside, `braces` the braces. -/
def groupRest (depth braces : Nat) (previous : Option Token) (acc : List Token) :
    List Token → List Token × List Token
  | [] => (acc.reverse, [])
  | token :: rest =>
    let next := if token.isTrivia then previous else some token
    if token.isOp "\x7b" then
      if 0 < braces || opensTypeBody previous then
        groupRest depth (braces + 1) next (token :: acc) rest
      else (acc.reverse, token :: rest)
    else if token.isOp "\x7d" then
      if 0 < braces then groupRest depth (braces - 1) next (token :: acc) rest
      else (acc.reverse, token :: rest)
    else if 0 < braces then groupRest depth braces next (token :: acc) rest
    else if token.opensGroup then groupRest (depth + 1) braces next (token :: acc) rest
    else if token.closesGroup then
      if depth = 0 then ((token :: acc).reverse, rest)
      else groupRest (depth - 1) braces next (token :: acc) rest
    else groupRest depth braces next (token :: acc) rest

/-- A parenthesized or bracketed group at the front of tokens: its tokens and the rest. -/
def group (tokens : List Token) : List Token × List Token :=
  match tokens with
  | token :: rest =>
    let (inside, after) := groupRest 0 0 (some token) [] rest
    (token :: inside, after)
  | [] => ([], [])

/-- Tokens up to the brace that closes an open brace, that one included; `depth` counts
the braces opened inside. -/
def bodyRest (depth : Nat) (acc : List Token) : List Token → List Token × List Token
  | [] => (acc.reverse, [])
  | token :: rest =>
    if token.isOp "\x7b" then bodyRest (depth + 1) (token :: acc) rest
    else if token.isOp "\x7d" then
      if depth = 0 then ((token :: acc).reverse, rest) else bodyRest (depth - 1) (token :: acc) rest
    else bodyRest depth (token :: acc) rest

/-- Tokens of a type or expression outside brackets: up to a line end or semicolon, a
closing parenthesis of an enclosing group, or (when `braceEnds`) a brace that does not open
a composite type. Comments at the end are left to the rest. -/
def extentRest (braceEnds : Bool) (depth braces : Nat) (previous : Option Token)
    (acc : List Token) : List Token → List Token × List Token
  | [] => (acc.reverse, [])
  | token :: rest =>
    let next := if token.isTrivia then previous else some token
    let stop := fun () =>
      let trailing := acc.takeWhile Token.isTrivia
      ((acc.drop trailing.length).reverse, trailing.reverse ++ token :: rest)
    if token.isOp "\x7b" then
      if 0 < braces || opensTypeBody previous || !braceEnds then
        extentRest braceEnds depth (braces + 1) next (token :: acc) rest
      else stop ()
    else if token.isOp "\x7d" then
      if 0 < braces then extentRest braceEnds depth (braces - 1) next (token :: acc) rest
      else stop ()
    else if 0 < braces || 0 < depth then
      if token.opensGroup then extentRest braceEnds (depth + 1) braces next (token :: acc) rest
      else if token.closesGroup then
        extentRest braceEnds (depth - 1) braces next (token :: acc) rest
      else extentRest braceEnds depth braces next (token :: acc) rest
    else if token.terminates || token.closesGroup then stop ()
    else if token.opensGroup then extentRest braceEnds (depth + 1) braces next (token :: acc) rest
    else extentRest braceEnds depth braces next (token :: acc) rest

/-- Split a type or expression off the front of tokens. -/
def extent (braceEnds : Bool) (tokens : List Token) : List Token × List Token :=
  extentRest braceEnds 0 0 none [] tokens

/-- Drop the comments at the front of tokens, keeping them. -/
def splitComments (tokens : List Token) : List Token × List Token :=
  (tokens.takeWhile fun token => token.kind = .comment,
   tokens.dropWhile fun token => token.kind = .comment)

/-- Drop comments and line ends at the front of tokens, keeping them. -/
def splitTrivia (tokens : List Token) : List Token × List Token :=
  (tokens.takeWhile Token.isTrivia, tokens.dropWhile Token.isTrivia)

/-- The kind of a type from its tokens. -/
def typeKindOf (source : Array Char) (tokens : List Token) : TypeKind :=
  match tokens.filter (fun token => !token.isTrivia) with
  | [] => .missing
  | first :: _ =>
    if first.isWord "struct" then .structType
    else if first.isWord "interface" then .interfaceType
    else .other (sourceOf source tokens)

/-- Go's keywords: names that are no operands. -/
def keywords : List String :=
  ["break", "case", "chan", "const", "continue", "default", "defer", "else", "fallthrough",
    "for", "func", "go", "goto", "if", "import", "interface", "map", "package", "range",
    "return", "select", "struct", "switch", "type", "var"]

/-- Whether a token is a keyword. -/
def Token.isKeyword (token : Token) : Bool :=
  token.kind = .name && keywords.contains token.value

/-- The operators that join two operands. -/
def binaryOperators : List String :=
  ["+", "-", "*", "/", "%", "&", "|", "^", "<<", ">>", "&^", "==", "!=", "<", "<=", ">",
    ">=", "&&", "||"]

/-- The operators that may stand before an operand. -/
def unaryOperators : List String := ["+", "-", "!", "^", "*", "&", "<-"]

/-- Whether the rest of some tokens completes an expression: `expectOperand` says whether an
operand comes next. An operand is a name that is no keyword, a number, a literal or a
parenthesized group, after any unary operators; after it may come selectors, calls and
indexes, and a binary operator leads to the next operand. `fuel` bounds the steps. -/
def expressionRest : Nat → Bool → List Token → Bool
  | 0, _, _ => false
  | _ + 1, expectOperand, [] => !expectOperand
  | fuel + 1, true, token :: rest =>
    if token.kind = .op && unaryOperators.contains token.value then expressionRest fuel true rest
    else if token.isOp "(" then expressionRest fuel false (group (token :: rest)).2
    else if (token.kind = .name && !token.isKeyword) || token.kind = .number ||
        token.kind = .literal then
      expressionRest fuel false rest
    else false
  | fuel + 1, false, token :: rest =>
    if token.kind = .op && binaryOperators.contains token.value then expressionRest fuel true rest
    else if token.isOp "." then
      match rest with
      | name :: more => name.kind = .name && expressionRest fuel false more
      | [] => false
    else if token.opensGroup then expressionRest fuel false (group (token :: rest)).2
    else false

/-- Whether tokens, comments and line ends left out, read as one expression. -/
def isExpression (tokens : List Token) : Bool :=
  let kept := tokens.filter fun token => !token.isTrivia
  expressionRest (kept.length + 1) true kept

/-- Whether a bracket after a type name opens type parameters rather than an array's
length: it holds a name first, and is no expression. Where both readings fit, as in
`[N * M]`, the array wins. -/
def opensTypeParameters (tokens : List Token) : Bool :=
  match tokens.dropWhile Token.isTrivia with
  | bracket :: rest =>
    if bracket.isOp "[" then
      let inside := ((group (bracket :: rest)).1.drop 1).filter fun token => !token.isTrivia
      let inner := if (inside.getLast?.map fun token => token.isOp "]").getD false then
        inside.dropLast else inside
      match inner with
      | first :: _ => first.kind = .name && !isExpression inner
      | [] => false
    else false
  | [] => false

/-- Drop the stray names and commas before a type: a comma, or a name that is no keyword
followed by a comma or another name, cannot start one. -/
def strayBeforeType : List Token → List Token × List Token
  | [] => ([], [])
  | token :: rest =>
    let followed := match rest with
      | next :: _ => next.isOp "," || next.kind = .name
      | [] => false
    if token.isOp "," || (token.kind = .name && !token.isKeyword && followed) then
      let (stray, after) := strayBeforeType rest
      (token :: stray, after)
    else ([], token :: rest)

/-- Whether a token cannot start a type but starts a declaration of its own, so that a type
spec missing its type before it is lost. -/
def startsDeclaration (token : Token) (rest : List Token) : Bool :=
  token.isWord "type" || token.isWord "var" || token.isWord "const" ||
    token.isWord "import" || token.isWord "package" ||
    (token.isWord "func" && !(rest.head?.map fun next => next.isOp "(").getD false)

/-- Read one type spec: its tokens and the rest. A line end before the type is passed over,
as the spec cannot end there; if what follows then starts a declaration, the spec is lost
and gets no name. Stray names and commas before the type are passed over too. -/
def typeSpec (source : Array Char) (tokens : List Token) : TypeSpec × List Token × List Token :=
  let (lead, afterLead) := splitComments tokens
  match afterLead with
  | name :: rest =>
    if name.kind != .name then (⟨"", false, .missing⟩, [], afterLead)
    else
      let (params, afterParams) :=
        if opensTypeParameters rest then group (rest.dropWhile Token.isTrivia) else ([], rest)
      let (gap, afterGap) := splitTrivia afterParams
      let (isAlias, eq, typeStart) := match afterGap with
        | token :: more => if token.isOp "=" then (true, [token], more) else (false, [], afterGap)
        | [] => (false, [], [])
      let (gapType, afterGapType) := splitTrivia typeStart
      let (stray, front) := strayBeforeType afterGapType
      let before := lead ++ name :: params ++ gap ++ eq ++ gapType ++ stray
      match front with
      | token :: more =>
        if startsDeclaration token more then (⟨"", false, .missing⟩, before, front)
        else
          let (typeTokens, after) := extent true front
          (⟨name.value, isAlias, typeKindOf source typeTokens⟩, before ++ typeTokens, after)
      | [] => (⟨name.value, isAlias, .missing⟩, before, [])
  | [] => (⟨"", false, .missing⟩, [], [])

/-- Read the specs of a grouped type declaration up to its closing parenthesis; `fuel`
bounds the specs. -/
def typeSpecs (source : Array Char) : Nat → List Token → List TypeSpec × List Token × List Token
  | 0, tokens => ([], [], tokens)
  | fuel + 1, tokens =>
    let (gap, rest) := splitTrivia tokens
    match rest with
    | [] => ([], gap, [])
    | token :: more =>
      if token.isOp ")" then ([], gap ++ [token], more)
      else if token.isOp ";" then
        let (specs, used, after) := typeSpecs source fuel more
        (specs, gap ++ token :: used, after)
      else
        let (spec, specTokens, afterSpec) := typeSpec source rest
        if specTokens.isEmpty then
          let (specs, used, after) := typeSpecs source fuel more
          (specs, gap ++ token :: used, after)
        else
          let (specs, used, after) := typeSpecs source fuel afterSpec
          (if spec.name.isEmpty then specs else spec :: specs, gap ++ specTokens ++ used, after)

/-- The first parameter declaration's type text in a parameter list's tokens (without the
parentheses): parameters are split at commas outside brackets; a declaration is either
names then a type, or a type alone. A variadic declaration does not count. -/
def firstParameterType (source : Array Char) (inside : List Token) : Option String :=
  let tokens := inside.filter fun token => !token.isTrivia
  let rec pieces (depth : Nat) (current : List Token) : List Token → List (List Token)
    | [] => if current.isEmpty then [] else [current.reverse]
    | token :: rest =>
      if depth = 0 && token.isOp "," then current.reverse :: pieces depth [] rest
      else if token.opensGroup || token.isOp "\x7b" then pieces (depth + 1) (token :: current) rest
      else if token.closesGroup || token.isOp "\x7d" then
        pieces (depth - 1) (token :: current) rest
      else pieces depth (token :: current) rest
  let isTypeOnly := fun (piece : List Token) =>
    match piece with
    | [_] => true
    | first :: second :: rest =>
      first.kind != .name || second.isOp "." ||
        (second.isOp "[" && (rest.getLast?.map fun last => last.isOp "]").getD false)
    | [] => true
  let typeOf := fun (piece : List Token) =>
    if isTypeOnly piece then piece else piece.drop 1
  let all := pieces 0 [] tokens
  let named := all.find? fun piece => !isTypeOnly piece
  let chosen := match named with
    | some piece => some piece
    | none => all.head?
  match chosen with
  | some piece =>
    if (piece.head?.map fun token => token.isOp "...").getD false then none
    else
      let typeTokens := typeOf piece
      if (typeTokens.head?.map fun token => token.isOp "...").getD false then none
      else some (sourceOf source typeTokens)
  | none => none

/-- Whether a token can start a type. -/
def startsType (token : Token) : Bool :=
  token.kind = .name || token.isOp "*" || token.isOp "[" || token.isOp "<-" || token.isOp "("

/-- Read the rest of a function or method after its parameter list: the result's source
text, and the tokens used and left. -/
def signatureTail (source : Array Char) (tokens : List Token) :
    String × List Token × List Token :=
  let (comments, afterComments) := splitComments tokens
  let (gap, rest) := match afterComments with
    | token :: more => if token.isOp "..." then (comments ++ [token], more) else (comments, afterComments)
    | [] => (comments, afterComments)
  let (result, resultTokens, afterResult) := match rest with
    | token :: _ =>
      if token.isOp "(" then
        let (list, after) := group rest
        (sourceOf source list, gap ++ list, after)
      else if token.isOp "\x7b" || token.terminates then ("", [], tokens)
      else if startsType token then
        let (typeTokens, after) := extent true rest
        (sourceOf source typeTokens, gap ++ typeTokens, after)
      else ("", [], tokens)
    | [] => ("", [], tokens)
  let (gapBody, restBody) := splitComments afterResult
  match restBody with
  | token :: more =>
    if token.isOp "\x7b" then
      let (body, after) := bodyRest 0 [] more
      (result, resultTokens ++ gapBody ++ token :: body, after)
    else (result, resultTokens, afterResult)
  | [] => (result, resultTokens, afterResult)

/-- Where a list of type parameters, read as a group without its opening bracket, ends
early: a parenthesis right after a constraint's name cannot continue the list, which ends
before it as if closed. `depth` counts the groups opened inside, `count` the tokens passed. -/
def typeParametersEnd (depth count : Nat) (previous : Option Token) : List Token → Option Nat
  | [] => none
  | token :: rest =>
    if token.isTrivia then typeParametersEnd depth (count + 1) previous rest
    else if depth = 0 && token.isOp "(" &&
        (previous.map fun last => last.kind = .name && !last.isWord "func").getD false then
      some count
    else if token.opensGroup || token.isOp "\x7b" then
      typeParametersEnd (depth + 1) (count + 1) (some token) rest
    else if token.closesGroup || token.isOp "\x7d" then
      typeParametersEnd (depth - 1) (count + 1) (some token) rest
    else typeParametersEnd depth (count + 1) (some token) rest

/-- Where a receiver, read as a group without its opening parenthesis, ends early: a name
right after a complete parameter declaration (a name and a type) cannot continue it, so the
receiver ends before that name as if closed. `names` counts the names of the declaration
being read. -/
def receiverEnd (depth names count : Nat) (previous : Option Token) : List Token → Option Nat
  | [] => none
  | token :: rest =>
    if token.isTrivia then receiverEnd depth names (count + 1) previous rest
    else if depth = 0 && token.kind = .name && 2 ≤ names &&
        (previous.map fun last => last.kind = .name || last.closesGroup).getD false then
      some count
    else if token.opensGroup || token.isOp "\x7b" then
      receiverEnd (depth + 1) names (count + 1) (some token) rest
    else if token.closesGroup || token.isOp "\x7d" then
      receiverEnd (depth - 1) names (count + 1) (some token) rest
    else if depth = 0 && token.isOp "," then receiverEnd depth 0 (count + 1) (some token) rest
    else
      let counted := if depth = 0 && token.kind = .name then names + 1 else names
      receiverEnd depth counted (count + 1) (some token) rest

/-- A group at the front of tokens that may end early where `ending` says: its tokens and
the rest. -/
def groupUntil (ending : List Token → Option Nat) (tokens : List Token) :
    List Token × List Token :=
  match tokens with
  | first :: _ =>
    let (list, after) := group tokens
    match ending (list.drop 1) with
    | some count => (first :: (list.drop 1).take count, (list.drop 1).drop count ++ after)
    | none => (list, after)
  | [] => ([], [])

/-- Read a function or method declaration after `func`: its kind, and the tokens used and
left. -/
def funcDecl (source : Array Char) (tokens : List Token) : DeclKind × List Token × List Token :=
  let (gap, rest) := splitTrivia tokens
  let (receiver, afterReceiver) := match rest with
    | token :: _ => if token.isOp "(" then groupUntil (receiverEnd 0 0 0 none) rest else ([], rest)
    | [] => ([], rest)
  let (gapName, restName) := splitTrivia afterReceiver
  match restName with
  | name :: afterName =>
    if name.kind != .name then (.other, gap ++ receiver ++ gapName, restName)
    else
      let (gapParams, restParams) := splitTrivia afterName
      let (typeParams, afterTypeParams) := match restParams with
        | token :: _ =>
          if token.isOp "[" then groupUntil (typeParametersEnd 0 0 none) restParams
          else ([], restParams)
        | [] => ([], restParams)
      let (gapList, restList) := splitTrivia afterTypeParams
      match restList with
      | token :: _ =>
        if token.isOp "(" then
          let (params, afterParams) := group restList
          let (result, tailTokens, after) := signatureTail source afterParams
          let used := gap ++ receiver ++ gapName ++ name :: gapParams ++ typeParams ++ gapList ++
            params ++ tailTokens
          let parameters := sourceOf source params
          if receiver.isEmpty then (.function name.value parameters result, used, after)
          else
            let inside := (receiver.drop 1).filter fun t => !t.isOp ")"
            (.method (sourceOf source receiver) (firstParameterType source inside) name.value
              parameters result, used, after)
        else (.other, gap ++ receiver ++ gapName ++ [name], afterName)
      | [] => (.other, gap ++ receiver ++ gapName ++ [name], afterName)
  | [] => (.other, gap ++ receiver ++ gapName, [])

/-- Read a type declaration after `type`. -/
def typeDecl (source : Array Char) (tokens : List Token) : DeclKind × List Token × List Token :=
  let (gap, rest) := splitTrivia tokens
  match rest with
  | token :: more =>
    if token.isOp "(" then
      let (specs, used, after) := typeSpecs source (more.length + 1) more
      (.typeDecl specs, gap ++ token :: used, after)
    else
      let (spec, used, after) := typeSpec source rest
      (.typeDecl (if spec.name.isEmpty then [] else [spec]), gap ++ used, after)
  | [] => (.typeDecl [], gap, [])

/-- Read the package clause after `package`. -/
def packageClause (tokens : List Token) : DeclKind × List Token × List Token :=
  let (gap, rest) := splitComments tokens
  match rest with
  | name :: after =>
    if name.kind = .name then (.packageClause (some name.value), gap ++ [name], after)
    else (.packageClause none, [], tokens)
  | [] => (.packageClause none, [], tokens)

/-- Read a declaration that is documented by nothing: a parenthesized group after its
keyword, or everything up to the end of the statement. -/
def plainDecl (tokens : List Token) : DeclKind × List Token × List Token :=
  let (gap, rest) := splitComments tokens
  match rest with
  | token :: _ =>
    if token.isOp "(" then
      let (list, after) := group rest
      (.other, gap ++ list, after)
    else
      let (used, after) := extent false tokens
      (.other, used, after)
  | [] => (.other, [], tokens)

/-- A node over the tokens it used. -/
def nodeOver (kind : DeclKind) (first : Token) (used : List Token) : Decl :=
  let last := ((first :: used).filter fun token => !token.isTrivia).getLast?.getD first
  ⟨kind, first.row, last.endRow⟩

/-- The top-level nodes of tokens; `fuel` bounds the nodes. -/
def declsFrom (source : Array Char) : Nat → List Token → List Decl
  | 0, _ => []
  | _, [] => []
  | fuel + 1, token :: rest =>
    if token.terminates then declsFrom source fuel rest
    else if token.kind = .comment then
      ⟨.comment token.value, token.row, token.endRow⟩ :: declsFrom source fuel rest
    else
      let (kind, used, after) :=
        if token.isWord "package" then packageClause rest
        else if token.isWord "func" then funcDecl source rest
        else if token.isWord "type" then typeDecl source rest
        else if token.isWord "import" || token.isWord "var" || token.isWord "const" then
          plainDecl rest
        else if token.isOp "\x7d" || token.isOp ")" || token.isOp "]" then (.other, [], rest)
        else
          let (used, after) := extent false (token :: rest)
          (.other, used.drop 1, after)
      nodeOver kind token used :: declsFrom source fuel after

/-- The top-level nodes of a Go source text. -/
def readFile (text : String) : List Decl :=
  let tokens := tokenize text
  declsFrom text.toList.toArray (tokens.length + 1) tokens

end DocIndex.Go
