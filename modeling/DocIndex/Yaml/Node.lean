import DocIndex.Yaml.Token.Stream
import DocIndex.Yaml.Tag

/-!
# YAML documents as graphs of nodes

A YAML document is a graph: a node may be named by an anchor (`&a`) and reached again
through an alias (`*a`). `Graph` keeps the nodes in the order they start, so that an
alias is simply the number of the node it names, and `Graph.ofTokens` builds the one
document of a token stream.

The token grammar read here is that of YAML 1.1: block sequences and mappings (with the
sequence that may stand unindented as a mapping's value), flow sequences (whose entries
may be single-pair mappings) and flow mappings, node properties before a node, and the
empty scalar wherever a key, a value or an entry is left out. A stream holds documents
after optional directives; a stream of no document has no graph, and one of two or more
documents is refused.

An alias must name an anchor that came before it. An alias may name a collection still
open around it, which makes the graph cyclic: a sequence or mapping may hold itself.
-/

namespace DocIndex.Yaml

/-- What a node holds. -/
inductive Content where
  | scalar (text : String)
  | sequence (items : List Nat)
  | mapping (entries : List (Nat × Nat))
  deriving DecidableEq, Repr

/-- Whether the content is a mapping. -/
def Content.isMapping : Content → Bool
  | .mapping _ => true
  | _ => false

/-- A node: its tag and what it holds. -/
structure Node where
  tag : String
  content : Content
  deriving DecidableEq, Repr

/-- A document: nodes numbered in the order they start, and the number of the root. -/
structure Graph where
  nodes : Array Node
  root : Nat

/-- The tag handles that every document knows. -/
def defaultHandles : List (String × String) :=
  [("!", "!"), ("!!", coreTag "")]

/-- The state of building documents from tokens. -/
structure Builder where
  tokens : List Token
  nodes : Array Node
  anchors : List (String × Nat)
  handles : List (String × String)

/-- Building in progress. -/
abbrev Build := StateT Builder (Except Problem)

namespace Build

/-- Stop with a malformed-document problem. -/
def fail {α : Type} (reason : String) : Build α :=
  throw (.malformed reason)

/-- The next token; the end of the stream when none is left. -/
def peek : Build Token := do
  return (← get).tokens.headD .streamEnd

/-- Read the next token. -/
def next : Build Unit :=
  modify fun b => { b with tokens := b.tokens.drop 1 }

/-- Whether the next token is one of `choices`. -/
def nextIs (choices : List Token) : Build Bool := do
  return choices.contains (← peek)

/-- Add a node, naming it by `anchor` if given. -/
def addNode (anchor : Option String) (node : Node) : Build Nat := do
  let b ← get
  let number := b.nodes.size
  let anchors := match anchor with
    | some name => (name, number) :: b.anchors
    | none => b.anchors
  set { b with nodes := b.nodes.push node, anchors := anchors }
  return number

/-- Fill in the content of a collection node once it is complete. -/
def finish (number : Nat) (content : Content) : Build Nat := do
  modify fun b =>
    { b with nodes := b.nodes.modify number fun node => { node with content := content } }
  return number

/-- Start a collection node, empty until `finish`; its anchor names it from here on. -/
def beginCollection (anchor : Option String) (tag : String) (empty : Content) : Build Nat :=
  addNode anchor ⟨tag, empty⟩

/-- The empty scalar of a left-out key, value or entry: a null. -/
def emptyScalar : Build Nat :=
  addNode none ⟨nullTag, .scalar ""⟩

/-- The tag of a scalar: an explicit tag stays; without one (or with the lone `!`) a
plain scalar's text decides it, and any other scalar is a text. -/
def scalarTag (tag : Option String) (text : String) (plain : Bool) : String :=
  match tag with
  | some explicit => if explicit = "!" then implicitTag text else explicit
  | none => if plain then implicitTag text else strTag

/-- The tag of a collection: an explicit tag stays, else the default. -/
def collectionTag (tag : Option String) (default : String) : String :=
  match tag with
  | some explicit => if explicit = "!" then default else explicit
  | none => default

/-- Read the properties before a node: an anchor and a tag in either order, each
optional; a tag's handle is expanded. -/
def properties : Build (Option String × Option String) := do
  let readAnchor : Build (Option String) := do
    match ← peek with
    | .anchor name => next; return some name
    | _ => return none
  let readTag : Build (Option (Option String × String)) := do
    match ← peek with
    | .tag handle suffix => next; return some (handle, suffix)
    | _ => return none
  let (anchor, tag) ← match ← peek with
    | .anchor _ => do
      let anchor ← readAnchor
      let tag ← readTag
      pure (anchor, tag)
    | .tag _ _ => do
      let tag ← readTag
      let anchor ← readAnchor
      pure (anchor, tag)
    | _ => pure (none, none)
  if let some name := anchor then
    if ((← get).anchors.lookup name).isSome then fail "found duplicate anchor"
  match tag with
  | none => return (anchor, none)
  | some (none, suffix) => return (anchor, some suffix)
  | some (some handle, suffix) =>
    match (← get).handles.lookup handle with
    | some expansion => return (anchor, some (expansion ++ suffix))
    | none => fail "found undefined tag handle"

mutual

/-- Read a node. `block` allows block collections; `indentless` allows a block sequence
without indentation (a mapping's value). -/
def node (fuel : Nat) (block indentless : Bool) : Build Nat := do
  match fuel with
  | 0 => fail "the document nests too deeply"
  | fuel + 1 =>
    match ← peek with
    | .alias name =>
      next
      let b ← get
      match b.anchors.lookup name with
      | none => fail "found undefined alias"
      | some number => return number
    | _ =>
      let (anchor, tag) ← properties
      let token ← peek
      if indentless && token = .blockEntry then
        let number ← beginCollection anchor (collectionTag tag seqTag) (.sequence [])
        let items ← indentlessItems fuel []
        finish number (.sequence items)
      else
        match token with
        | .scalar text plain =>
          next
          addNode anchor ⟨scalarTag tag text plain, .scalar text⟩
        | .flowSequenceStart =>
          next
          let number ← beginCollection anchor (collectionTag tag seqTag) (.sequence [])
          let items ← flowItems fuel true []
          finish number (.sequence items)
        | .flowMappingStart =>
          next
          let number ← beginCollection anchor (collectionTag tag mapTag) (.mapping [])
          let entries ← flowEntries fuel true []
          finish number (.mapping entries)
        | .blockSequenceStart =>
          if block then
            next
            let number ← beginCollection anchor (collectionTag tag seqTag) (.sequence [])
            let items ← blockItems fuel []
            finish number (.sequence items)
          else empty anchor tag
        | .blockMappingStart =>
          if block then
            next
            let number ← beginCollection anchor (collectionTag tag mapTag) (.mapping [])
            let entries ← blockEntries fuel []
            finish number (.mapping entries)
          else empty anchor tag
        | _ => empty anchor tag

/-- The node of properties without content: an empty scalar, tagged as given (null when
no tag or the lone `!` is given). Without properties there is no node here. -/
def empty (anchor : Option String) (tag : Option String) : Build Nat := do
  if anchor.isNone && tag.isNone then fail "expected the node content"
  else addNode anchor ⟨scalarTag tag "" true, .scalar ""⟩

/-- Read the entries of a block sequence up to its end. -/
def blockItems (fuel : Nat) (items : List Nat) : Build (List Nat) := do
  match fuel with
  | 0 => fail "the document nests too deeply"
  | fuel + 1 =>
    match ← peek with
    | .blockEntry =>
      next
      let item ← if ← nextIs [.blockEntry, .blockEnd] then emptyScalar else node fuel true false
      blockItems fuel (items ++ [item])
    | .blockEnd => next; return items
    | _ => fail "expected a block end"

/-- Read the entries of a sequence written without indentation, up to the first token that
is no entry. -/
def indentlessItems (fuel : Nat) (items : List Nat) : Build (List Nat) := do
  match fuel with
  | 0 => fail "the document nests too deeply"
  | fuel + 1 =>
    match ← peek with
    | .blockEntry =>
      next
      let item ← if ← nextIs [.blockEntry, .key, .value, .blockEnd] then emptyScalar
        else node fuel true false
      indentlessItems fuel (items ++ [item])
    | _ => return items

/-- Read the entries of a block mapping up to its end. -/
def blockEntries (fuel : Nat) (entries : List (Nat × Nat)) : Build (List (Nat × Nat)) := do
  match fuel with
  | 0 => fail "the document nests too deeply"
  | fuel + 1 =>
    match ← peek with
    | .key =>
      next
      let key ← if ← nextIs [.key, .value, .blockEnd] then emptyScalar else node fuel true true
      let value ← match ← peek with
        | .value =>
          next
          if ← nextIs [.key, .value, .blockEnd] then emptyScalar else node fuel true true
        | _ => emptyScalar
      blockEntries fuel (entries ++ [(key, value)])
    | .blockEnd => next; return entries
    | _ => fail "expected a block end"

/-- Read the entries of a flow sequence up to its `]`; an entry may be a single-pair
mapping written `key: value`. -/
def flowItems (fuel : Nat) (first : Bool) (items : List Nat) : Build (List Nat) := do
  match fuel with
  | 0 => fail "the document nests too deeply"
  | fuel + 1 =>
    if (← peek) = .flowSequenceEnd then next; return items
    if !first then
      if (← peek) = .flowEntry then next else fail "expected ',' or ']'"
    match ← peek with
    | .key =>
      next
      let number ← beginCollection none mapTag (.mapping [])
      let key ← if ← nextIs [.value, .flowEntry, .flowSequenceEnd] then emptyScalar
        else node fuel false false
      let value ← match ← peek with
        | .value =>
          next
          if ← nextIs [.flowEntry, .flowSequenceEnd] then emptyScalar else node fuel false false
        | _ => emptyScalar
      let pair ← finish number (.mapping [(key, value)])
      flowItems fuel false (items ++ [pair])
    | .flowSequenceEnd => next; return items
    | _ =>
      let item ← node fuel false false
      flowItems fuel false (items ++ [item])

/-- Read the entries of a flow mapping up to its `}`; a key without `:` has a null value. -/
def flowEntries (fuel : Nat) (first : Bool) (entries : List (Nat × Nat)) :
    Build (List (Nat × Nat)) := do
  match fuel with
  | 0 => fail "the document nests too deeply"
  | fuel + 1 =>
    if (← peek) = .flowMappingEnd then next; return entries
    if !first then
      if (← peek) = .flowEntry then next else fail "expected ',' or '\x7d'"
    match ← peek with
    | .key =>
      next
      let key ← if ← nextIs [.value, .flowEntry, .flowMappingEnd] then emptyScalar
        else node fuel false false
      let value ← match ← peek with
        | .value =>
          next
          if ← nextIs [.flowEntry, .flowMappingEnd] then emptyScalar else node fuel false false
        | _ => emptyScalar
      flowEntries fuel false (entries ++ [(key, value)])
    | .flowMappingEnd => next; return entries
    | _ =>
      let key ← node fuel false false
      let value ← emptyScalar
      flowEntries fuel false (entries ++ [(key, value)])

end

/-- Read the directives before an explicit document into its tag handles; a `%YAML`
directive must name version 1 and come at most once, and a handle may be declared once. -/
def directives (fuel : Nat) (version : Bool) (declared : List (String × String)) :
    Build (List (String × String)) := do
  match fuel with
  | 0 => return declared
  | fuel + 1 =>
    match ← peek with
    | .directive _ (.version major _) =>
      next
      if version then fail "found duplicate YAML directive"
      else if major ≠ 1 then fail "found incompatible YAML document"
      else directives fuel true declared
    | .directive _ (.tagHandle handle expansion) =>
      next
      if (declared.lookup handle).isSome then fail "duplicate tag handle"
      else directives fuel version (declared ++ [(handle, expansion)])
    | .directive _ .ignored => next; directives fuel version declared
    | _ => return declared

/-- Whether a token ends a document's content where a node would start. -/
def isBoundary : Token → Bool
  | .directive _ _ | .documentStart | .documentEnd | .streamEnd => true
  | _ => false

/-- Read explicit documents up to the end of the stream, adding their roots to `roots`.
Each starts with `---` after its directives; `...` markers between them are skipped, and
a document without content holds a null. -/
def documents (fuel : Nat) (roots : List Nat) : Build (List Nat) := do
  match fuel with
  | 0 => return roots
  | fuel + 1 =>
    modify fun b => { b with tokens := b.tokens.dropWhile (· = .documentEnd) }
    if (← peek) = .streamEnd then return roots
    let declared ← directives (← get).tokens.length false []
    if (← peek) ≠ .documentStart then fail "expected '<document start>'"
    next
    let handles := declared ++ defaultHandles.filter fun pair => (declared.lookup pair.1).isNone
    modify fun b => { b with handles := handles, anchors := [] }
    let root ← if isBoundary (← peek) then emptyScalar
      else node ((← get).tokens.length + 1) true false
    if (← peek) = .documentEnd then next
    documents fuel (roots ++ [root])

/-- Read a whole stream into the roots of its documents. The first document may be
implicit: without directives or `---`, its content starts the stream. -/
def stream : Build (List Nat) := do
  let fuel := (← get).tokens.length + 1
  if isBoundary (← peek) && (← peek) ≠ .documentEnd then documents fuel []
  else
    let root ← node fuel true false
    if (← peek) = .documentEnd then next
    documents fuel [root]

end Build

/-- The one document of a token stream: `none` for a stream without documents, and a
problem for a malformed stream or one with several documents. -/
def Graph.ofTokens (tokens : List Token) : Except Problem (Option Graph) :=
  match Build.stream.run ⟨tokens, #[], [], defaultHandles⟩ with
  | .error problem => .error problem
  | .ok (roots, b) =>
    match roots with
    | [] => .ok none
    | [root] => .ok (some ⟨b.nodes, root⟩)
    | _ => .error (.malformed "expected a single document in the stream")

/-- The one document of a YAML text, if it has one. -/
def Graph.ofText (text : String) : Except Problem (Option Graph) :=
  match tokenize text with
  | .error problem => .error problem
  | .ok tokens => Graph.ofTokens tokens

end DocIndex.Yaml
