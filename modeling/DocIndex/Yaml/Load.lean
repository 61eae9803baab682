import DocIndex.Yaml.Node
import DocIndex.Yaml.Scalar
import DocIndex.Data.Key

/-!
# Loading a YAML document

`load` reads the one document of a YAML text and makes its values, with the types of
plain data: null, truth values, integers, floats, byte strings, timestamps, texts,
sequences, mappings, sets (`!!set`) and ordered pairs (`!!omap`, `!!pairs`, as lists of
pairs). A text without a document has none. Any other tag is a malformed document.

Values are made in breadth-first order. A collection is made empty when it is first
reached and filled in the next round, after every node of the current round; a scalar is
made when it is reached. A node reached again through an alias is not made again: the
`Document` keeps each collection as its node, so that one reached twice is one
collection and one that holds itself is a cycle. Of the problems of a document, the first
met in this order is the one reported.

Before a mapping is filled, its merge keys (`<<`) are replaced by the entries of the
mappings they name (of a list of mappings, later ones first), in front of its own
entries, which win over merged ones. Its value keys (`=`) become text keys. These
changes stay with the node, where a later alias sees them. A mapping key must be a scalar
value: a key that is a collection is malformed.

`Document.display` writes a node's value for a reader and `Document.literal` as it would
be typed back in; a collection met again inside itself is written `[...]` (a mapping
`\x7b...\x7d`).
-/

namespace DocIndex.Yaml

open DocIndex.Data

/-- The state of making a document's values: the nodes (which merging changes), the values
made of scalar nodes, which nodes were reached, and the collections to fill next round. -/
structure Making where
  nodes : Array Node
  values : Array (Option Value)
  reached : Array Bool
  pending : List Nat

/-- Making in progress. -/
abbrev Make := StateT Making (Except Problem)

namespace Make

/-- The tags of collections. -/
def collectionTags : List String :=
  [seqTag, mapTag, coreTag "set", coreTag "omap", coreTag "pairs"]

/-- The node numbered `number`. -/
def nodeAt (number : Nat) : Make Node := do
  match (← get).nodes[number]? with
  | some node => return node
  | none => throw (.malformed "a node number is out of range")

/-- Change the node numbered `number`. -/
def setNode (number : Nat) (node : Node) : Make Unit :=
  modify fun m => { m with nodes := m.nodes.set! number node }

/-- The text of a scalar node; a mapping stands for the value of its value key (`=`). -/
def scalarText (fuel : Nat) (number : Nat) : Make String := do
  match fuel with
  | 0 => throw (.malformed "the value keys nest too deeply")
  | fuel + 1 =>
    let node ← nodeAt number
    match node.content with
    | .scalar text => return text
    | .sequence _ => throw (.malformed "expected a scalar node, but found sequence")
    | .mapping entries =>
      let nodes := (← get).nodes
      match entries.find? fun entry => (nodes[entry.1]?.map Node.tag) = some valueTag with
      | some entry => scalarText fuel entry.2
      | none => throw (.malformed "expected a scalar node, but found mapping")

/-- Reach a node: a scalar's value is made now, a collection is filled next round. -/
def reach (number : Nat) : Make Unit := do
  if (← get).reached[number]?.getD true then return
  modify fun m => { m with reached := m.reached.set! number true }
  let node ← nodeAt number
  if collectionTags.contains node.tag then
    modify fun m => { m with pending := m.pending ++ [number] }
  else if !scalarTags.contains node.tag then
    throw (.malformed ("could not determine a constructor for the tag " ++ node.tag))
  else
    let text ← scalarText ((← get).nodes.size + 1) number
    if node.tag = coreTag "timestamp" && node.content.isMapping then
      throw (.timestampOfCollection "list")
    match scalarValue node.tag text with
    | some (.ok value) => modify fun m => { m with values := m.values.set! number (some value) }
    | some (.error problem) => throw problem
    | none => throw (.malformed ("could not determine a constructor for the tag " ++ node.tag))

/-- Reach each node of a list in order. -/
def reachAll : List Nat → Make Unit
  | [] => return
  | number :: rest => do reach number; reachAll rest

/-- The entries of a mapping node; none for another node. -/
def entriesOf (number : Nat) : Make (List (Nat × Nat)) := do
  match (← nodeAt number).content with
  | .mapping entries => return entries
  | _ => return []

/-- Replace the merge keys of a mapping by the entries they name, and its value keys by
text keys, from the entry at `index` on; `merged` holds the entries merged so far.

The mapping changes in place as it is worked on: a merge key is removed before the
mappings it names are flattened and their entries taken, so a mapping that names itself
takes its own entries without that key. Merged entries (of a list of mappings, later ones
first) go in front of the mapping's own entries. -/
def flattenFrom : Nat → Nat → Nat → List (Nat × Nat) → Make Unit
  | 0, _, _, _ => throw (.malformed "the merge keys nest too deeply")
  | fuel + 1, number, index, merged => do
    let entries ← entriesOf number
    match entries[index]? with
    | none =>
      if !merged.isEmpty then
        setNode number { (← nodeAt number) with content := .mapping (merged ++ entries) }
    | some (key, value) =>
      let keyNode ← nodeAt key
      if keyNode.tag = mergeTag then
        setNode number { (← nodeAt number) with content := .mapping (entries.eraseIdx index) }
        match (← nodeAt value).content with
        | .mapping _ =>
          flattenFrom fuel value 0 []
          flattenFrom fuel number index (merged ++ (← entriesOf value))
        | .sequence items =>
          let mut groups : List (List (Nat × Nat)) := []
          for item in items do
            match (← nodeAt item).content with
            | .mapping _ =>
              flattenFrom fuel item 0 []
              groups := groups ++ [← entriesOf item]
            | _ => throw (.malformed "expected a mapping for merging")
          flattenFrom fuel number index (merged ++ groups.reverse.flatten)
        | .scalar _ => throw (.malformed "expected a mapping or list of mappings for merging")
      else
        if keyNode.tag = valueTag then setNode key { keyNode with tag := strTag }
        flattenFrom fuel number (index + 1) merged

/-- Flatten a mapping's merge and value keys (`flattenFrom`). -/
def flatten (number : Nat) : Make Unit := do
  let size := (← get).nodes.size + 2
  flattenFrom (size * size * size) number 0 []

/-- Whether a reached key node is a collection, which cannot be a mapping key. -/
def isCollectionKey (number : Nat) : Make Bool := do
  return collectionTags.contains (← nodeAt number).tag

/-- Reach the key and value nodes of mapping entries in order; keys must be scalars. -/
def reachEntries : List (Nat × Nat) → Make Unit
  | [] => return
  | (key, value) :: rest => do
    reach key
    if ← isCollectionKey key then throw (.malformed "found unhashable key")
    reach value
    reachEntries rest

/-- Reach the pairs of an ordered-pairs node: each item a mapping of one entry. -/
def reachPairs : List Nat → Make Unit
  | [] => return
  | item :: rest => do
    match (← nodeAt item).content with
    | .mapping [(key, value)] =>
      reach key
      reach value
      reachPairs rest
    | .mapping _ => throw (.malformed "expected a single mapping item")
    | _ => throw (.malformed "expected a mapping of length 1")

/-- Fill a collection reached in the last round, reaching its members. -/
def fill (number : Nat) : Make Unit := do
  let node ← nodeAt number
  if node.tag = seqTag then
    match node.content with
    | .sequence items => reachAll items
    | _ => throw (.malformed "expected a sequence node")
  else if node.tag = mapTag || node.tag = coreTag "set" then
    flatten number
    match (← nodeAt number).content with
    | .mapping entries => reachEntries entries
    | _ => throw (.malformed "expected a mapping node")
  else
    match node.content with
    | .sequence items => reachPairs items
    | _ => throw (.malformed "expected a sequence of pairs")

/-- Fill the collections round by round until none is left. -/
def rounds : Nat → Make Unit
  | 0 => return
  | fuel + 1 => do
    let pending := (← get).pending
    if pending.isEmpty then return
    modify fun m => { m with pending := [] }
    for number in pending do fill number
    rounds fuel

end Make

/-- A loaded document: its nodes as merging left them, the value made of each scalar node
that was reached, and its root. Collections are the nodes themselves, so a collection
reached through several aliases is one collection, and one that holds itself is a cycle. -/
structure Document where
  nodes : Array Node
  values : Array (Option Value)
  root : Nat

namespace Document

/-- The value made of a scalar node; null for any other node. -/
def scalar (doc : Document) (number : Nat) : Value :=
  (doc.values[number]?.getD none).getD .null

/-- The tag of a node. -/
def tagOf (doc : Document) (number : Nat) : String :=
  (doc.nodes[number]?.map Node.tag).getD ""

/-- The entries of a mapping as the mapping made of it holds them: each key once, at the
place it first stands, with the last value given for it. -/
def dictEntries (doc : Document) (entries : List (Nat × Nat)) : List (Nat × Nat) :=
  entries.foldl (fun acc entry =>
    let key := doc.scalar entry.1
    if acc.any fun other => Value.sameKey (doc.scalar other.1) key then
      acc.map fun other => if Value.sameKey (doc.scalar other.1) key then (other.1, entry.2) else other
    else acc ++ [entry]) []

/-- The members of a set node, each once. -/
def setMembers (doc : Document) (entries : List (Nat × Nat)) : List Nat :=
  (entries.foldl (fun acc entry =>
    if acc.any fun other => Value.sameKey (doc.scalar other.1) (doc.scalar entry.1) then acc
    else acc ++ [entry]) []).map Prod.fst

/-- The key and value nodes of each pair of an ordered-pairs node. -/
def pairsOf (doc : Document) (items : List Nat) : List (Nat × Nat) :=
  items.filterMap fun item =>
    match doc.nodes[item]?.map Node.content with
    | some (.mapping [(key, value)]) => some (key, value)
    | _ => none

/-- What stands for a collection met again inside itself. -/
def cycleMark (doc : Document) (number : Nat) : String :=
  let tag := doc.tagOf number
  if tag = mapTag then "\x7b...\x7d" else if tag = coreTag "set" then "set(...)" else "[...]"

/-- A node's value written as it would be typed back in. A collection met again inside
itself (one of `path`, the collections being written around it) is written as `[...]`
or `{...}`; `fuel` bounds the depth, which the path keeps below the number of nodes. -/
def literal (doc : Document) : Nat → List Nat → Nat → String
  | 0, _, _ => "..."
  | fuel + 1, path, number =>
    match doc.values[number]?.getD none with
    | some value => value.literal
    | none =>
      if path.contains number then doc.cycleMark number
      else
        let inner := literal doc fuel (number :: path)
        let pair := fun (entry : Nat × Nat) => "(" ++ inner entry.1 ++ ", " ++ inner entry.2 ++ ")"
        match doc.nodes[number]? with
        | none => "None"
        | some node =>
          match node.content with
          | .sequence items =>
            if node.tag = seqTag then "[" ++ ", ".intercalate (items.map inner) ++ "]"
            else "[" ++ ", ".intercalate ((doc.pairsOf items).map pair) ++ "]"
          | .mapping entries =>
            if node.tag = coreTag "set" then
              match doc.setMembers entries with
              | [] => "set()"
              | members => "\x7b" ++ ", ".intercalate (members.map inner) ++ "\x7d"
            else
              "\x7b" ++ ", ".intercalate ((doc.dictEntries entries).map fun entry =>
                inner entry.1 ++ ": " ++ inner entry.2) ++ "\x7d"
          | .scalar _ => "None"

/-- A node's value written for a reader: texts, dates and points in time as themselves,
everything else as its literal. -/
def display (doc : Document) (number : Nat) : String :=
  match doc.values[number]?.getD none with
  | some value => value.display
  | none => doc.literal (doc.nodes.size + 2) [] number

/-- A pair of an ordered-pairs node written for a reader, as the literal of a pair. -/
def pairDisplay (doc : Document) (entry : Nat × Nat) : String :=
  let inner := doc.literal (doc.nodes.size + 2) []
  "(" ++ inner entry.1 ++ ", " ++ inner entry.2 ++ ")"

/-- The entries of the root when it makes a mapping. -/
def rootEntries? (doc : Document) : Option (List (Nat × Nat)) :=
  match doc.nodes[doc.root]? with
  | some node =>
    match node.content with
    | .mapping entries => if node.tag = mapTag then some (doc.dictEntries entries) else none
    | _ => none
  | none => none

/-- The value node under a text key among mapping entries. -/
def lookup (doc : Document) (entries : List (Nat × Nat)) (key : String) : Option Nat :=
  (entries.find? fun entry => Value.sameKey (doc.scalar entry.1) (.text key)).map Prod.snd

/-- Whether a node makes the absent value. -/
def isNull (doc : Document) (number : Nat) : Bool :=
  match doc.values[number]?.getD none with
  | some .null => true
  | _ => false

/-- The members of a node that makes a list, each written for a reader; none for any
other node. Ordered pairs make a list of pairs. -/
def listDisplay? (doc : Document) (number : Nat) : Option (List String) :=
  match doc.nodes[number]? with
  | some node =>
    match node.content with
    | .sequence items =>
      if node.tag = seqTag then some (items.map doc.display)
      else some ((doc.pairsOf items).map doc.pairDisplay)
    | _ => none
  | none => none

end Document

/-- The document of a graph, its values made. -/
def Graph.document (graph : Graph) : Except Problem Document :=
  let size := graph.nodes.size
  let start : Making := ⟨graph.nodes, Array.replicate size none, Array.replicate size false, []⟩
  match (do Make.reach graph.root; Make.rounds (size + 1)).run start with
  | .error problem => .error problem
  | .ok ((), made) => .ok ⟨made.nodes, made.values, graph.root⟩

/-- A reader of YAML texts: the one document of a text, none when there is none, or the
problem that stops it. -/
abbrev Loader := String → Except Problem (Option Document)

/-- The one document of a YAML text; none when there is none. -/
def load : Loader := fun text =>
  match Graph.ofText text with
  | .error problem => .error problem
  | .ok none => .ok none
  | .ok (some graph) => graph.document.map some

end DocIndex.Yaml
