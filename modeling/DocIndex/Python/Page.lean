import DocIndex.Disk.Path
import DocIndex.Python.Syntax
import DocIndex.Text.Docstring
import DocIndex.Document.Basic

/-!
# Python module pages

A name is public unless it starts with an underscore and does not end with one, so
`_private` is hidden while `__dunder__` and `trailing_` are kept. A module's dotted name is
its file path without the suffix, with the parts joined by dots; a package's `__init__`
file is named after its directory.

A module's page lists its public top-level functions under the category `Functions` and
its public classes under `Classes`, each category left out when empty. A class lists its
public methods. Definitions behind decorators count as the definitions themselves. A name
is documented once: the first definition of it wins, and functions and classes share the
names of a module. A block's documentation is its docstring: the string literal that forms
its first statement.
-/

namespace DocIndex.Python

open DocIndex.Document DocIndex.Disk DocIndex.Text

/-- Whether a Python name is public. -/
def isPublic (name : String) : Bool :=
  !(name.startsWith "_" && !name.endsWith "_")

/-- The dotted module name of a file path. -/
def moduleName (relativePath : String) : Except Failure String := do
  let bare ← (PurePath.parse relativePath).withoutSuffix
  let parts := bare.allParts
  let kept := if 1 < parts.length && parts.getLast? = some "__init__" then parts.dropLast
    else parts
  pure (Text.joinWith "." kept)

/-- The docstring of a block: its first statement, when that is a lone string literal. -/
def docstringOf (block : List Statement) : String :=
  match block with
  | .expression (some literal) :: _ => literalDoc literal
  | _ => ""

/-- The definitions directly in a block, decorators unwrapped, in order. -/
def definitionsOf (block : List Statement) : List Statement :=
  block.filterMap fun statement =>
    match statement with
    | .decorated inner =>
      match inner with
      | .function .. => some inner
      | .classDef .. => some inner
      | _ => none
    | .function .. => some statement
    | .classDef .. => some statement
    | _ => none

/-- The section of a public function, keyed below `parentKey`. -/
def functionSection (parentKey : List String) : Statement → Option Section
  | .function isAsync name parameters returns body =>
    if name.isEmpty || !isPublic name then none
    else
      let keyword := if isAsync then "async def" else "def"
      let label := keyword ++ " " ++ name ++ parameters ++
        (if returns.isEmpty then "" else " -> " ++ returns)
      some { id := name, shortLabel := name, label, detail := docstringOf body,
             searchKey := parentKey ++ [".", name] }
  | _ => none

/-- Keep the first section of each identifier, given the identifiers already taken. -/
def firstOfEach (taken : List String) : List Section → List Section
  | [] => []
  | first :: rest =>
    if taken.contains first.id then firstOfEach taken rest
    else first :: firstOfEach (first.id :: taken) rest

/-- The section of a public class with its public methods. -/
def classSection (moduleName : String) : Statement → Option Section
  | .classDef name bases body =>
    if name.isEmpty || !isPublic name then none
    else
      let methods := (definitionsOf body).filterMap (functionSection [moduleName, ".", name])
      some { id := name, shortLabel := name, label := "class " ++ name ++ bases,
             detail := docstringOf body, searchKey := [moduleName, ".", name],
             children := firstOfEach [] methods }
  | _ => none

/-- A top-level definition's section, tagged with whether it is a function. -/
def topSection (moduleName : String) (statement : Statement) : Option (Bool × Section) :=
  match statement with
  | .function .. => (functionSection [moduleName] statement).map fun s => (true, s)
  | .classDef .. => (classSection moduleName statement).map fun s => (false, s)
  | _ => none

/-- Keep the first tagged section of each identifier, given the identifiers taken. -/
def firstTagged (taken : List String) : List (Bool × Section) → List (Bool × Section)
  | [] => []
  | (tag, first) :: rest =>
    if taken.contains first.id then firstTagged taken rest
    else (tag, first) :: firstTagged (first.id :: taken) rest

/-- A category section holding some sections, none when there are none. -/
def category (id label : String) (children : List Section) : List Section :=
  if children.isEmpty then []
  else [{ id, shortLabel := id, label, role := .category, children }]

/-- The page of a module from its statements. -/
def modulePage (relativePath moduleName : String) (block : List Statement) : Page :=
  let sections := firstTagged [] ((definitionsOf block).filterMap (topSection moduleName))
  let functions := sections.filterMap fun (tag, s) => if tag then some s else none
  let classes := sections.filterMap fun (tag, s) => if tag then none else some s
  { path := relativePath, title := "Module " ++ moduleName, detail := docstringOf block,
    searchKey := [moduleName],
    sections := category "func" "Functions" functions ++ category "class" "Classes" classes }

end DocIndex.Python
