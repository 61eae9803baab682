import DocIndex.Text.Basic
import DocIndex.Text.Case
import DocIndex.Text.Docstring
import DocIndex.Data.Show
import DocIndex.Failure

/-!
# Paths

A path is a root and a list of parts. Reading a path text collapses repeated slashes and
drops `.` parts; two leading slashes form a root of their own, and three or more count as
one. The empty path is written `.`. Names, suffixes and stems are read off the last part:
the suffix starts at the last dot of the name, unless that dot begins or ends it.
-/

namespace DocIndex.Disk

open DocIndex.Text

/-- A path: its root (empty, `/` or `//`) and its parts, none empty or `.`. -/
structure PurePath where
  root : String
  parts : List String
  deriving DecidableEq, Repr

namespace PurePath

/-- Read a path text. -/
def parse (text : String) : PurePath :=
  let chars := text.toList
  let slashes := (chars.takeWhile (· = '/')).length
  let root := if slashes = 0 then "" else if slashes = 2 then "//" else "/"
  let parts := (splitOnChar '/' (chars.drop slashes)).filter fun part =>
    !part.isEmpty && part != ['.']
  ⟨root, parts.map String.ofList⟩

/-- A path as text; the empty path is `.`. -/
def text (path : PurePath) : String :=
  if path.root.isEmpty && path.parts.isEmpty then "."
  else path.root ++ joinWith "/" path.parts

/-- The root, if any, followed by the parts. -/
def allParts (path : PurePath) : List String :=
  (if path.root.isEmpty then [] else [path.root]) ++ path.parts

/-- The last part, or the empty text when there are no parts. -/
def name (path : PurePath) : String :=
  path.parts.getLastD ""

/-- The suffix of a name: from its last dot, when that dot neither begins nor ends it. -/
def suffixOf (name : String) : String :=
  let chars := name.toList
  match ((List.range chars.length).filter fun i => chars[i]? = some '.').getLast? with
  | some i => if 0 < i ∧ i + 1 < chars.length then String.ofList (chars.drop i) else ""
  | none => ""

/-- The suffix of the last part. -/
def suffix (path : PurePath) : String :=
  suffixOf path.name

/-- The last part without its suffix. -/
def stem (path : PurePath) : String :=
  let name := path.name
  String.ofList (name.toList.take (name.length - (suffixOf name).length))

/-- The path without its last part; a path without parts is its own parent. -/
def parent (path : PurePath) : PurePath :=
  ⟨path.root, path.parts.dropLast⟩

/-- A part appended. -/
def child (path : PurePath) (part : String) : PurePath :=
  ⟨path.root, path.parts ++ [part]⟩

/-- The path with its last part's suffix removed; a path without a name has none to
remove. -/
def withoutSuffix (path : PurePath) : Except Failure PurePath :=
  if path.name.isEmpty then
    .error (.badValue ("PosixPath(" ++ Data.quoteText path.text ++ ") has an empty name"))
  else
    .ok ⟨path.root, path.parts.dropLast ++ [path.stem]⟩

end PurePath

/-- The extension of a file name: its suffix, lower-cased, without leading dots. -/
def fileExtension (name : String) : String :=
  String.ofList ((lower (PurePath.parse name).suffix).toList.dropWhile (· = '.'))

end DocIndex.Disk
