import DocIndex.Disk.Tree
import DocIndex.Disk.Path
import DocIndex.Text.Utf8
import DocIndex.Text.Basic
import DocIndex.Failure

/-!
# Go modules

A Go module names its import path in `go.mod`: the first line that starts with `module`,
then blanks (line ends included), then the path, which runs to the next blank. Quotes and
backquotes around the path are dropped. The file is read as UTF-8 text with line ends
normalized; a directory without `go.mod` has no module path, and a `go.mod` without the
directive cannot be used.
-/

namespace DocIndex.Go

open DocIndex.Disk DocIndex.Text

/-- Line ends normalized: a carriage return, alone or before a line feed, becomes a line
feed. -/
def normalizeLineEnds : List Char → List Char
  | [] => []
  | '\r' :: '\n' :: rest => '\n' :: normalizeLineEnds rest
  | '\r' :: rest => '\n' :: normalizeLineEnds rest
  | c :: rest => c :: normalizeLineEnds rest

/-- The module path a line beginning with `text` declares, if it does. -/
def directiveAt (text : List Char) : Option (List Char) :=
  if "module".toList.isPrefixOf text then
    let rest := text.drop 6
    let gap := rest.takeWhile isBlank
    let path := (rest.drop gap.length).takeWhile fun c => !isBlank c
    if gap.isEmpty || path.isEmpty then none else some path
  else none

/-- The first module directive at the start of the text or after a line feed. -/
def firstDirective : List Char → Option (List Char)
  | [] => directiveAt []
  | c :: rest =>
    match directiveAt (c :: rest) with
    | some path => some path
    | none => nextLine rest
where
  nextLine : List Char → Option (List Char)
    | [] => none
    | '\n' :: rest =>
      match directiveAt rest with
      | some path => some path
      | none => nextLine rest
    | _ :: rest => nextLine rest

/-- Drop quotes and backquotes at both ends of a module path. -/
def unquotePath (path : List Char) : String :=
  let isQuote := fun c => c = '"' || c = '\x60'
  String.ofList ((path.dropWhile isQuote).reverse.dropWhile isQuote).reverse

/-- The module path declared in the `go.mod` of a directory, none without one;
`location` is the directory's path, used in messages. -/
def readModulePath (location : String) (directory : Node) : Except Failure (Option String) :=
  let file := ((PurePath.parse location).child "go.mod").text
  match directory.find? ["go.mod"] with
  | some (.file content) =>
    match decodeStrict content with
    | .error problem => .error (.unparsable file ("invalid UTF-8: " ++ problem.message))
    | .ok text =>
      match firstDirective (normalizeLineEnds text.toList) with
      | some path => .ok (some (unquotePath path))
      | none => .error (.unparsable file "no module directive")
  | _ => .ok none

end DocIndex.Go
