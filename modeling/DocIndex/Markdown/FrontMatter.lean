import DocIndex.Yaml.Load
import DocIndex.Failure
import DocIndex.Text.Basic

/-!
# Front matter of Markdown pages

A Markdown page may open with a block of YAML between two `---` lines that describes it:
its title, a description and tags. `splitFrontMatter` reads that block and returns what
it says with the rest of the page.

The block is found by cutting the text at its first two occurrences of `---`, wherever
they stand, when the text starts with `---`. A YAML loader, given as a parameter, reads the
piece between them. When it reads a document that is a mapping, the mapping is the front
matter: `title` and `description` are
written as text whatever their kind (a missing or null one is absent), `tags` is kept
when it is a list, each tag written as text, and the body is the text after the second
`---` with its leading line feeds dropped. Otherwise the page has no front matter and
the body is the whole text. YAML that the loader finds not well-formed counts as no front
matter, but any other problem it reports, such as a value its tag cannot hold, is an error
of the page.
-/

namespace DocIndex.Markdown

open DocIndex.Data DocIndex.Text DocIndex.Yaml

/-- What the front matter of a page says. -/
structure FrontMatter where
  title : Option String := none
  description : Option String := none
  tags : Option (List String) := none
  present : Bool := false

/-- The failure a YAML problem that is not about well-formedness reports. -/
def problemFailure : Problem → Failure
  | .malformed reason => .badValue reason
  | .badValue message => .badValue message
  | .unknownTruthWord word => .noEntry word
  | .emptyNumber => .noPosition Problem.emptyNumber.message
  | .unmatchedTimestamp => .noAttribute Problem.unmatchedTimestamp.message
  | .timestampOfCollection kind => .badType (Problem.timestampOfCollection kind).message

/-- The front matter that the entries of a document's root mapping describe. -/
def FrontMatter.ofEntries (doc : Document) (entries : List (Nat × Nat)) : FrontMatter :=
  let written (key : String) : Option String :=
    match doc.lookup entries key with
    | none => none
    | some number => if doc.isNull number then none else some (doc.display number)
  { title := written "title"
    description := written "description"
    tags := (doc.lookup entries "tags").bind doc.listDisplay?
    present := true }

/-- Drop the line feeds at the start of a text. -/
def dropLeadingLineFeeds (text : String) : String :=
  String.ofList (text.toList.dropWhile (· = '\n'))

/-- Split a page into its front matter and its body, reading the block with `load`. -/
def splitFrontMatter (load : Loader) (content : String) :
    Except Failure (FrontMatter × String) :=
  let unchanged : Except Failure (FrontMatter × String) := .ok ({}, content)
  if !content.startsWith "---" then unchanged
  else
    match (splitOnLimit "---".toList content.toList 2).map String.ofList with
    | _ :: block :: rest :: _ =>
      match load block with
      | .ok (some doc) =>
        match doc.rootEntries? with
        | some entries => .ok (FrontMatter.ofEntries doc entries, dropLeadingLineFeeds rest)
        | none => unchanged
      | .ok none => unchanged
      | .error problem => if problem.isMalformed then unchanged else .error (problemFailure problem)
    | _ => unchanged

end DocIndex.Markdown
