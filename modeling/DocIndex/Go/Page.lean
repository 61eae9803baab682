import DocIndex.Text.Upper
import DocIndex.Go.Syntax
import DocIndex.Text.Docstring
import DocIndex.Document.Basic
import DocIndex.Disk.Path

/-!
# Go package pages

A Go name is exported when its first character is upper case.

The files of one directory form one package page. It lists the exported functions under
the category `Functions` and the exported types under `Types`, each type with the exported
methods declared on it; a category is left out when empty. The first declaration of a name
wins, across the package's files. A declaration is documented by the run of comments right
above it: comments on consecutive lines, the last ending on the line before the
declaration (or on its first line). The package's documentation is the first such comment
above a package clause, and its name the first package clause's.
-/

namespace DocIndex.Go

open DocIndex.Document DocIndex.Text

/-- Whether a Go name is exported. -/
def isExported (name : String) : Bool :=
  match name.toList with
  | c :: _ => Text.isUpper c
  | [] => false

/-- What has been collected for one package directory. -/
structure Package where
  directory : String
  name : String
  docs : String
  functions : List Section
  types : List Section
  methods : List (String × List Section)

/-- An empty package for a directory. -/
def Package.empty (directory : String) : Package :=
  ⟨directory, "", "", [], [], []⟩

/-- A function's label: `func`, the receiver if any, the name, the parameters and the
result. -/
def funcLabel (receiver name parameters result : String) : String :=
  "func " ++ (if receiver.isEmpty then "" else receiver ++ " ") ++ name ++ parameters ++
    (if result.isEmpty then "" else " " ++ result)

/-- The receiver's type name: its type text without leading stars and blanks and without
type arguments. -/
def receiverName (typeText : Option String) : String :=
  match typeText with
  | some text =>
    let bare := strip (String.ofList (text.toList.dropWhile (· = '*')))
    String.ofList (bare.toList.takeWhile (· != '['))
  | none => ""

/-- The label of a type spec. -/
def typeLabel (spec : TypeSpec) : String :=
  let kind := match spec.kind with
    | .structType => "struct"
    | .interfaceType => "interface"
    | .other text => text
    | .missing => ""
  stripEnd ("type " ++ spec.name ++ (if spec.isAlias then " = " else " ") ++ kind)

/-- Record the functions of a declaration. -/
def Package.addFunction (package : Package) (importPath docs name parameters result : String) :
    Package :=
  if !isExported name || package.functions.any (·.id == name) then package
  else
    { package with functions := package.functions ++
        [{ id := name, shortLabel := name, label := funcLabel "" name parameters result,
           detail := docs, searchKey := [importPath, ".", name] }] }

/-- Record a method declaration. -/
def Package.addMethod (package : Package) (importPath docs receiver : String)
    (receiverType : Option String) (name parameters result : String) : Package :=
  let owner := receiverName receiverType
  if !isExported name || !isExported owner then package
  else
    let known := (package.methods.lookup owner).getD []
    if known.any (·.id == name) then package
    else
      let method : Section :=
        { id := name, shortLabel := name, label := funcLabel receiver name parameters result,
          detail := docs, searchKey := [importPath, ".", owner, ".", name] }
      let methods := if (package.methods.lookup owner).isSome then
          package.methods.map fun (key, list) => if key == owner then (key, list ++ [method])
            else (key, list)
        else package.methods ++ [(owner, [method])]
      { package with methods }

/-- Record the specs of a type declaration. -/
def Package.addTypes (package : Package) (importPath docs : String) (specs : List TypeSpec) :
    Package :=
  specs.foldl (fun package spec =>
    if !isExported spec.name || package.types.any (·.id == spec.name) then package
    else
      { package with types := package.types ++
          [{ id := spec.name, shortLabel := spec.name, label := typeLabel spec, detail := docs,
             searchKey := [importPath, ".", spec.name] }] }) package

/-- Record one declaration with its documentation. -/
def Package.addDecl (package : Package) (importPath docs : String) : DeclKind → Package
  | .packageClause name =>
    let named := if package.name.isEmpty then { package with name := name.getD "" }
      else package
    if !docs.isEmpty && named.docs.isEmpty then { named with docs } else named
  | .function name parameters result =>
    package.addFunction importPath docs name parameters result
  | .method receiver receiverType name parameters result =>
    package.addMethod importPath docs receiver receiverType name parameters result
  | .typeDecl specs => package.addTypes importPath docs specs
  | _ => package

/-- Collect the declarations of one file, `pending` holding the run of comments above the
next declaration. -/
def Package.collect (importPath : String) (package : Package) (pending : List Decl) :
    List Decl → Package
  | [] => package
  | decl :: rest =>
    match decl.kind with
    | .comment _ =>
      let kept := match pending.getLast? with
        | some last => if last.endRow + 1 < decl.startRow then [] else pending
        | none => pending
      package.collect importPath (kept ++ [decl]) rest
    | kind =>
      let docs := match pending.getLast? with
        | some last =>
          if decl.startRow ≤ last.endRow + 1 then
            commentsDoc (pending.filterMap fun c => match c.kind with
              | .comment text => some text
              | _ => none)
          else ""
        | none => ""
      (package.addDecl importPath docs kind).collect importPath [] rest

/-- The page of a package. -/
def Package.page (package : Package) (importPath : String) : Page :=
  let types := package.types.map fun entry =>
    match package.methods.lookup entry.id with
    | some methods => if methods.isEmpty then entry else { entry with children := methods }
    | none => entry
  let category := fun (id label : String) (children : List Section) =>
    if children.isEmpty then [] else
      [({ id, shortLabel := id, label, role := .category, children } : Section)]
  let title := if package.name.isEmpty then
      (Disk.PurePath.parse importPath).name else package.name
  { path := package.directory, title := "Package " ++ title, detail := package.docs,
    searchKey := [importPath],
    sections := category "func" "Functions" package.functions ++
      category "type" "Types" types }

end DocIndex.Go
