import DocIndex.Proofs.Extract.Go
import DocIndex.Proofs.Extract.PythonPages

/-!
# The pages of the Go reader

A Go file is a list of top-level nodes, comments among them. A declaration is documented by
the comments right above it: reading up from the declaration, the comments in a row, each
ending at most one line above the one below it, the lowest ending at most one line above the
declaration (`commentRun`, `docsBefore`). A file's declarations, each with its
documentation, are `documented`.

The files of one directory form one package, and the declarations of the package are those
of its files in walk order, each file in source order. Its page lists the exported functions
and the exported types, the first declaration of each name winning, as the standard
library's `List.eraseDupsBy` keeps them; each type holds the exported methods declared on it,
the first of each name, where a method is declared on the type its receiver names once
stars and type arguments are stripped. A method whose receiver names no exported type of the
package is on no page.

The reader collects a package in one pass: a pending run of comments, reset by a gap or by
any other node, and lists of functions, types and methods per receiver, each added to only
when the name is new. `Package.collect_commentRun` says the pass adds each documented
declaration in turn, and the list lemmas below say what the lists hold after all of them.
The main statement, `go_pages_group_first_declarations`, says this of every page of the
index the Go reader makes, whatever its parser reads in a file, the pages coming in the order
the walk first reaches each package directory.
-/

namespace DocIndex.Go

open DocIndex.Document DocIndex.Disk DocIndex.Search DocIndex.Extract DocIndex.Text

/-! ## Documentation comments -/

/-- Whether a node is a comment. -/
def Decl.isComment (decl : Decl) : Bool :=
  match decl.kind with
  | .comment _ => true
  | _ => false

/-- The comments met reading up from a node through the nodes above it, nearest first: each
is taken while it is a comment that ends at most one line above the comment taken before it
(`below`). -/
def runUp (below : Option Decl) : List Decl → List Decl
  | [] => []
  | decl :: above =>
    if decl.isComment && below.all (fun lower => lower.startRow ≤ decl.endRow + 1) then
      decl :: runUp (some decl) above
    else []

/-- The run of comments right above a node, top-down, given the nodes `before` it. -/
def commentRun (before : List Decl) : List Decl :=
  (runUp none before.reverse).reverse

/-- The texts of comments. -/
def commentTexts (comments : List Decl) : List String :=
  comments.filterMap fun comment =>
    match comment.kind with
    | .comment text => some text
    | _ => none

/-- The documentation of a node given the nodes `before` it: the text of the run of comments
right above it, when the lowest of them ends at most one line above the node. -/
def docsBefore (before : List Decl) (decl : Decl) : String :=
  match (commentRun before).getLast? with
  | some last =>
    if decl.startRow ≤ last.endRow + 1 then commentsDoc (commentTexts (commentRun before)) else ""
  | none => ""

/-- The declarations among `decls`, in order, each with its documentation, `before` holding
the nodes above them. -/
def documentedAfter (before : List Decl) : List Decl → List (DeclKind × String)
  | [] => []
  | decl :: rest =>
    if decl.isComment then documentedAfter (before ++ [decl]) rest
    else (decl.kind, docsBefore before decl) :: documentedAfter (before ++ [decl]) rest

/-- The declarations of a file, in order, each with its documentation. -/
def documented (decls : List Decl) : List (DeclKind × String) :=
  documentedAfter [] decls

/-- A node below a comment run that is no comment ends the run. -/
theorem commentRun_append_of_not_comment {before : List Decl} {decl : Decl}
    (notComment : decl.isComment = false) : commentRun (before ++ [decl]) = [] := by
  simp [commentRun, runUp, notComment]

/-- A comment below a run extends it when it starts at most one line below the run's end,
and starts a new run otherwise. -/
theorem commentRun_append_comment {before : List Decl} {decl : Decl}
    (comment : decl.isComment = true) :
    commentRun (before ++ [decl]) =
      (if (commentRun before).getLast?.all (fun last => decl.startRow ≤ last.endRow + 1) then
        commentRun before else []) ++ [decl] := by
  have reversed : (before ++ [decl]).reverse = decl :: before.reverse := by simp
  rw [commentRun, reversed, commentRun]
  generalize before.reverse = above
  cases above with
  | nil => simp [runUp, comment]
  | cons nearest rest =>
    by_cases nearComment : nearest.isComment = true
    · by_cases adjacent : decl.startRow ≤ nearest.endRow + 1 <;>
        simp [runUp, comment, nearComment, adjacent]
    · simp [runUp, comment, nearComment]

/-! ## Collecting a file -/

/-- The package after adding a run of documented declarations. -/
def Package.addAll (package : Package) (importPath : String)
    (stream : List (DeclKind × String)) : Package :=
  stream.foldl (fun package entry => package.addDecl importPath entry.2 entry.1) package

/-- Collecting a file's nodes adds its declarations one by one, each with its documentation,
when the pending comments are the run right above the nodes left. -/
theorem Package.collect_commentRun (importPath : String) :
    ∀ (decls before : List Decl) (package : Package),
      package.collect importPath (commentRun before) decls =
        package.addAll importPath (documentedAfter before decls)
  | [], _, _ => rfl
  | decl :: rest, before, package => by
    rw [Package.collect, documentedAfter]
    split
    · -- a comment joins the pending run, or starts a new one after a gap
      rename_i text kind
      have comment : decl.isComment = true := by simp [Decl.isComment, kind]
      rw [if_pos comment, ← Package.collect_commentRun importPath rest (before ++ [decl]) package,
        commentRun_append_comment comment]
      dsimp only
      congr 2
      cases (commentRun before).getLast? with
      | none => rfl
      | some last =>
        by_cases gap : last.endRow + 1 < decl.startRow
        · simp [gap]
        · simp [gap, Nat.le_of_not_lt gap]
    · -- another node takes the pending run as its documentation and ends the run
      rename_i kind notComment
      have other : decl.isComment = false := by
        unfold Decl.isComment
        split <;> simp_all
      rw [if_neg (by simp [other]), Package.addAll, List.foldl_cons, ← Package.addAll,
        ← Package.collect_commentRun importPath rest (before ++ [decl]),
        commentRun_append_of_not_comment other]
      rfl

/-- Collecting a file from no pending comments adds its documented declarations. -/
theorem Package.collect_eq_addAll (package : Package) (importPath : String)
    (decls : List Decl) :
    package.collect importPath [] decls = package.addAll importPath (documented decls) :=
  Package.collect_commentRun importPath decls [] package

/-! ## The first of each name -/

/-- A list of sections with one more put last, unless one of them already has its name. -/
def addNew (entries : List Section) (entry : Section) : List Section :=
  if entries.any (·.id == entry.id) then entries else entries ++ [entry]

/-- Adding sections one by one, each only when its name is new, puts last the first section
of each name that the list did not have. -/
theorem foldl_addNew : ∀ (news entries : List Section),
    news.foldl addNew entries =
      entries ++ (news.filter fun n => !entries.any (·.id == n.id)).eraseDupsBy
        fun a b => a.id == b.id
  | [], entries => by simp
  | entry :: rest, entries => by
    rw [List.foldl_cons, foldl_addNew rest]
    by_cases taken : entries.any (·.id == entry.id) = true
    · rw [List.filter_cons_of_neg (by simp [taken])]
      simp only [addNew, taken, if_true]
    · rw [List.filter_cons_of_pos (by simpa using taken), List.eraseDupsBy_cons,
        List.filter_filter]
      simp only [addNew, taken, Bool.false_eq_true, if_false, List.append_assoc,
        List.singleton_append]
      congr 3
      apply List.filter_congr
      intro other _
      by_cases same : other.id = entry.id
      · simp [same]
      · simp [same, Ne.symm same]

theorem foldl_addNew_nil (news : List Section) :
    news.foldl addNew [] = news.eraseDupsBy fun a b => a.id == b.id := by
  simp [foldl_addNew]

/-! ## What one declaration records -/

/-- The function a documented declaration records: an exported function, under its name. -/
def functionEntries (importPath : String) : DeclKind × String → List Section
  | (.function name parameters result, docs) =>
    if isExported name then
      [{ id := name, shortLabel := name, label := funcLabel "" name parameters result,
         detail := docs, searchKey := [importPath, ".", name] }]
    else []
  | _ => []

/-- The section of a type spec. -/
def typeEntry (importPath docs : String) (spec : TypeSpec) : Section :=
  { id := spec.name, shortLabel := spec.name, label := typeLabel spec, detail := docs,
    searchKey := [importPath, ".", spec.name] }

/-- The types a documented declaration records: the exported specs of a type declaration. -/
def typeEntries (importPath : String) : DeclKind × String → List Section
  | (.typeDecl specs, docs) =>
    (specs.filter fun spec => isExported spec.name).map (typeEntry importPath docs)
  | _ => []

/-- The methods a documented declaration records on the type named `owner`: an exported
method whose receiver names that type, when that name is exported. -/
def methodEntries (importPath owner : String) : DeclKind × String → List Section
  | (.method receiver receiverType name parameters result, docs) =>
    if receiverName receiverType = owner ∧ isExported name ∧ isExported owner then
      [{ id := name, shortLabel := name, label := funcLabel receiver name parameters result,
         detail := docs, searchKey := [importPath, ".", owner, ".", name] }]
    else []
  | _ => []

/-- The methods collected on a receiver type. -/
def Package.methodsOn (package : Package) (owner : String) : List Section :=
  (package.methods.lookup owner).getD []

theorem Package.addTypes_eq (package : Package) (importPath docs : String)
    (specs : List TypeSpec) :
    package.addTypes importPath docs specs =
      { package with
        types := ((specs.filter fun spec => isExported spec.name).map
          (typeEntry importPath docs)).foldl addNew package.types } := by
  unfold Package.addTypes
  induction specs generalizing package with
  | nil => rfl
  | cons spec rest ih =>
    rw [List.foldl_cons, ih]
    by_cases exported : isExported spec.name = true
    · by_cases taken : package.types.any (·.id == spec.name) = true
      · simp [exported, taken, addNew, typeEntry]
      · simp [exported, taken, addNew, typeEntry]
    · simp [exported]

/-- Looking up a key in a list of pairs whose values are changed in place, keys kept, finds
the changed value of what the list had under the key. -/
theorem lookup_map_of_keys {β : Type} (f : String × β → String × β)
    (keeps : ∀ entry, (f entry).1 = entry.1) (key : String) :
    ∀ entries : List (String × β),
      (entries.map f).lookup key = (entries.lookup key).map fun value => (f (key, value)).2
  | [] => rfl
  | (first, value) :: rest => by
    have pair : f (first, value) = (first, (f (first, value)).2) := Prod.ext (keeps _) rfl
    rw [List.map_cons, pair, List.lookup_cons, List.lookup_cons]
    by_cases same : key = first
    · subst same
      simp
    · have differ : (key == first) = false := beq_false_of_ne same
      simp only [differ]
      exact lookup_map_of_keys f keeps key rest

theorem Package.addMethod_methodsOn (package : Package)
    (importPath docs receiver : String) (receiverType : Option String)
    (name parameters result owner : String) :
    (package.addMethod importPath docs receiver receiverType name parameters result).methodsOn
        owner =
      (methodEntries importPath owner
        (.method receiver receiverType name parameters result, docs)).foldl addNew
          (package.methodsOn owner) := by
  unfold Package.addMethod methodEntries
  dsimp only
  by_cases listed : isExported name = true ∧ isExported (receiverName receiverType) = true
  · have recorded : (!isExported name || !isExported (receiverName receiverType)) = false := by
      simp [listed.1, listed.2]
    simp only [recorded, Bool.false_eq_true, if_false]
    by_cases mine : receiverName receiverType = owner
    · -- a method on `owner` joins its list unless the list has its name
      subst mine
      simp only [listed, and_self, if_true, List.foldl_cons, List.foldl_nil, addNew,
        Package.methodsOn]
      split
      · rfl
      split
      · rename_i known
        obtain ⟨list, found⟩ := Option.isSome_iff_exists.mp known
        rw [lookup_map_of_keys _ (fun _ => by split <;> rfl), found]
        simp
      · rename_i unknown
        simp [List.lookup_append, Option.not_isSome_iff_eq_none.mp unknown]
    · -- a method on another type leaves `owner`'s list as it is
      have other : ¬ (receiverName receiverType = owner ∧ isExported name = true ∧
          isExported owner = true) := fun chosen => mine chosen.1
      simp only [other, if_false, List.foldl_nil, Package.methodsOn]
      split
      · rfl
      split
      · rw [lookup_map_of_keys _ (fun _ => by split <;> rfl)]
        simp [Ne.symm mine]
      · have differ : (owner == receiverName receiverType) = false := beq_false_of_ne (Ne.symm mine)
        simp [List.lookup_append, List.lookup_cons, differ]
  · -- a method or a receiver type not exported is not recorded, on any type
    have ignored : (!isExported name || !isExported (receiverName receiverType)) = true := by
      rcases not_and_or.mp listed with hidden | hidden <;> simp [hidden]
    have notListed : ¬ (receiverName receiverType = owner ∧ isExported name = true ∧
        isExported owner = true) := fun ⟨same, exported, ownerExported⟩ =>
      listed ⟨exported, by rw [same]; exact ownerExported⟩
    simp only [ignored, notListed, if_true, if_false, List.foldl_nil]

/-- A declaration adds its exported function to the functions, when the name is new. -/
theorem Package.addDecl_functions (package : Package) (importPath docs : String)
    (kind : DeclKind) :
    (package.addDecl importPath docs kind).functions =
      (functionEntries importPath (kind, docs)).foldl addNew package.functions := by
  cases kind with
  | packageClause _ =>
    simp only [Package.addDecl]
    split <;> split <;> rfl
  | function name parameters result =>
    simp only [Package.addDecl, Package.addFunction, functionEntries]
    by_cases exported : isExported name = true
    · by_cases taken : package.functions.any (·.id == name) = true
      · simp [exported, taken, addNew]
      · simp [exported, taken, addNew]
    · simp [exported]
  | method receiver receiverType name parameters result =>
    simp only [Package.addDecl, Package.addMethod]
    split
    · rfl
    split <;> rfl
  | typeDecl specs =>
    rw [Package.addDecl, Package.addTypes_eq]
    rfl
  | comment _ | other => rfl

/-- A declaration adds its exported type specs to the types, each when the name is new. -/
theorem Package.addDecl_types (package : Package) (importPath docs : String)
    (kind : DeclKind) :
    (package.addDecl importPath docs kind).types =
      (typeEntries importPath (kind, docs)).foldl addNew package.types := by
  cases kind with
  | packageClause _ =>
    simp only [Package.addDecl]
    split <;> split <;> rfl
  | function name parameters result =>
    simp only [Package.addDecl, Package.addFunction]
    split <;> rfl
  | method receiver receiverType name parameters result =>
    simp only [Package.addDecl, Package.addMethod]
    split
    · rfl
    split <;> rfl
  | typeDecl specs =>
    rw [Package.addDecl, Package.addTypes_eq]
    rfl
  | comment _ | other => rfl

/-- A declaration adds its exported method to the methods of the type its receiver names,
when the name is new there. -/
theorem Package.addDecl_methodsOn (package : Package) (importPath docs : String)
    (kind : DeclKind) (owner : String) :
    (package.addDecl importPath docs kind).methodsOn owner =
      (methodEntries importPath owner (kind, docs)).foldl addNew (package.methodsOn owner) := by
  cases kind with
  | packageClause _ =>
    simp only [Package.addDecl]
    split <;> split <;> rfl
  | function name parameters result =>
    simp only [Package.addDecl, Package.addFunction]
    split <;> rfl
  | method receiver receiverType name parameters result =>
    exact package.addMethod_methodsOn importPath docs receiver receiverType name parameters
      result owner
  | typeDecl specs =>
    rw [Package.addDecl, Package.addTypes_eq]
    rfl
  | comment _ | other => rfl

/-! ## A run of declarations -/

/-- A list of a package that each declaration extends by some sections, each put last when
its name is new, is after a run of declarations extended by all their sections that way. -/
theorem Package.addAll_view (view : Package → List Section)
    (entries : DeclKind × String → List Section) (importPath : String)
    (step : ∀ package docs kind,
      view (package.addDecl importPath docs kind) = (entries (kind, docs)).foldl addNew (view package)) :
    ∀ (stream : List (DeclKind × String)) (package : Package),
      view (package.addAll importPath stream) = (stream.flatMap entries).foldl addNew (view package)
  | [], _ => rfl
  | (kind, docs) :: rest, package => by
    rw [Package.addAll, List.foldl_cons, ← Package.addAll,
      Package.addAll_view view entries importPath step rest, step, List.flatMap_cons,
      List.foldl_append]

@[simp] theorem Package.addAll_nil (package : Package) (importPath : String) :
    package.addAll importPath [] = package := rfl

theorem Package.addAll_append (package : Package) (importPath : String)
    (front back : List (DeclKind × String)) :
    package.addAll importPath (front ++ back) =
      (package.addAll importPath front).addAll importPath back :=
  List.foldl_append

theorem Package.addAll_directory (package : Package) (importPath : String) :
    ∀ stream, (package.addAll importPath stream).directory = package.directory
  | [] => rfl
  | (kind, docs) :: rest => by
    rw [Package.addAll, List.foldl_cons, ← Package.addAll, Package.addAll_directory _ _ rest,
      Package.addDecl_directory]

/-! ## Packages -/

section Parsed

variable {parse : List UInt8 → List Decl}

/-- The documented declarations of the files of a directory as `parse` reads them, file after
file. -/
def packageStream (parse : List UInt8 → List Decl) (files : List SourceFile) (directory : String) :
    List (DeclKind × String) :=
  (files.filter fun file => packageDirectory file.relativePath == directory).flatMap fun file =>
    documented (parse file.content)

/-- The package of a directory made of some files. -/
def packageOf (parse : List UInt8 → List Decl) (base : String) (files : List SourceFile) (directory : String) : Package :=
  (Package.empty directory).addAll (importPath base directory) (packageStream parse files directory)

theorem packageOf_directory (base : String) (files : List SourceFile) (directory : String) :
    (packageOf parse base files directory).directory = directory :=
  Package.addAll_directory _ _ _

theorem packageStream_append_file (files : List SourceFile) (file : SourceFile)
    (directory : String) :
    packageStream parse (files ++ [file]) directory =
      packageStream parse files directory ++
        if packageDirectory file.relativePath = directory then
          documented (parse file.content)
        else [] := by
  unfold packageStream
  by_cases here : packageDirectory file.relativePath = directory <;> simp [here]

theorem packageStream_of_not_mem {files : List SourceFile} {directory : String}
    (unseen : directory ∉ files.map fun file => packageDirectory file.relativePath) :
    packageStream parse files directory = [] := by
  unfold packageStream
  rw [List.filter_eq_nil_iff.mpr fun file member same =>
    unseen (List.mem_map.mpr ⟨file, member, by simpa using same⟩)]
  rfl

/-- One more file adds its declarations to the package of its own directory and to no
other. -/
theorem packageOf_append_file (base : String) (files : List SourceFile) (file : SourceFile)
    (directory : String) :
    packageOf parse base (files ++ [file]) directory =
      if packageDirectory file.relativePath = directory then
        (packageOf parse base files directory).addAll (importPath base directory)
          (documented (parse file.content))
      else packageOf parse base files directory := by
  unfold packageOf
  rw [packageStream_append_file, Package.addAll_append]
  split <;> rfl

/-- Among the packages of some directories there is one of a directory exactly when it is one
of them. -/
theorem any_packageOf_directory (base : String) (files : List SourceFile)
    (directories : List String) (directory : String) :
    (directories.map (packageOf parse base files)).any (·.directory == directory) =
      decide (directory ∈ directories) := by
  rw [Bool.eq_iff_iff, List.any_map, List.any_eq_true, decide_eq_true_iff]
  constructor
  · rintro ⟨other, member, same⟩
    rw [Function.comp_apply, packageOf_directory, beq_iff_eq] at same
    exact same ▸ member
  · intro member
    exact ⟨directory, member, by simp [packageOf_directory]⟩

/-- Adding files one by one keeps one package per directory, in the order the walk first
reaches the directories, each holding what the files of its directory declare. -/
theorem foldl_addFile (base : String) (files : List SourceFile) :
    files.foldl (addFile parse base) [] =
      (files.map fun file => packageDirectory file.relativePath).eraseDups.map
        (packageOf parse base files) := by
  induction files using List.reverseRecOn with
  | nil => rfl
  | append_singleton files file ih =>
    rw [List.foldl_append, List.foldl_cons, List.foldl_nil, ih, addFile,
      any_packageOf_directory, List.map_append, List.map_singleton, List.eraseDups_append]
    by_cases member : packageDirectory file.relativePath ∈
        files.map fun file => packageDirectory file.relativePath
    · -- an earlier file lies in the directory: the file's declarations join that package
      have known : [packageDirectory file.relativePath].removeAll
          (files.map fun file => packageDirectory file.relativePath) = [] := by
        simpa [List.removeAll] using member
      rw [if_pos (decide_eq_true (List.mem_eraseDups.mpr member)), known, List.eraseDups_nil,
        List.append_nil, List.map_map]
      apply List.map_congr_left
      intro directory _
      simp only [Function.comp, packageOf_directory, packageOf_append_file,
        Package.collect_eq_addAll]
      by_cases same : packageDirectory file.relativePath = directory
      · simp [same]
      · simp [same, Ne.symm same]
    · -- the directory is new: it gets a package of its own, put last
      have fresh : [packageDirectory file.relativePath].removeAll
          (files.map fun file => packageDirectory file.relativePath) =
          [packageDirectory file.relativePath] := by
        simpa [List.removeAll] using member
      rw [if_neg (by simpa only [decide_eq_true_iff, List.mem_eraseDups] using member), fresh,
        List.map_append]
      congr 1
      · apply List.map_congr_left
        intro directory inDirs
        have other : packageDirectory file.relativePath ≠ directory := fun same =>
          member (same ▸ List.mem_eraseDups.mp inDirs)
        rw [packageOf_append_file, if_neg other]
      · rw [List.eraseDups_cons, List.filter_nil, List.eraseDups_nil, List.map_singleton,
          packageOf_append_file, if_pos rfl, packageOf, packageStream_of_not_mem member,
          Package.addAll_nil, Package.collect_eq_addAll]

/-! ## Pages -/

/-- The functions a page lists for a run of documented declarations: the first exported
function of each name. -/
def firstFunctions (importPath : String) (stream : List (DeclKind × String)) : List Section :=
  (stream.flatMap (functionEntries importPath)).eraseDupsBy fun a b => a.id == b.id

/-- The types a page lists for a run of documented declarations: the first exported type of
each name. -/
def firstTypes (importPath : String) (stream : List (DeclKind × String)) : List Section :=
  (stream.flatMap (typeEntries importPath)).eraseDupsBy fun a b => a.id == b.id

/-- The methods a page lists on the type named `owner`: the first exported method of each
name declared on it. -/
def firstMethods (importPath : String) (stream : List (DeclKind × String)) (owner : String) :
    List Section :=
  (stream.flatMap (methodEntries importPath owner)).eraseDupsBy fun a b => a.id == b.id

/-- What a package page lists for a run of documented declarations: under `Functions` the
first exported function of each name, under `Types` the first exported type of each name
holding the first exported method of each name declared on it, a category left out when
empty. -/
structure ListsFirstDeclarations (importPath : String) (stream : List (DeclKind × String))
    (page : Page) : Prop where
  key : page.searchKey = [importPath]
  sections : page.sections =
    Python.category "func" "Functions" (firstFunctions importPath stream) ++
      Python.category "type" "Types" ((firstTypes importPath stream).map fun entry =>
        { entry with children := firstMethods importPath stream entry.id })

theorem Package.addAll_empty_functions (directory importPath : String)
    (stream : List (DeclKind × String)) :
    ((Package.empty directory).addAll importPath stream).functions =
      firstFunctions importPath stream := by
  rw [Package.addAll_view Package.functions (functionEntries importPath) importPath
    (fun package docs kind => package.addDecl_functions importPath docs kind)]
  exact foldl_addNew_nil _

theorem Package.addAll_empty_types (directory importPath : String)
    (stream : List (DeclKind × String)) :
    ((Package.empty directory).addAll importPath stream).types =
      firstTypes importPath stream := by
  rw [Package.addAll_view Package.types (typeEntries importPath) importPath
    (fun package docs kind => package.addDecl_types importPath docs kind)]
  exact foldl_addNew_nil _

theorem Package.addAll_empty_methodsOn (directory importPath : String)
    (stream : List (DeclKind × String)) (owner : String) :
    ((Package.empty directory).addAll importPath stream).methodsOn owner =
      firstMethods importPath stream owner := by
  rw [Package.addAll_view (Package.methodsOn · owner) (methodEntries importPath owner) importPath
    (fun package docs kind => package.addDecl_methodsOn importPath docs kind owner)]
  exact foldl_addNew_nil _

/-- A type's section has nothing below it until its methods are put there. -/
theorem childless_of_mem_firstTypes {importPath : String} {stream : List (DeclKind × String)}
    {entry : Section} (member : entry ∈ firstTypes importPath stream) : entry.children = [] := by
  obtain ⟨⟨kind, docs⟩, -, made⟩ :=
    List.mem_flatMap.mp ((Python.eraseDupsBy_sublist _ _).subset member)
  cases kind <;> simp only [typeEntries, List.not_mem_nil] at made
  obtain ⟨spec, -, rfl⟩ := List.mem_map.mp made
  rfl

/-- A page puts below each type the methods collected on it. -/
theorem Package.page_sections (package : Package) (importPath : String)
    (childless : ∀ entry ∈ package.types, entry.children = []) :
    (package.page importPath).sections =
      Python.category "func" "Functions" package.functions ++
        Python.category "type" "Types" (package.types.map fun entry =>
          { entry with children := package.methodsOn entry.id }) := by
  unfold Package.page
  dsimp only
  show Python.category "func" "Functions" package.functions ++
    Python.category "type" "Types" _ = _
  congr 2
  apply List.map_congr_left
  intro entry member
  unfold Package.methodsOn
  split
  · rename_i methods found
    rw [found, Option.getD_some]
    split
    · rename_i empty
      rw [List.isEmpty_iff.mp empty, ← childless entry member]
      -- sections nest, so a section is its fields put back together only case by case
      cases entry
      rfl
    · rfl
  · rename_i found
    rw [found, Option.getD_none, ← childless entry member]
    cases entry
    rfl

/-- The page of a directory's package lists the first declarations of its files. -/
theorem packageOf_page (base : String) (files : List SourceFile) (directory : String) :
    ListsFirstDeclarations (importPath base directory) (packageStream parse files directory)
      ((packageOf parse base files directory).page (importPath base directory)) where
  key := rfl
  sections := by
    unfold packageOf
    rw [Package.page_sections _ _ fun entry member => childless_of_mem_firstTypes
        (by rwa [Package.addAll_empty_types] at member),
      Package.addAll_empty_functions, Package.addAll_empty_types]
    simp only [Package.addAll_empty_methodsOn]

/-- The pages of the packages made of some files: one per directory, in the order the files
first reach it, each listing the first declarations of the directory's files. -/
theorem pages_foldl_addFile (base : String) (files : List SourceFile) :
    ((files.foldl (addFile parse base) []).map fun package =>
        package.page (importPath base package.directory)).map Page.path =
      (files.map fun file => packageDirectory file.relativePath).eraseDups ∧
    ∀ page ∈ (files.foldl (addFile parse base) []).map (fun package =>
        package.page (importPath base package.directory)),
      ListsFirstDeclarations (importPath base page.path) (packageStream parse files page.path) page := by
  simp only [foldl_addFile, List.map_map]
  constructor
  · apply List.map_id''
    intro directory
    exact packageOf_directory base files directory
  · intro page member
    obtain ⟨directory, -, rfl⟩ := List.mem_map.mp member
    have path : ((packageOf parse base files directory).page (importPath base directory)).path =
        directory := packageOf_directory base files directory
    simp only [Function.comp_apply, packageOf_directory, path]
    exact packageOf_page base files directory

/-! ## The index -/

/-- Whether the Go reader takes a file: a `.go` file that is no test file, by its name or by
a `testdata` directory on its path. -/
def isGoSource (file : SourceFile) : Bool :=
  file.extension == "go" && !(PurePath.parse file.relativePath).name.endsWith "_test.go" &&
    !(PurePath.parse file.relativePath).allParts.contains "testdata"

theorem accepts_eq_isGoSource (file : SourceFile) :
    goExtractor.accepts file.relativePath (some file.extension) = isGoSource file := by
  simp [Extractor.accepts, goExtractor, isGoTestPath, isGoSource, Bool.and_assoc]
  rfl

/-- What import paths start with: the module path, or the root directory's name when there
is none. -/
def importBase (name : String) : Option String → String
  | some path => if path.isEmpty then name else path
  | none => name

/-- Whatever declarations its parser reads in each file, the Go index of a tree has one page per
directory holding accepted files, in the order the walk first reaches them, each found by its import path and listing the first exported
function of each name and the first exported type of each name with the first exported
method of each name declared on it, each documented by the comments right above it. -/
theorem go_pages_group_first_declarations {halt : Halt} {location name : String} {root : Node}
    {index : Index} (made : indexDirectory parse halt location name root = .ok index) :
    ∃ modulePath files, readModulePath location root = .ok modulePath ∧
      walk halt root = .ok files ∧
      ∃ pages, index.libraries =
          [{ name := importBase name modulePath, id := importBase name modulePath, pages }] ∧
        pages.map Page.path =
          ((files.filter isGoSource).map fun file => packageDirectory file.relativePath).eraseDups ∧
        ∀ page ∈ pages, ListsFirstDeclarations (importPath (importBase name modulePath) page.path)
          (packageStream parse (files.filter isGoSource) page.path) page := by
  unfold indexDirectory at made
  obtain ⟨modulePath, read, made⟩ := bind_eq_ok made
  obtain ⟨files, walked, made⟩ := bind_eq_ok made
  obtain ⟨_, -, made⟩ := bind_eq_ok made
  cases made
  have accepted : (files.filter fun file =>
      goExtractor.accepts file.relativePath (some file.extension)) = files.filter isGoSource :=
    List.filter_congr fun file _ => accepts_eq_isGoSource file
  refine ⟨modulePath, files, read, walked, _, rfl, ?_⟩
  rw [accepted]
  exact pages_foldl_addFile (importBase name modulePath) (files.filter isGoSource)

end Parsed

/-- One Go file at the root of a tree without a module file, read as declaring nothing, makes
one page at the root, found by the root directory's name. -/
theorem root_package_keyed_by_name :
    ∃ index, indexDirectory (fun _ => []) none "proj" "proj" (.dir [("a.go", .file [])]) = .ok index ∧
      ∃ page, index.libraries = [{ name := "proj", id := "proj", pages := [page] }] ∧
        page.path = "." ∧ page.searchKey = ["proj"] := by
  have extension : fileExtension "a.go" = "go" := by decide +kernel
  have accepted : goExtractor.accepts "a.go" (some "go") = true := by decide +kernel
  have noModule : readModulePath "proj" (.dir [("a.go", .file [])]) = .ok none := rfl
  have walked : walk none (.dir [("a.go", .file [])]) = .ok [⟨"a.go", "go", 0, []⟩] := by
    simp [walk, walkNode, walkEntries, walkEntry, filesOf, isHidden, Search.checkpoint, bind,
      Except.bind, pure, Except.pure, extension]
  obtain ⟨index, made⟩ : ∃ index,
      indexDirectory (fun _ => []) none "proj" "proj" (.dir [("a.go", .file [])]) = .ok index := by
    simp [indexDirectory, noModule, walked, Search.checkpoint, bind, Except.bind, pure,
      Except.pure, accepted]
  obtain ⟨modulePath, files, read, walked', pages, libraries, paths, listed⟩ :=
    go_pages_group_first_declarations made
  rw [noModule] at read
  rw [walked] at walked'
  cases read
  cases walked'
  have source : isGoSource ⟨"a.go", "go", 0, []⟩ = true := by
    rw [← accepts_eq_isGoSource]
    exact accepted
  have root : packageDirectory "a.go" = "." := by decide +kernel
  rw [List.filter_cons_of_pos source, List.filter_nil] at paths
  simp only [List.map_cons, List.map_nil, root, List.eraseDups_cons, List.filter_nil,
    List.eraseDups_nil] at paths
  obtain ⟨page, rest, rfl, path, restPaths⟩ := List.map_eq_cons_iff.mp paths
  obtain rfl := List.map_eq_nil_iff.mp restPaths
  refine ⟨index, made, page, libraries, path, ?_⟩
  rw [(listed page List.mem_cons_self).key, path]
  rfl

end DocIndex.Go
