import DocIndex.Proofs.Extract.Go
import DocIndex.Proofs.Text.Order

/-!
# What a walk lists, and in which order

A directory may list its entries in any order; the walk sorts each listing by name before it
reads it. Seen through paths of names below the root (`Node.filePaths`), the walk of any
well-formed tree lists exactly the regular files whose path has no hidden part and no skipped
directory on the way (`Kept`), each once, and in `WalkBefore` order: a directory's files
first, by name, then each kept subdirectory by name with everything below it.

Main statement: `walk_lists_kept_files_in_order`.
-/

namespace DocIndex.Disk

open DocIndex.Search

/-! ## Trees and paths -/

/-- A path of names below the walked directory that the walk keeps: no part is hidden, and
no directory on the way is one the walk skips. The walked directory's own name is no part. -/
def Kept (path : List String) : Prop :=
  (∀ name ∈ path, isHidden name = false) ∧ ∀ name ∈ path.dropLast, name ∉ skippedDirs

/-- The walk's order on paths of names: in a directory its files come first, by name, then
its subdirectories by name, each with all the paths below it. -/
def WalkBefore : List String → List String → Prop
  | [a], [b] => compareText a b = .lt
  | [_], _ :: _ :: _ => True
  | a :: p :: ps, b :: q :: qs => compareText a b = .lt ∨ (a = b ∧ WalkBefore (p :: ps) (q :: qs))
  | _, _ => False

/-- The file the walk reports for a path of names below the walked directory and the
file's bytes. -/
def sourceFileOf (found : List String × List UInt8) : SourceFile where
  relativePath := "/".intercalate found.1
  extension := fileExtension (found.1.getLast?.getD "")
  size := found.2.length
  content := found.2

/-- A file reported below a directory whose path from the walked one is `directory`. -/
def SourceFile.below (directory : String) (file : SourceFile) : SourceFile :=
  { file with relativePath := directory ++ file.relativePath }

/-- The regular files directly among entries that are not hidden, as one-name paths. -/
def filesHere (entries : List (String × Node)) : List (List String × List UInt8) :=
  entries.filterMap fun entry =>
    match entry.2 with
    | .file content => if isHidden entry.1 then none else some ([entry.1], content)
    | .dir _ => none

mutual

/-- The walk seen through paths: the files under a node as paths of names below it, with
their bytes, in walk order. -/
def Node.filePaths : Node → List (List String × List UInt8)
  | .file _ => []
  | .dir entries => filesHere (listing entries) ++ Node.pathsBelow (listing entries)
termination_by node => (sizeOf node, 1)
decreasing_by simp [Prod.lex_def, sizeOf_listing]

/-- The paths under the entries the walk descends into, in order, each behind its entry's
name. -/
def Node.pathsBelow : List (String × Node) → List (List String × List UInt8)
  | [] => []
  | (name, node) :: rest =>
    (if descendsInto name then node.filePaths.map (Prod.map (name :: ·) id) else []) ++
      Node.pathsBelow rest
termination_by entries => (sizeOf entries, 0)
decreasing_by all_goals (simp only [Prod.lex_def, List.cons.sizeOf_spec, Prod.mk.sizeOf_spec]; omega)

end

@[simp]
theorem Node.filePaths_file (content : List UInt8) : (Node.file content).filePaths = [] := by
  rw [Node.filePaths]

theorem Node.filePaths_dir (entries : List (String × Node)) :
    (Node.dir entries).filePaths = filesHere (listing entries) ++ Node.pathsBelow (listing entries) := by
  rw [Node.filePaths]

/-! ## The shape of the paths -/

theorem mem_filesHere {entries : List (String × Node)} {found : List String × List UInt8} :
    found ∈ filesHere entries ↔
      ∃ name content, (name, .file content) ∈ entries ∧ isHidden name = false ∧
        found = ([name], content) := by
  simp only [filesHere, List.mem_filterMap]
  constructor
  · rintro ⟨⟨name, node⟩, member, made⟩
    cases node with
    | dir _ => cases made
    | file content =>
      simp only at made
      split at made
      · cases made
      · rename_i visible
        cases made
        exact ⟨name, content, member, by simpa using visible, rfl⟩
  · rintro ⟨name, content, member, visible, rfl⟩
    exact ⟨(name, .file content), member, by simp [visible]⟩

theorem mem_pathsBelow {found : List String × List UInt8} :
    ∀ {entries : List (String × Node)}, found ∈ Node.pathsBelow entries ↔
      ∃ name node path, (name, node) ∈ entries ∧ descendsInto name = true ∧
        (path, found.2) ∈ node.filePaths ∧ found.1 = name :: path
  | [] => by simp [Node.pathsBelow]
  | (name, node) :: rest => by
    rw [Node.pathsBelow, List.mem_append, mem_pathsBelow]
    constructor
    · rintro (here | ⟨other, child, path, member, descends, inChild, named⟩)
      · split at here
        · rename_i descends
          obtain ⟨⟨path, content⟩, inNode, rfl⟩ := List.mem_map.mp here
          exact ⟨name, node, path, List.mem_cons_self, descends, inNode, rfl⟩
        · cases here
      · exact ⟨other, child, path, List.mem_cons_of_mem _ member, descends, inChild, named⟩
    · rintro ⟨other, child, path, member, descends, inChild, named⟩
      rcases List.mem_cons.mp member with same | later
      · cases same
        refine .inl ?_
        rw [if_pos descends]
        exact List.mem_map.mpr ⟨(path, found.2), inChild, by simp [← named]⟩
      · exact .inr ⟨other, child, path, later, descends, inChild, named⟩

/-- Every path the walk reports names at least one entry. -/
theorem ne_nil_of_mem_filePaths {node : Node} {found : List String × List UInt8}
    (member : found ∈ node.filePaths) : found.1 ≠ [] := by
  cases node with
  | file _ => simp at member
  | dir entries =>
    rcases List.mem_append.mp (Node.filePaths_dir entries ▸ member) with here | below
    · obtain ⟨name, content, -, -, rfl⟩ := mem_filesHere.mp here
      exact List.cons_ne_nil _ _
    · obtain ⟨name, -, path, -, -, -, named⟩ := mem_pathsBelow.mp below
      rw [named]
      exact List.cons_ne_nil _ _

/-! ## The walk is its paths -/

/-- A file found by a path behind a directory's name is the same file reported below that
directory. -/
theorem sourceFileOf_cons (directory name : String) {found : List String × List UInt8}
    (named : found.1 ≠ []) :
    (sourceFileOf (name :: found.1, found.2)).below directory =
      (sourceFileOf found).below (directory ++ name ++ "/") := by
  obtain ⟨path, content⟩ := found
  cases path with
  | nil => exact absurd rfl named
  | cons first rest => simp [sourceFileOf, SourceFile.below, String.append_assoc]

/-- The files directly among entries are those the path view lists there. -/
theorem filesOf_eq (directory : String) (entries : List (String × Node)) :
    filesOf directory entries =
      (filesHere entries).map fun found => (sourceFileOf found).below directory := by
  induction entries with
  | nil => rfl
  | cons entry rest ih =>
    obtain ⟨name, node⟩ := entry
    cases node with
    | dir _ => simpa [filesOf_cons_dir, filesHere] using ih
    | file content =>
      rw [filesOf_cons_file, ih]
      by_cases hidden : isHidden name
      · simp [filesHere, hidden]
      · simp [filesHere, hidden, sourceFileOf, SourceFile.below]

mutual

/-- Walked without a cancellation, a node gives the files its path view lists, reported
below the directory walked. -/
theorem walkNode_none :
    ∀ (directory : String) (node : Node),
      walkNode none directory node =
        .ok (node.filePaths.map fun found => (sourceFileOf found).below directory)
  | directory, .file _ => by
    rw [walkNode.eq_1, Node.filePaths_file]
    rfl
  | directory, .dir entries => by
    rw [walkNode.eq_2]
    dsimp only
    rw [walkEntries_none directory (listing entries)]
    simp [checkpoint, Node.filePaths_dir, filesOf_eq, bind, Except.bind, pure, Except.pure]
termination_by _ node => (sizeOf node, 1)
decreasing_by simp [Prod.lex_def, sizeOf_listing]

/-- Walked without a cancellation, the subdirectories among entries give the files the path
view lists below them. -/
theorem walkEntries_none :
    ∀ (directory : String) (entries : List (String × Node)),
      walkEntries none directory entries =
        .ok ((Node.pathsBelow entries).map fun found => (sourceFileOf found).below directory)
  | directory, [] => by
    rw [walkEntries.eq_1]
    simp [Node.pathsBelow]
  | directory, (name, node) :: rest => by
    rw [walkEntries.eq_2, walkEntry_none directory name node, walkEntries_none directory rest]
    simp [Node.pathsBelow, bind, Except.bind, pure, Except.pure]
termination_by _ entries => (sizeOf entries, 0)
decreasing_by all_goals (simp only [Prod.lex_def, List.cons.sizeOf_spec, Prod.mk.sizeOf_spec]; omega)

/-- Walked without a cancellation, an entry the walk descends into gives the files the path
view lists below it, each behind the entry's name. -/
theorem walkEntry_none :
    ∀ (directory name : String) (node : Node),
      walkEntry none directory name node =
        .ok ((if descendsInto name then node.filePaths.map (Prod.map (name :: ·) id) else []).map
          fun found => (sourceFileOf found).below directory)
  | directory, name, .file _ => by
    rw [walkEntry.eq_1]
    simp
  | directory, name, .dir entries => by
    rw [walkEntry.eq_2]
    by_cases descends : descendsInto name
    · rw [if_pos descends, if_pos descends, walkNode_none (directory ++ name ++ "/") (.dir entries),
        List.map_map]
      exact congrArg Except.ok (List.map_congr_left fun found member =>
        (sourceFileOf_cons directory name (ne_nil_of_mem_filePaths member)).symm)
    · simp [descends]
termination_by _ _ node => (sizeOf node, 2)
decreasing_by simp [Prod.lex_def]

end

/-! ## Which files the walk lists -/

theorem lookup_eq_some_iff_mem {entries : List (String × Node)} {name : String} {child : Node}
    (distinct : (entries.map Prod.fst).Nodup) :
    entries.lookup name = some child ↔ (name, child) ∈ entries := by
  constructor
  · intro found
    obtain ⟨before, after, rfl, -⟩ := List.lookup_eq_some_iff.mp found
    simp
  · exact Go.lookup_eq_some_of_mem distinct

/-- In a directory with distinct names, a path starting with a name leads where the entry of
that name leads along the rest. -/
theorem find?_dir_cons {entries : List (String × Node)} (distinct : (entries.map Prod.fst).Nodup)
    (name : String) (path : List String) (target : Node) :
    (Node.dir entries).find? (name :: path) = some target ↔
      ∃ child, (name, child) ∈ entries ∧ child.find? path = some target := by
  simp only [Node.find?]
  cases found : entries.lookup name with
  | none =>
    simp only [reduceCtorEq, false_iff, not_exists, not_and]
    intro child member
    have := Go.lookup_eq_some_of_mem distinct member
    rw [found] at this
    cases this
  | some child =>
    have member := (lookup_eq_some_iff_mem distinct).mp found
    dsimp only
    constructor
    · intro reached
      exact ⟨child, member, reached⟩
    · rintro ⟨other, otherMember, reached⟩
      -- names are distinct, so the entry of the name is the one the lookup finds
      have same : child = other :=
        Option.some.inj (found.symm.trans ((lookup_eq_some_iff_mem distinct).mpr otherMember))
      rw [same]
      exact reached

theorem kept_singleton {name : String} : Kept [name] ↔ isHidden name = false := by
  simp [Kept]

/-- A kept path through a directory enters it only when the walk descends into it. -/
theorem kept_cons {name : String} {path : List String} (filled : path ≠ []) :
    Kept (name :: path) ↔ descendsInto name = true ∧ Kept path := by
  simp only [Kept, List.dropLast_cons_of_ne_nil filled, List.forall_mem_cons, descendsInto,
    Bool.and_eq_true, Bool.not_eq_true', List.contains_eq_mem, decide_eq_false_iff_not]
  tauto

mutual

/-- The path view lists exactly the regular files of a well-formed tree at kept paths. -/
theorem mem_filePaths_iff :
    ∀ (node : Node), node.WellFormed → ∀ found : List String × List UInt8,
      found ∈ node.filePaths ↔
        found.1 ≠ [] ∧ Kept found.1 ∧ node.find? found.1 = some (.file found.2)
  | .file _, _, ⟨path, content⟩ => by
    simp only [Node.filePaths, List.not_mem_nil, false_iff, not_and]
    intro filled _
    cases path with
    | nil => exact absurd rfl filled
    | cons name rest => simp [Node.find?]
  | .dir entries, ⟨distinct, entriesWellFormed⟩, ⟨path, content⟩ => by
    have inner := mem_filePaths_iff_of_mem entries entriesWellFormed
    rw [Node.filePaths_dir, List.mem_append, mem_filesHere, mem_pathsBelow]
    simp only [mem_listing]
    constructor
    · rintro (⟨name, content', member, visible, same⟩ |
        ⟨name, child, rest, member, descends, inChild, named⟩)
      · -- a visible file directly in the directory
        obtain ⟨rfl, rfl⟩ := Prod.mk.inj same
        exact ⟨List.cons_ne_nil _ _, kept_singleton.mpr visible,
          (find?_dir_cons distinct _ _ _).mpr ⟨_, member, rfl⟩⟩
      · -- a file below a subdirectory the walk descends into
        obtain ⟨restFilled, restKept, restFound⟩ := (inner _ member (rest, content)).mp inChild
        subst named
        exact ⟨List.cons_ne_nil _ _, (kept_cons restFilled).mpr ⟨descends, restKept⟩,
          (find?_dir_cons distinct _ _ _).mpr ⟨child, member, restFound⟩⟩
    · rintro ⟨filled, kept, found⟩
      cases path with
      | nil => exact absurd rfl filled
      | cons name rest =>
        obtain ⟨child, member, childFound⟩ := (find?_dir_cons distinct _ _ _).mp found
        cases rest with
        | nil =>
          simp only [Node.find?, Option.some.injEq] at childFound
          subst childFound
          exact .inl ⟨name, content, member, kept_singleton.mp kept, rfl⟩
        | cons next more =>
          obtain ⟨descends, restKept⟩ := (kept_cons (List.cons_ne_nil _ _)).mp kept
          exact .inr ⟨name, child, next :: more, member, descends,
            (inner _ member (next :: more, content)).mpr
              ⟨List.cons_ne_nil _ _, restKept, childFound⟩, rfl⟩

/-- The path view of each node among well-formed entries lists its regular files at kept
paths. -/
theorem mem_filePaths_iff_of_mem :
    ∀ (entries : List (String × Node)), Node.EntriesWellFormed entries →
      ∀ entry ∈ entries, ∀ found : List String × List UInt8,
        found ∈ entry.2.filePaths ↔
          found.1 ≠ [] ∧ Kept found.1 ∧ entry.2.find? found.1 = some (.file found.2)
  | [], _ => by simp
  | (_, node) :: rest, ⟨_, nodeWellFormed, restWellFormed⟩ => by
    intro entry member
    rcases List.mem_cons.mp member with rfl | later
    · exact mem_filePaths_iff node nodeWellFormed
    · exact mem_filePaths_iff_of_mem rest restWellFormed entry later

end

/-! ## The order of the walk -/

/-- A listing of distinct names ascends strictly in code-point order. -/
theorem listing_ascending {entries : List (String × Node)}
    (distinct : (entries.map Prod.fst).Nodup) :
    ((listing entries).map Prod.fst).Pairwise (fun a b => compareText a b = .lt) := by
  have sorted : (listing entries).Pairwise fun a b => (compareText a.1 b.1).isLE :=
    @List.pairwise_mergeSort (String × Node) (fun a b => (compareText a.1 b.1).isLE)
      (fun a b c => @compareText_isLE_trans a.1 b.1 c.1)
      (fun a b => compareText_isLE_total a.1 b.1) entries
  have apart : (listing entries).Pairwise fun a b => a.1 ≠ b.1 :=
    List.pairwise_map.mp (listing_names_nodup distinct)
  rw [List.pairwise_map]
  refine (sorted.and apart).imp ?_
  rintro a b ⟨before, different⟩
  exact compareText_lt_of_isLE before different

/-- Behind two names, a path goes before another exactly when its name comes first, or the
names agree and the rest goes first. -/
theorem walkBefore_cons_cons {a b : String} {p q : List String} (pFilled : p ≠ [])
    (qFilled : q ≠ []) :
    WalkBefore (a :: p) (b :: q) ↔ compareText a b = .lt ∨ (a = b ∧ WalkBefore p q) := by
  cases p with
  | nil => exact absurd rfl pFilled
  | cons _ _ =>
    cases q with
    | nil => exact absurd rfl qFilled
    | cons _ _ => rfl

/-- Each path below a subdirectory has its name first, then at least one more name. -/
theorem exists_of_mem_pathsBelow {entries : List (String × Node)} {path : List String}
    (member : path ∈ (Node.pathsBelow entries).map Prod.fst) :
    ∃ name ∈ entries.map Prod.fst, ∃ rest, rest ≠ [] ∧ path = name :: rest := by
  obtain ⟨found, inBelow, rfl⟩ := List.mem_map.mp member
  obtain ⟨name, child, rest, inEntries, -, inChild, named⟩ := mem_pathsBelow.mp inBelow
  exact ⟨name, List.mem_map_of_mem inEntries, rest, ne_nil_of_mem_filePaths inChild, named⟩

/-- The files directly in a directory with ascending names come in name order. -/
theorem filesHere_walkBefore :
    ∀ {entries : List (String × Node)},
      (entries.map Prod.fst).Pairwise (fun a b => compareText a b = .lt) →
        ((filesHere entries).map Prod.fst).Pairwise WalkBefore
  | [], _ => by simp [filesHere]
  | (name, node) :: rest, ascending => by
    rw [List.map_cons, List.pairwise_cons] at ascending
    have later : ∀ path ∈ (filesHere rest).map Prod.fst, WalkBefore [name] path := by
      intro path member
      obtain ⟨found, inRest, rfl⟩ := List.mem_map.mp member
      obtain ⟨other, content, inEntries, -, rfl⟩ := mem_filesHere.mp inRest
      exact ascending.1 other (List.mem_map_of_mem inEntries)
    have restOrdered := filesHere_walkBefore ascending.2
    cases node with
    | dir _ => simpa [filesHere] using restOrdered
    | file content =>
      by_cases hidden : isHidden name
      · simpa [filesHere, hidden] using restOrdered
      · have kept : filesHere ((name, .file content) :: rest) =
            ([name], content) :: filesHere rest := by
          simp [filesHere, hidden]
        rw [kept, List.map_cons, List.pairwise_cons]
        exact ⟨later, restOrdered⟩

/-- The paths below the subdirectories of a directory with ascending names come
subdirectory by subdirectory in name order, each in its own walk order. -/
theorem pathsBelow_walkBefore :
    ∀ {entries : List (String × Node)},
      (entries.map Prod.fst).Pairwise (fun a b => compareText a b = .lt) →
        (∀ entry ∈ entries, (entry.2.filePaths.map Prod.fst).Pairwise WalkBefore) →
          ((Node.pathsBelow entries).map Prod.fst).Pairwise WalkBefore
  | [], _, _ => by simp [Node.pathsBelow]
  | (name, node) :: rest, ascending, inner => by
    rw [List.map_cons, List.pairwise_cons] at ascending
    rw [Node.pathsBelow, List.map_append, List.pairwise_append]
    refine ⟨?_, pathsBelow_walkBefore ascending.2 fun entry member =>
      inner entry (List.mem_cons_of_mem _ member), ?_⟩
    · -- below one subdirectory, the walk order behind its name
      split
      · have behindName : (node.filePaths.map (Prod.map (name :: ·) id)).map Prod.fst =
            (node.filePaths.map Prod.fst).map (name :: ·) := by
          simp [List.map_map, Function.comp_def]
        rw [behindName, List.pairwise_map]
        refine (inner (name, node) List.mem_cons_self).imp_of_mem ?_
        intro p q inNode inNode' before
        obtain ⟨_, pFound, rfl⟩ := List.mem_map.mp inNode
        obtain ⟨_, qFound, rfl⟩ := List.mem_map.mp inNode'
        exact (walkBefore_cons_cons (ne_nil_of_mem_filePaths pFound)
          (ne_nil_of_mem_filePaths qFound)).mpr (.inr ⟨rfl, before⟩)
      · simp
    · -- a later subdirectory's name comes after this one's
      intro path here other later
      obtain ⟨otherName, inRest, rest', rest'Filled, rfl⟩ := exists_of_mem_pathsBelow later
      split at here
      · obtain ⟨found, inMapped, rfl⟩ := List.mem_map.mp here
        obtain ⟨original, inNode, rfl⟩ := List.mem_map.mp inMapped
        exact (walkBefore_cons_cons (ne_nil_of_mem_filePaths inNode) rest'Filled).mpr
          (.inl (ascending.1 otherName inRest))
      · cases here

mutual

/-- The path view of a well-formed tree lists its paths in walk order. -/
theorem filePaths_walkBefore :
    ∀ (node : Node), node.WellFormed → (node.filePaths.map Prod.fst).Pairwise WalkBefore
  | .file _, _ => by simp
  | .dir entries, ⟨distinct, entriesWellFormed⟩ => by
    have ascending := listing_ascending distinct
    rw [Node.filePaths_dir, List.map_append, List.pairwise_append]
    refine ⟨filesHere_walkBefore ascending, pathsBelow_walkBefore ascending fun entry member =>
      filePaths_walkBefore_of_mem entries entriesWellFormed entry (mem_listing.mp member), ?_⟩
    intro path here other below
    obtain ⟨found, inHere, rfl⟩ := List.mem_map.mp here
    obtain ⟨name, content, -, -, rfl⟩ := mem_filesHere.mp inHere
    obtain ⟨otherName, -, rest, restFilled, rfl⟩ := exists_of_mem_pathsBelow below
    cases rest with
    | nil => exact absurd rfl restFilled
    | cons _ _ => trivial

/-- The path view of each node among well-formed entries lists its paths in walk order. -/
theorem filePaths_walkBefore_of_mem :
    ∀ (entries : List (String × Node)), Node.EntriesWellFormed entries →
      ∀ entry ∈ entries, (entry.2.filePaths.map Prod.fst).Pairwise WalkBefore
  | [], _ => by simp
  | (_, node) :: rest, ⟨_, nodeWellFormed, restWellFormed⟩ => by
    intro entry member
    rcases List.mem_cons.mp member with rfl | later
    · exact filePaths_walkBefore node nodeWellFormed
    · exact filePaths_walkBefore_of_mem rest restWellFormed entry later

end

/-! ## The walk -/

theorem SourceFile.below_empty (file : SourceFile) : file.below "" = file := by
  cases file
  simp [SourceFile.below]

/-- The walk of a well-formed tree, its directories listed in any order, lists exactly the
regular files at kept paths, each once and in walk order: a directory's files by name, then
its kept subdirectories by name, depth first. Each is reported with its path from the root
joined by `/`, the extension of its name and its size; a root that is not a directory has no
such file. -/
theorem walk_lists_kept_files_in_order {root : Node} (wellFormed : root.WellFormed) :
    ∃ found : List (List String × List UInt8),
      walk none root = .ok (found.map sourceFileOf) ∧
      (∀ path content, (path, content) ∈ found ↔
        path ≠ [] ∧ Kept path ∧ root.find? path = some (.file content)) ∧
      (found.map Prod.fst).Pairwise WalkBefore ∧
      ((found.map sourceFileOf).map SourceFile.relativePath).Nodup := by
  have walked : walk none root = .ok (root.filePaths.map sourceFileOf) := by
    simp [walk, walkNode_none, SourceFile.below_empty]
  exact ⟨root.filePaths, walked, fun path content => mem_filePaths_iff root wellFormed (path, content),
    filePaths_walkBefore root wellFormed, walk_paths_nodup wellFormed walked⟩

/-- A directory listing a subdirectory before a file is walked file first. -/
theorem walk_lists_file_before_subdirectory :
    (Node.dir [("pkg", .dir [("m.py", .file [])]), ("a.go", .file [])]).WellFormed ∧
    ∃ found : List (List String × List UInt8),
      walk none (Node.dir [("pkg", .dir [("m.py", .file [])]), ("a.go", .file [])]) =
        .ok (found.map sourceFileOf) ∧
      (∀ path content, (path, content) ∈ found ↔
        path ≠ [] ∧ Kept path ∧
          (Node.dir [("pkg", .dir [("m.py", .file [])]), ("a.go", .file [])]).find? path =
            some (.file content)) ∧
      (found.map Prod.fst).Pairwise WalkBefore ∧
      ((found.map sourceFileOf).map SourceFile.relativePath).Nodup := by
  have wellFormed :
      (Node.dir [("pkg", .dir [("m.py", .file [])]), ("a.go", .file [])]).WellFormed := by
    simp [Node.WellFormed, Node.EntriesWellFormed]
  exact ⟨wellFormed, walk_lists_kept_files_in_order wellFormed⟩

end DocIndex.Disk
