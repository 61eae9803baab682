import DocIndex.Disk.Walk
import DocIndex.Proofs.Document.WellFormed
import DocIndex.Proofs.Document.RoundTrip

/-!
# Paths of the files a walk finds

In a directory tree as a file system keeps it, the names in a directory are distinct and
none holds a `/`. The walk of such a tree names every file by a distinct path: a file
directly in a directory is the directory's path and its name, with no `/` after the
directory, while a file further down carries its directory's name and a `/` first, and
distinct names cut a path at its first `/` in distinct ways. The walk never fails for the
schema: its only failure is a cancellation.
-/

namespace DocIndex.Disk

open DocIndex.Document DocIndex.Search

mutual

/-- A directory tree as a file system keeps it: in each directory the names are distinct
and none holds a `/`. -/
def Node.WellFormed : Node → Prop
  | .file _ => True
  | .dir entries => (entries.map Prod.fst).Nodup ∧ Node.EntriesWellFormed entries

/-- Entries whose names hold no `/` and whose nodes are well formed. -/
def Node.EntriesWellFormed : List (String × Node) → Prop
  | [] => True
  | (name, node) :: rest => '/' ∉ name.toList ∧ node.WellFormed ∧ Node.EntriesWellFormed rest

end

theorem Node.entriesWellFormed_iff (entries : List (String × Node)) :
    Node.EntriesWellFormed entries ↔ ∀ entry ∈ entries, '/' ∉ entry.1.toList ∧ entry.2.WellFormed := by
  induction entries with
  | nil => simp [Node.EntriesWellFormed]
  | cons entry rest ih =>
    obtain ⟨name, node⟩ := entry
    rw [Node.EntriesWellFormed, ih, List.forall_mem_cons]
    exact and_assoc.symm

/-- Sorting a listing keeps its names distinct. -/
theorem listing_names_nodup {entries : List (String × Node)}
    (distinct : (entries.map Prod.fst).Nodup) : ((listing entries).map Prod.fst).Nodup :=
  ((listing_perm entries).map Prod.fst).nodup_iff.mpr distinct

/-- Sorting a listing keeps its entries well formed. -/
theorem Node.entriesWellFormed_listing {entries : List (String × Node)}
    (wellFormed : Node.EntriesWellFormed entries) : Node.EntriesWellFormed (listing entries) := by
  rw [Node.entriesWellFormed_iff] at wellFormed ⊢
  intro entry member
  exact wellFormed entry (mem_listing.mp member)

/-! ## Paths -/

theorem eq_of_append_left {directory first second : String}
    (same : directory ++ first = directory ++ second) : first = second := by
  rw [← String.toList_inj] at same ⊢
  simpa [String.toList_append] using same

theorem takeWhile_slash {name : String} (noSlash : '/' ∉ name.toList) (rest : String) :
    (name ++ "/" ++ rest).toList.takeWhile (· != '/') = name.toList := by
  have untilSlash : ∀ c ∈ name.toList, (c != '/') = true := by
    intro c member
    simp only [bne_iff_ne, ne_eq]
    rintro rfl
    exact noSlash member
  rw [String.toList_append, String.toList_append, List.append_assoc,
    List.takeWhile_append_of_pos untilSlash]
  simp

/-- Two names without `/` that start the same path before a `/` are the same name. -/
theorem eq_of_append_slash {name name' rest rest' : String} (noSlash : '/' ∉ name.toList)
    (noSlash' : '/' ∉ name'.toList) (same : name ++ "/" ++ rest = name' ++ "/" ++ rest') :
    name = name' := by
  have cut := congrArg (fun path : String => path.toList.takeWhile (· != '/')) same
  simp only [takeWhile_slash noSlash, takeWhile_slash noSlash'] at cut
  exact String.toList_inj.mp cut

theorem slash_mem_of_eq {name name' rest : String} (same : name = name' ++ "/" ++ rest) :
    '/' ∈ name.toList := by
  simp [same, String.toList_append]

/-! ## Files of one directory -/

theorem mem_filesOf {directory : String} {entries : List (String × Node)} {file : SourceFile}
    (member : file ∈ filesOf directory entries) :
    ∃ name ∈ entries.map Prod.fst, file.relativePath = directory ++ name := by
  simp only [filesOf, List.mem_filterMap] at member
  obtain ⟨⟨name, node⟩, inEntries, made⟩ := member
  cases node with
  | dir _ => cases made
  | file content =>
    simp only at made
    split at made
    · cases made
    · cases made
      exact ⟨name, List.mem_map_of_mem inEntries, rfl⟩

theorem filesOf_cons_dir (directory name : String) (entries rest : List (String × Node)) :
    filesOf directory ((name, .dir entries) :: rest) = filesOf directory rest := rfl

theorem filesOf_cons_file (directory name : String) (content : List UInt8)
    (rest : List (String × Node)) :
    filesOf directory ((name, .file content) :: rest) =
      if isHidden name then filesOf directory rest
      else ⟨directory ++ name, fileExtension name, content.length, content⟩ ::
        filesOf directory rest := by
  by_cases hidden : isHidden name <;> simp [filesOf, hidden]

theorem filesOf_nodup (directory : String) :
    ∀ entries : List (String × Node), (entries.map Prod.fst).Nodup →
      ((filesOf directory entries).map SourceFile.relativePath).Nodup
  | [], _ => by simp [filesOf]
  | (name, node) :: rest, distinct => by
    rw [List.map_cons, List.nodup_cons] at distinct
    have others := filesOf_nodup directory rest distinct.2
    have fresh : directory ++ name ∉ (filesOf directory rest).map SourceFile.relativePath := by
      rw [List.mem_map]
      rintro ⟨file, member, named⟩
      obtain ⟨name', inRest, path⟩ := mem_filesOf member
      rw [path] at named
      exact distinct.1 (eq_of_append_left named ▸ inRest)
    cases node with
    | dir _ => rwa [filesOf_cons_dir]
    | file content =>
      rw [filesOf_cons_file]
      split
      · exact others
      · exact List.nodup_cons.mpr ⟨fresh, others⟩

/-! ## The walk -/

theorem noSlash_of_mem {entries : List (String × Node)} (wellFormed : Node.EntriesWellFormed entries)
    {name : String} (member : name ∈ entries.map Prod.fst) : '/' ∉ name.toList := by
  obtain ⟨⟨_, node⟩, inEntries, rfl⟩ := List.mem_map.mp member
  exact ((Node.entriesWellFormed_iff entries).mp wellFormed _ inEntries).1

mutual

/-- The files under a well-formed node have distinct paths, each below the directory. -/
theorem walkNode_paths (halt : Halt) :
    ∀ (directory : String) (node : Node), node.WellFormed → ∀ files,
      walkNode halt directory node = .ok files →
        (∀ file ∈ files, ∃ rest, file.relativePath = directory ++ rest) ∧
          (files.map SourceFile.relativePath).Nodup
  | directory, .file _, _, files, walked => by
    rw [walkNode.eq_1] at walked
    cases walked
    simp
  | directory, .dir entries, ⟨distinct, entriesWellFormed⟩, files, walked => by
    rw [walkNode.eq_2] at walked
    obtain ⟨_, -, walked⟩ := bind_eq_ok walked
    obtain ⟨below, walkedBelow, walked⟩ := bind_eq_ok walked
    cases walked
    have listedDistinct := listing_names_nodup distinct
    have listedWellFormed := Node.entriesWellFormed_listing entriesWellFormed
    obtain ⟨belowPaths, belowDistinct⟩ :=
      walkEntries_paths halt directory (listing entries) listedDistinct listedWellFormed below
        walkedBelow
    refine ⟨?_, ?_⟩
    · intro file member
      rcases List.mem_append.mp member with here | deeper
      · obtain ⟨name, -, path⟩ := mem_filesOf here
        exact ⟨name, path⟩
      · obtain ⟨name, -, rest, path⟩ := belowPaths file deeper
        exact ⟨_, path⟩
    · rw [List.map_append, List.nodup_append]
      refine ⟨filesOf_nodup directory (listing entries) listedDistinct, belowDistinct, ?_⟩
      simp only [List.mem_map]
      rintro _ ⟨file, here, rfl⟩ _ ⟨file', deeper, rfl⟩ same
      obtain ⟨name, inEntries, path⟩ := mem_filesOf here
      obtain ⟨name', -, rest, path'⟩ := belowPaths file' deeper
      rw [path, path'] at same
      exact noSlash_of_mem listedWellFormed inEntries
        (slash_mem_of_eq (eq_of_append_left same))
termination_by _ node => (sizeOf node, 1)
decreasing_by simp [Prod.lex_def, sizeOf_listing]

/-- The files under the subdirectories among well-formed entries with distinct names have
distinct paths, each below the directory and one of the names. -/
theorem walkEntries_paths (halt : Halt) :
    ∀ (directory : String) (entries : List (String × Node)), (entries.map Prod.fst).Nodup →
      Node.EntriesWellFormed entries → ∀ files, walkEntries halt directory entries = .ok files →
        (∀ file ∈ files, ∃ name ∈ entries.map Prod.fst, ∃ rest,
            file.relativePath = directory ++ (name ++ "/" ++ rest)) ∧
          (files.map SourceFile.relativePath).Nodup
  | directory, [], _, _, files, walked => by
    rw [walkEntries.eq_1] at walked
    cases walked
    simp
  | directory, (name, node) :: rest, distinct, ⟨noSlash, nodeWellFormed, restWellFormed⟩, files,
      walked => by
    rw [walkEntries.eq_2] at walked
    obtain ⟨here, walkedHere, walked⟩ := bind_eq_ok walked
    obtain ⟨others, walkedOthers, walked⟩ := bind_eq_ok walked
    cases walked
    rw [List.map_cons, List.nodup_cons] at distinct
    have herePaths :=
      walkEntry_paths halt directory name node nodeWellFormed here walkedHere
    obtain ⟨otherPaths, otherDistinct⟩ :=
      walkEntries_paths halt directory rest distinct.2 restWellFormed others walkedOthers
    refine ⟨?_, ?_⟩
    · intro file member
      rcases List.mem_append.mp member with inHere | inOthers
      · obtain ⟨tail, path⟩ := herePaths.1 file inHere
        exact ⟨name, List.mem_cons_self, tail, path⟩
      · obtain ⟨name', inRest, tail, path⟩ := otherPaths file inOthers
        exact ⟨name', List.mem_cons_of_mem _ inRest, tail, path⟩
    · rw [List.map_append, List.nodup_append]
      refine ⟨herePaths.2, otherDistinct, ?_⟩
      simp only [List.mem_map]
      rintro _ ⟨file, inHere, rfl⟩ _ ⟨file', inOthers, rfl⟩ same
      obtain ⟨tail, path⟩ := herePaths.1 file inHere
      obtain ⟨name', inRest, tail', path'⟩ := otherPaths file' inOthers
      rw [path, path'] at same
      have sameName := eq_of_append_slash noSlash (noSlash_of_mem restWellFormed inRest)
        (eq_of_append_left same)
      exact distinct.1 (sameName ▸ inRest)
termination_by _ entries => (sizeOf entries, 0)
decreasing_by all_goals (simp only [Prod.lex_def, List.cons.sizeOf_spec, Prod.mk.sizeOf_spec]; omega)

/-- The files under one well-formed entry have distinct paths, each below the entry's name:
none when it is a file or a directory the walk skips. -/
theorem walkEntry_paths (halt : Halt) :
    ∀ (directory name : String) (node : Node), node.WellFormed → ∀ files,
      walkEntry halt directory name node = .ok files →
        (∀ file ∈ files, ∃ tail, file.relativePath = directory ++ (name ++ "/" ++ tail)) ∧
          (files.map SourceFile.relativePath).Nodup
  | directory, name, .file _, _, files, walked => by
    rw [walkEntry.eq_1] at walked
    cases walked
    simp
  | directory, name, .dir entries, wellFormed, files, walked => by
    rw [walkEntry.eq_2] at walked
    split at walked
    · obtain ⟨paths, nodup⟩ :=
        walkNode_paths halt (directory ++ name ++ "/") (.dir entries) wellFormed files walked
      refine ⟨fun file member => ?_, nodup⟩
      obtain ⟨tail, path⟩ := paths file member
      exact ⟨tail, by rw [path]; simp only [String.append_assoc]⟩
    · cases walked
      simp
termination_by _ _ node => (sizeOf node, 2)
decreasing_by simp [Prod.lex_def]

end

/-- The files a walk of a well-formed tree finds have pairwise distinct paths. -/
theorem walk_paths_nodup {halt : Halt} {root : Node} (wellFormed : root.WellFormed)
    {files : List SourceFile} (walked : walk halt root = .ok files) :
    (files.map SourceFile.relativePath).Nodup :=
  (walkNode_paths halt "" root wellFormed files walked).2

/-! ## Sizes -/

/-- A file read directly from a directory's entries has its bytes' count as its size. -/
theorem size_of_mem_filesOf {directory : String} {entries : List (String × Node)}
    {file : SourceFile} (member : file ∈ filesOf directory entries) :
    file.size = file.content.length := by
  simp only [filesOf, List.mem_filterMap] at member
  obtain ⟨⟨name, node⟩, -, made⟩ := member
  cases node with
  | dir _ => cases made
  | file content =>
    simp only at made
    split at made
    · cases made
    · cases made
      rfl

mutual

/-- Every file a walk finds under a node has its bytes' count as its size. -/
theorem walkNode_sizes (halt : Halt) :
    ∀ (directory : String) (node : Node) (files : List SourceFile),
      walkNode halt directory node = .ok files → ∀ file ∈ files, file.size = file.content.length
  | directory, .file _, files, walked => by
    rw [walkNode.eq_1] at walked
    cases walked
    simp
  | directory, .dir entries, files, walked => by
    rw [walkNode.eq_2] at walked
    obtain ⟨_, -, walked⟩ := bind_eq_ok walked
    obtain ⟨below, walkedBelow, walked⟩ := bind_eq_ok walked
    cases walked
    intro file member
    rcases List.mem_append.mp member with here | deeper
    · exact size_of_mem_filesOf here
    · exact walkEntries_sizes halt directory (listing entries) below walkedBelow file deeper
termination_by _ node => (sizeOf node, 1)
decreasing_by simp [Prod.lex_def, sizeOf_listing]

/-- Every file a walk finds under entries has its bytes' count as its size. -/
theorem walkEntries_sizes (halt : Halt) :
    ∀ (directory : String) (entries : List (String × Node)) (files : List SourceFile),
      walkEntries halt directory entries = .ok files →
        ∀ file ∈ files, file.size = file.content.length
  | directory, [], files, walked => by
    rw [walkEntries.eq_1] at walked
    cases walked
    simp
  | directory, (name, node) :: rest, files, walked => by
    rw [walkEntries.eq_2] at walked
    obtain ⟨here, walkedHere, walked⟩ := bind_eq_ok walked
    obtain ⟨others, walkedOthers, walked⟩ := bind_eq_ok walked
    cases walked
    intro file member
    rcases List.mem_append.mp member with inHere | inOthers
    · exact walkEntry_sizes halt directory name node here walkedHere file inHere
    · exact walkEntries_sizes halt directory rest others walkedOthers file inOthers
termination_by _ entries => (sizeOf entries, 0)
decreasing_by all_goals (simp only [Prod.lex_def, List.cons.sizeOf_spec, Prod.mk.sizeOf_spec]; omega)

/-- Every file a walk finds under one entry has its bytes' count as its size. -/
theorem walkEntry_sizes (halt : Halt) :
    ∀ (directory name : String) (node : Node) (files : List SourceFile),
      walkEntry halt directory name node = .ok files →
        ∀ file ∈ files, file.size = file.content.length
  | directory, name, .file _, files, walked => by
    rw [walkEntry.eq_1] at walked
    cases walked
    simp
  | directory, name, .dir entries, files, walked => by
    rw [walkEntry.eq_2] at walked
    split at walked
    · exact walkNode_sizes halt _ _ files walked
    · cases walked
      simp
termination_by _ _ node => (sizeOf node, 2)
decreasing_by simp [Prod.lex_def]

end

/-- Every file a walk finds has its bytes' count as its size. -/
theorem walk_sizes {halt : Halt} {root : Node} {files : List SourceFile}
    (walked : walk halt root = .ok files) : ∀ file ∈ files, file.size = file.content.length :=
  walkNode_sizes halt "" root files walked

/-- A walk fails only when it is cancelled, never for the schema. -/
theorem walk_failsOnly (halt : Halt) (root : Node) :
    FailsOnly (fun failure => ¬ failure.IsSchema) (walk halt root) := by
  refine (walkNode.mutual_induct
    (fun directory node => FailsOnly (fun failure => ¬ failure.IsSchema)
      (walkNode halt directory node))
    (fun directory entries => FailsOnly (fun failure => ¬ failure.IsSchema)
      (walkEntries halt directory entries))
    (fun directory name node => FailsOnly (fun failure => ¬ failure.IsSchema)
      (walkEntry halt directory name node))
    ?file ?dir ?nil ?cons ?entryFile ?entryDir ?entrySkipped).1 "" root
  case file =>
    intro directory content
    rw [walkNode.eq_1]
    exact FailsOnly.ok []
  case dir =>
    intro directory entries below
    rw [walkNode.eq_2]
    exact (checkpoint_failsOnly halt).bind fun _ _ => below.bind fun _ _ => FailsOnly.pure _
  case nil =>
    intro directory
    rw [walkEntries.eq_1]
    exact FailsOnly.ok []
  case cons =>
    intro directory name node rest here others
    rw [walkEntries.eq_2]
    exact here.bind fun _ _ => others.bind fun _ _ => FailsOnly.pure _
  case entryFile =>
    intro directory name content
    rw [walkEntry.eq_1]
    exact FailsOnly.ok []
  case entryDir =>
    intro directory name entries descends below
    rw [walkEntry.eq_2, if_pos descends]
    exact below
  case entrySkipped =>
    intro directory name entries skipped
    rw [walkEntry.eq_2, if_neg skipped]
    exact FailsOnly.ok []

/-- Dropping a path's suffix fails only on a path with no name, never for the schema. -/
theorem PurePath.withoutSuffix_failsOnly (path : PurePath) :
    FailsOnly (fun failure => ¬ failure.IsSchema) path.withoutSuffix := by
  unfold PurePath.withoutSuffix
  split
  · exact FailsOnly.error fun ⟨_, wrong⟩ => Failure.noConfusion wrong
  · exact FailsOnly.ok _

end DocIndex.Disk
