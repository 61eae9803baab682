import DocIndex.Document.Decode
import DocIndex.Document.Encode

/-!
# Written index documents read back

Writing an index as a document and reading the document gives the index back, at every
depth of the section tree: a text field reads as its text, a search key as its pieces in
order, a role by its name, a count as its integer. An index that reading accepts always has
an accepted schema version, so the written form of whatever reading gives is a normal form:
reading it again gives the same index.

The proof follows the shape of the documents: one lemma per kind of node, the sections by
a recursion over the tree together with the lists of children.
-/

namespace DocIndex.Document

open DocIndex.Data

/-! ## Reading written fields -/

@[simp]
theorem display_text (content : String) : (Value.text content).display = content := rfl

/-- A written search key reads as its pieces, in order. -/
@[simp]
theorem keyOf_texts (pieces : List String) : keyOf (Value.texts pieces) = .ok pieces := by
  simp [keyOf, Value.texts, Function.comp_def]

/-- Reading each written item reads each item back. -/
theorem readEach_map {α : Type} {read : Value → Except Trouble α} {write : α → Value}
    (readsBack : ∀ item, read (write item) = .ok item) :
    ∀ items : List α, readEach read (items.map write) = .ok items
  | [] => rfl
  | item :: rest => by
    simp only [List.map_cons, readEach, readsBack, readEach_map readsBack rest]
    rfl

/-! ## Each kind of node -/

mutual

/-- A written section reads back as the section, with its children at every depth. -/
theorem sectionOf_toValue : ∀ node : Section, sectionOf node.toValue = .ok node
  | ⟨id, shortLabel, label, detail, searchKey, role, children⟩ => by
    have readChildren := mapM_sectionOf_sectionsToValue children
    cases role <;>
      simp [Section.toValue, Value.object, sectionOf, roleOf, Role.name, requiredText, textOr,
        keyAt, Value.lookup, Value.getOr, Value.require, liftFault, Except.map, readChildren, bind,
        Except.bind, pure, Except.pure]

/-- Written children read back, one after another. -/
theorem mapM_sectionOf_sectionsToValue :
    ∀ nodes : List Section, (Section.toValue.sectionsToValue nodes).mapM sectionOf = .ok nodes
  | [] => rfl
  | node :: rest => by
    rw [Section.toValue.sectionsToValue, List.mapM_cons, sectionOf_toValue node,
      mapM_sectionOf_sectionsToValue rest]
    rfl

end

/-- A written page reads back as the page. -/
theorem pageOf_toValue (page : Page) : pageOf page.toValue = .ok page := by
  have readSections := readEach_map sectionOf_toValue page.sections
  simp [Page.toValue, Value.object, pageOf, requiredText, textOr, keyAt, membersAt, membersOf,
    Value.lookup, Value.getOr, Value.require, liftFault, Except.map, readSections, bind,
    Except.bind, pure, Except.pure]

/-- A written library reads back as the library. -/
theorem libraryOf_toValue (library : Library) : libraryOf library.toValue = .ok library := by
  have readPages := readEach_map pageOf_toValue library.pages
  simp [Library.toValue, Value.object, libraryOf, requiredText, textOr, membersAt, membersOf,
    Value.lookup, Value.getOr, Value.require, liftFault, Except.map, readPages, bind,
    Except.bind, pure, Except.pure]

/-- A written index of an accepted schema version reads back as the index. -/
theorem Index.ofValue_toValue (index : Index) (accepted : index.schemaVersion ≤ latestVersion) :
    Index.ofValue index.toValue = .ok index := by
  obtain ⟨language, schemaVersion, fileCount, byteCount, libraries⟩ := index
  have notNewer : ¬ schemaVersion > latestVersion := Int.not_lt.mpr accepted
  have readLibraries := readEach_map libraryOf_toValue libraries
  simp [Index.toValue, Value.object, Index.ofValue, notNewer, indexBody, requiredText,
    membersAt, membersOf, Value.lookup, Value.require, Value.toInteger, liftFault, Except.map,
    readLibraries, bind, Except.bind, pure, Except.pure]

/-! ## Reading accepts only accepted versions -/

/-- A chain of steps that succeeds succeeded at its first step. -/
theorem bind_eq_ok
    {ε α β : Type} {step : Except ε α} {rest : α → Except ε β} {result : β}
    (succeeded : step >>= rest = .ok result) :
    ∃ value, step = .ok value ∧ rest value = .ok result := by
  cases step with
  | error failure => cases succeeded
  | ok value => exact ⟨value, rfl, succeeded⟩

/-- The body of an index takes the version it is read under. -/
theorem indexBody_schemaVersion {entries : List (Value × Value)} {version : Int} {index : Index}
    (read : indexBody entries version = .ok index) :
    index.schemaVersion = version := by
  unfold indexBody at read
  obtain ⟨language, -, read⟩ := bind_eq_ok read
  obtain ⟨fileCount, -, read⟩ := bind_eq_ok read
  obtain ⟨byteCount, -, read⟩ := bind_eq_ok read
  obtain ⟨members, -, read⟩ := bind_eq_ok read
  obtain ⟨libraries, -, read⟩ := bind_eq_ok read
  cases read
  rfl

/-- Every index that reading accepts has an accepted schema version. -/
theorem Index.schemaVersion_le_of_ofValue {document : Value} {index : Index}
    (read : Index.ofValue document = .ok index) :
    index.schemaVersion ≤ latestVersion := by
  unfold Index.ofValue at read
  split at read
  · split at read
    · rename_i version _
      split at read
      · cases read
      · rename_i notNewer
        split at read
        · rename_i body
          cases read
          rw [indexBody_schemaVersion body]
          exact Int.not_lt.mp notNewer
        · cases read
    · cases read
  · cases read

/-- Writing an index and reading it back gives the index, for every index of an accepted
schema version, whatever its section trees; so for every document that reading accepts,
reading the written form of what it gives gives the same index again. -/
theorem Index.written_reads_back :
    (∀ index : Index, index.schemaVersion ≤ latestVersion →
      Index.ofValue index.toValue = .ok index) ∧
    ∀ (document : Value) (index : Index), Index.ofValue document = .ok index →
      Index.ofValue index.toValue = .ok index :=
  ⟨Index.ofValue_toValue, fun _ index read =>
    Index.ofValue_toValue index (Index.schemaVersion_le_of_ofValue read)⟩

/-- A nested index with a category reads back from its document; and a loose document, with
fields left out, keys as tuples and a count written as a truth value, reads as an index
whose written form reads back. -/
theorem written_reads_back_nested_and_loose :
    (({ language := "go", libraries := [{ name := "lib", id := "lib", pages := [{
          path := "a.go", title := "a", sections := [{
            id := "Types", shortLabel := "Types", label := "Types", role := .category,
            children := [{ id := "T", shortLabel := "T", label := "type T", searchKey := ["T"] }]
          }] }] }] } : Index).schemaVersion ≤ latestVersion ∧
      Index.ofValue ({ language := "go", libraries := [{ name := "lib", id := "lib", pages := [{
          path := "a.go", title := "a", sections := [{
            id := "Types", shortLabel := "Types", label := "Types", role := .category,
            children := [{ id := "T", shortLabel := "T", label := "type T", searchKey := ["T"] }]
          }] }] }] } : Index).toValue =
        .ok { language := "go", libraries := [{ name := "lib", id := "lib", pages := [{
          path := "a.go", title := "a", sections := [{
            id := "Types", shortLabel := "Types", label := "Types", role := .category,
            children := [{ id := "T", shortLabel := "T", label := "type T", searchKey := ["T"] }]
          }] }] }] }) ∧
    Index.ofValue (Value.object [("schema_version", .int 1), ("language", .text "go"),
        ("num_bytes", .bool true), ("libraries", .list [Value.object [("id", .text "lib"),
          ("pages", .list [Value.object [("path", .text "a.go"), ("sections",
            .tuple [Value.object [("id", .text "T"), ("search_key", .tuple [.text "T"])]])]])]])]) =
        .ok { language := "go", byteCount := 1, libraries := [{
          name := "", id := "lib", pages := [{
            path := "a.go", title := "",
            sections := [{ id := "T", shortLabel := "", label := "", searchKey := ["T"] }]
          }] }] } ∧
      Index.ofValue ({ language := "go", byteCount := 1, libraries := [{
          name := "", id := "lib", pages := [{
            path := "a.go", title := "",
            sections := [{ id := "T", shortLabel := "", label := "", searchKey := ["T"] }] }] }] } :
          Index).toValue =
        .ok { language := "go", byteCount := 1, libraries := [{
          name := "", id := "lib", pages := [{
            path := "a.go", title := "",
            sections := [{ id := "T", shortLabel := "", label := "", searchKey := ["T"] }]
          }] }] } := by
  refine ⟨⟨by decide, Index.written_reads_back.1 _ (by decide)⟩, ?read,
    Index.written_reads_back.2 _ _ ?read⟩
  simp [Index.ofValue, Value.object, Value.lookup, latestVersion, indexBody, requiredText, textOr,
    membersAt, membersOf, readEach, libraryOf, pageOf, sectionOf, roleOf, keyAt, keyOf,
    Value.getOr, Value.require, liftFault, Except.map, Value.toInteger, bind, Except.bind, pure,
    Except.pure]

end DocIndex.Document
