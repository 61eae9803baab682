import DocIndex.Document.Basic
import DocIndex.Data.Value

/-!
# Writing index documents

The document of an index is a mapping with every field present: texts as texts, counts as
integers, keys as lists of texts, and the role of each section by its name.
-/

namespace DocIndex.Document

open DocIndex.Data

/-- A section as a document value. -/
def Section.toValue : Section → Value
  | ⟨id, shortLabel, label, detail, searchKey, role, children⟩ =>
    Value.object [
      ("id", .text id),
      ("short_label", .text shortLabel),
      ("label", .text label),
      ("detail", .text detail),
      ("search_key", Value.texts searchKey),
      ("role", .text role.name),
      ("children", .list (sectionsToValue children))]
where
  sectionsToValue : List Section → List Value
    | [] => []
    | node :: rest => node.toValue :: sectionsToValue rest

/-- A page as a document value. -/
def Page.toValue (page : Page) : Value :=
  Value.object [
    ("path", .text page.path),
    ("title", .text page.title),
    ("detail", .text page.detail),
    ("search_key", Value.texts page.searchKey),
    ("sections", .list (page.sections.map Section.toValue))]

/-- A library as a document value. -/
def Library.toValue (library : Library) : Value :=
  Value.object [
    ("name", .text library.name),
    ("id", .text library.id),
    ("repository", .text library.repository),
    ("version", .text library.version),
    ("version_type", .text library.versionType),
    ("pages", .list (library.pages.map Page.toValue))]

/-- An index as a document value. -/
def Index.toValue (index : Index) : Value :=
  Value.object [
    ("schema_version", .int index.schemaVersion),
    ("language", .text index.language),
    ("num_files", .int index.fileCount),
    ("num_bytes", .int index.byteCount),
    ("libraries", .list (index.libraries.map Library.toValue))]

end DocIndex.Document
