import DocIndex.Document.Basic
import DocIndex.Data.Fault
import DocIndex.Failure

/-!
# Reading index documents

`Index.ofValue` reads a document value as an index. Absent optional fields take their
defaults, and every field that should hold text takes the display text of whatever it
holds (`null` becomes `None`, a mapping its literal). Counts are read as integers the way
a person types them. A document that is no mapping, or whose `schema_version` is no
integer, is refused; a newer version is refused as such; any other request the document
cannot answer is refused as a malformed document that quotes the fault.
-/

namespace DocIndex.Document

open DocIndex.Data

/-- Why a part of a document could not be read: a fault of dynamic access, or a schema
failure raised on the spot. -/
inductive Trouble where
  | fault (fault : Fault)
  | failure (failure : Failure)

/-- Lift a dynamic access into a reading step. -/
def liftFault {α : Type} : Except Fault α → Except Trouble α
  | .ok value => .ok value
  | .error fault => .error (.fault fault)

/-- The display text of the value under a key, or of `fallback`. -/
def textOr (data : Value) (key : String) (fallback : String) : Except Trouble String :=
  liftFault ((data.getOr key (.text fallback)).map Value.display)

/-- The display text of the value under a required key. -/
def requiredText (data : Value) (key : String) : Except Trouble String :=
  liftFault ((data.require key).map Value.display)

/-- A search key: `null` is the empty key, a list or tuple gives the display texts of its
items, and anything else is refused. -/
def keyOf : Value → Except Trouble (List String)
  | .null => .ok []
  | .list items => .ok (items.map Value.display)
  | .tuple items => .ok (items.map Value.display)
  | .bytes data => .ok (data.map fun byte => toString byte.toNat)
  | other => .error (.failure (.schema ("search_key must be a list of strings, got " ++
      other.literal)))

/-- The search key under the `search_key` field of a mapping. -/
def keyAt (entries : List (Value × Value)) : Except Trouble (List String) :=
  keyOf ((Value.lookup entries "search_key").getD .null)

/-- A section's role: the name of a role, or a refusal naming the section's identifier. -/
def roleOf (entries : List (Value × Value)) : Except Trouble Role :=
  match (Value.lookup entries "role").getD (.text "symbol") with
  | .text "symbol" => .ok .symbol
  | .text "category" => .ok .category
  | _ =>
    let identifier := ((Value.lookup entries "id").getD .null).display
    .error (.failure (.schema ("Unknown section role in section '" ++ identifier ++ "'")))

/-- The members of a collection, in the order iterating it yields them: the items of a
sequence or set, the characters of a text, the keys of a mapping, the bytes of a byte
string. Other values have no members. -/
def membersOf : Value → Except Trouble (List Value)
  | .list items => .ok items
  | .tuple items => .ok items
  | .set items => .ok items
  | .text content => .ok (content.toList.map fun c => .text (String.singleton c))
  | .bytes data => .ok (data.map fun byte => .int byte.toNat)
  | .dict entries => .ok (entries.map Prod.fst)
  | other => .error (.fault (.notIterable other.kindName))

/-- The members under a key of a mapping, none when the key is absent. -/
def membersAt (entries : List (Value × Value)) (key : String) : Except Trouble (List Value) :=
  membersOf ((Value.lookup entries key).getD (.list []))

/-- A value found under a key of a mapping is smaller than the mapping's entries. -/
theorem sizeOf_lookup_lt {entries : List (Value × Value)} {key : String} {found : Value}
    (present : Value.lookup entries key = some found) :
    sizeOf found < sizeOf entries := by
  induction entries with
  | nil => simp [Value.lookup] at present
  | cons entry rest ih =>
    obtain ⟨name, value⟩ := entry
    cases name with
    | text content =>
      simp only [Value.lookup] at present
      split at present
      · cases present
        simp
        omega
      · have := ih present
        simp
        omega
    | _ =>
      simp only [Value.lookup] at present
      have := ih present
      simp
      omega

/-- Read a section from a document value. -/
def sectionOf : Value → Except Trouble Section
  | .dict entries => do
    let role ← roleOf entries
    let id ← requiredText (.dict entries) "id"
    let shortLabel ← textOr (.dict entries) "short_label" ""
    let label ← textOr (.dict entries) "label" ""
    let detail ← textOr (.dict entries) "detail" ""
    let searchKey ← keyAt entries
    let children ← match _present : Value.lookup entries "children" with
      | none => pure []
      | some (.list items) => items.attach.mapM fun ⟨item, _⟩ => sectionOf item
      | some (.tuple items) => items.attach.mapM fun ⟨item, _⟩ => sectionOf item
      | some (.set items) => items.attach.mapM fun ⟨item, _⟩ => sectionOf item
      | some other => do
        match ← membersOf other with
        | [] => pure []
        | first :: _ => .error (.fault (.noLookup first.kindName))
    pure { id, shortLabel, label, detail, searchKey, role, children }
  | other => .error (.fault (.noLookup other.kindName))
termination_by data => sizeOf data
decreasing_by
  all_goals
    rename_i mem
    have inItems := List.sizeOf_lt_of_mem mem
    have inEntries := sizeOf_lookup_lt _present
    simp only [Value.list.sizeOf_spec, Value.tuple.sizeOf_spec, Value.set.sizeOf_spec,
      Value.dict.sizeOf_spec] at inEntries ⊢
    omega

/-- Read each item of a list with `read`, stopping at the first refusal. -/
def readEach {α : Type} (read : Value → Except Trouble α) : List Value → Except Trouble (List α)
  | [] => .ok []
  | item :: rest => do
    let first ← read item
    let others ← readEach read rest
    pure (first :: others)

/-- Read a page from a document value. -/
def pageOf (data : Value) : Except Trouble Page := do
  let path ← requiredText data "path"
  match data with
  | .dict entries =>
    let title ← textOr data "title" ""
    let detail ← textOr data "detail" ""
    let searchKey ← keyAt entries
    let sections ← readEach sectionOf (← membersAt entries "sections")
    pure { path, title, detail, searchKey, sections }
  | _ => .error (.fault (.notIndexable data.kindName))

/-- Read a library from a document value. -/
def libraryOf (data : Value) : Except Trouble Library := do
  let name ← textOr data "name" ""
  let id ← requiredText data "id"
  match data with
  | .dict entries =>
    let repository ← textOr data "repository" ""
    let version ← textOr data "version" ""
    let versionType ← textOr data "version_type" ""
    let pages ← readEach pageOf (← membersAt entries "pages")
    pure { name, id, repository, version, versionType, pages }
  | _ => .error (.fault (.noLookup data.kindName))

/-- The failure a reading trouble of an index body becomes: a schema failure raised on the
spot stays as it is, a fault is quoted in a malformed-document failure, and an overflow
stays an overflow. -/
def Trouble.toFailure : Trouble → Failure
  | .failure reason => reason
  | .fault problem =>
    if problem.isSchemaFault then .schema ("Malformed index document: " ++ problem.literal)
    else .overflow problem.message

/-- Read the body of an index whose schema version was accepted. -/
def indexBody (entries : List (Value × Value)) (version : Int) : Except Trouble Index := do
  let language ← requiredText (.dict entries) "language"
  let fileCount ← liftFault ((Value.lookup entries "num_files").getD (.int 0)).toInteger
  let byteCount ← liftFault ((Value.lookup entries "num_bytes").getD (.int 0)).toInteger
  let libraries ← readEach libraryOf (← membersAt entries "libraries")
  pure { language, schemaVersion := version, fileCount, byteCount, libraries }

/-- Read an index from a document value. -/
def Index.ofValue (data : Value) : Except Failure Index :=
  match data with
  | .dict entries =>
    match (Value.lookup entries "schema_version").getD .null with
    | .int version =>
      if version > latestVersion then .error (.newerSchema version latestVersion none)
      else
        match indexBody entries version with
        | .ok index => .ok index
        | .error trouble => .error trouble.toFailure
    | other => .error (.schema ("Missing or invalid schema_version: " ++ other.literal))
  | _ => .error (.schema "Index document must be a mapping")

end DocIndex.Document
