import DocIndex.Document.Decode
import DocIndex.Document.Validate
import DocIndex.Document.Encode
import DocIndex.Data.Json
import DocIndex.Search.Entry
import DocIndex.Search.Ranking

/-!
# The index store

A store keeps one index per key, a project and a language, each record with the schema
version and counts of its index. Records are kept in the order of their keys: project,
then language, texts compared by code point. A generation counter moves with every change
of the contents, so that what is derived from them can tell when it is stale. Each record
carries the time it was written, read off the store's clock.

Putting an index checks the key (neither part empty), that the index is of the key's
language and that it is well formed; then a cancellation checkpoint; then the store must
be usable, and the values it writes are bound in their column order: the project and the
language as UTF-8, the numbers in a signed 64-bit column, then the index's document as
compact JSON text in UTF-8. A text holding a lone surrogate cannot be bound, and the
failure is not the store's own. Every call that looks a key up binds its texts the same
way. A record may also be written
as a raw text; loading it reads the text as an index document, and a record whose text is
not JSON or not an index is corrupt. A record of a newer schema than this reader knows is
refused by its version before its text is read.

A store that cannot be opened fails every call that reaches it with the same message;
the checks that come before it still come first.
-/

namespace DocIndex

open DocIndex.Document DocIndex.Data DocIndex.Search

/-- What a record holds: an index put into the store, or a text written into it directly,
read as an index document when the record is loaded. -/
inductive Payload where
  | index (index : Index)
  | text (text : String)

/-- What the store tells about a record without loading it. -/
structure RecordInfo where
  project : String
  language : String
  schemaVersion : Int
  fileCount : Int
  byteCount : Int
  indexedAt : String

/-- A stored record: what is told about it, and its payload. -/
structure Record where
  info : RecordInfo
  payload : Payload

/-- A store of indexes, one per project and language. -/
structure Store where
  records : List Record := []
  generation : Nat := 0
  fault : Option String := none
  clock : String := "1970-01-01 00:00:00"

/-- Check a key: neither the project nor the language may be empty. -/
def checkKey (project language : String) : Except Failure Unit := do
  if project.isEmpty then throw (.badValue "Project name must not be empty")
  if language.isEmpty then throw (.badValue "Language must not be empty")

/-- Whether an integer fits a signed 64-bit column. -/
def fitsColumn (n : Int) : Bool :=
  -Int.pow 2 63 ≤ n && n < Int.pow 2 63

/-- Check that integers fit a signed 64-bit column. -/
def checkColumns (numbers : List Int) : Except Failure Unit :=
  if numbers.all fitsColumn then .ok ()
  else .error (.overflow "Python int too large to convert to SQLite INTEGER")

/-- The text a put stores: the index's document as compact JSON, characters kept as they
are. -/
def payloadOf (index : Index) : String :=
  Json.write .compact index.toValue

/-- Whether key `a` comes before key `b`: by project, then language, by code point. -/
def keyBefore (a b : String × String) : Bool :=
  ((compareText a.1 b.1).then (compareText a.2 b.2)) == .lt

/-- The key of a record. -/
def Record.key (record : Record) : String × String :=
  (record.info.project, record.info.language)

/-- Put a record among records in key order, replacing the record of the same key. -/
def placeRecord (record : Record) : List Record → List Record
  | [] => [record]
  | other :: rest =>
    if keyBefore record.key other.key then record :: other :: rest
    else if other.key == record.key then record :: rest
    else other :: placeRecord record rest

/-- The message of a record that cannot be read as an index. -/
def corruptRecord (key reason : String) : Failure :=
  .storage ("Corrupt index record for " ++ key ++ ": " ++ reason)

/-- Read the text of a record stored under `key` as an index. -/
def readRecordText (key text : String) : Except Failure Index :=
  match Json.read text with
  | .error (.malformed fault) => .error (corruptRecord key fault.message)
  | .error (.longInteger count) => .error (.badValue (Text.digitLimitMessage count))
  | .error (.tooDeep container) => .error (.tooDeep (JsonError.tooDeep container).message)
  | .ok document =>
    match Index.ofValue document with
    | .ok index => .ok index
    | .error (.newerSchema found supported _) => .error (.newerSchema found supported (some key))
    | .error (.schema reason) => .error (corruptRecord key reason)
    | .error other => .error other

namespace Store

/-- A store that cannot be opened, and why. -/
def unusable (message : String) : Store :=
  { fault := some message }

/-- Check that the store can be used. -/
def usable (store : Store) : Except Failure Unit :=
  match store.fault with
  | some message => .error (.storage message)
  | none => .ok ()

/-- The record under a key. -/
def find? (store : Store) (project language : String) : Option Record :=
  store.records.find? fun record => record.key == (project, language)

/-- The store with a record placed and the generation moved on. -/
def place (store : Store) (record : Record) : Store :=
  { store with records := placeRecord record store.records, generation := store.generation + 1 }

/-- Store an index under a key, replacing the one stored there. -/
def put (store : Store) (halt : Halt) (project language : String) (index : Index) :
    Except Failure Store := do
  checkKey project language
  if index.language != language then
    throw (.schema ("Index language '" ++ index.language ++ "' does not match key language '" ++
      language ++ "'"))
  index.validate
  checkpoint halt
  store.usable
  encodeStrict project
  encodeStrict language
  checkColumns [index.schemaVersion, index.fileCount, index.byteCount]
  encodeStrict (payloadOf index)
  pure (store.place ⟨⟨project, language, index.schemaVersion, index.fileCount, index.byteCount,
    store.clock⟩, .index index⟩)

/-- Write a text as the record of a key, with a schema version and no counts, replacing the
record stored there. -/
def putText (store : Store) (project language : String) (schemaVersion : Int) (text : String) :
    Except Failure Store := do
  store.usable
  encodeStrict project
  encodeStrict language
  checkColumns [schemaVersion]
  encodeStrict text
  pure (store.place ⟨⟨project, language, schemaVersion, 0, 0, store.clock⟩, .text text⟩)

/-- Load the index stored under a key. -/
def get (store : Store) (halt : Halt) (project language : String) : Except Failure Index := do
  checkKey project language
  checkpoint halt
  store.usable
  encodeStrict project
  encodeStrict language
  let some record := store.find? project language | throw (.notStored project language)
  let key := project ++ "/" ++ language
  if record.info.schemaVersion > latestVersion then
    throw (.newerSchema record.info.schemaVersion latestVersion (some key))
  match record.payload with
  | .index index => pure index
  | .text text => readRecordText key text

/-- Whether an index is stored under a key. -/
def contains (store : Store) (project language : String) : Except Failure Bool := do
  store.usable
  encodeStrict project
  encodeStrict language
  pure (store.find? project language).isSome

/-- Delete the index stored under a key, telling whether there was one; the generation
moves on only when one was deleted. -/
def delete (store : Store) (project language : String) : Except Failure (Bool × Store) := do
  store.usable
  encodeStrict project
  encodeStrict language
  if (store.find? project language).isSome then
    pure (true, { store with
      records := store.records.filter fun record => record.key != (project, language),
      generation := store.generation + 1 })
  else pure (false, store)

/-- The stored keys, in key order. -/
def keys (store : Store) : Except Failure (List (String × String)) := do
  store.usable
  pure (store.records.map Record.key)

/-- What is told about the stored records, of one project when one is named (an empty
name names none). -/
def infos (store : Store) (project : Option String) : Except Failure (List RecordInfo) := do
  store.usable
  if let some name := project then
    if !name.isEmpty then encodeStrict name
  let all := store.records.map Record.info
  pure (match project with
    | some name => if name.isEmpty then all else all.filter fun info => info.project == name
    | none => all)

/-- The projects with a stored index, in code-point order. -/
def projects (store : Store) : Except Failure (List String) := do
  store.usable
  pure (store.records.map fun record => record.info.project).eraseDups

/-- The languages stored for a project, in code-point order. -/
def languages (store : Store) (project : String) : Except Failure (List String) := do
  store.usable
  encodeStrict project
  pure ((store.records.filter fun record => record.info.project == project).map
    fun record => record.info.language)

/-- The generation of the contents. -/
def currentGeneration (store : Store) : Except Failure Nat := do
  store.usable
  pure store.generation

end Store

end DocIndex
