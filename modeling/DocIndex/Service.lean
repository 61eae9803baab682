import DocIndex.Cli.Run
import DocIndex.Access

/-!
# The search service

A server offers three tools over one store and one search engine: `search` ranks the
stored indexes for a query, `list_indexes` describes them, and `index_directory` indexes a
directory as a project, which a read-only server refuses. Creating a server opens the
store, which must be usable.

A tool is called with its arguments by name. A name the tool does not take, or a missing
required one, is a wrong call. A search's limit must be at least one; a result's detail
longer than 500 characters is cut to 500 followed by `...`. An empty project (or any value
that counts as false) means every project.
-/

namespace DocIndex

open DocIndex.Data DocIndex.Disk DocIndex.Document DocIndex.Search DocIndex.Cli

/-- The names of the tools, in order. -/
def toolNames : List String :=
  ["index_directory", "list_indexes", "search"]

/-- The longest detail a search result shows in full. -/
def maxToolDetail : Nat := 500

/-- A server: its settings and its search engine. -/
structure Server where
  settings : Settings
  engine : Engine := {}

/-- Arguments of a tool call, by name. -/
abbrev Arguments := List (String × Value)

/-- Check the names of a call's arguments against the names a tool takes and those it
requires. -/
def checkArguments (tool : String) (takes required : List String) (args : Arguments) :
    Except Failure Unit :=
  let qualified := "register_tools.<locals>." ++ tool ++ "()"
  match args.find? fun (name, _) => !takes.contains name with
  | some (name, _) =>
    .error (.badType (qualified ++ " got an unexpected keyword argument '" ++ name ++ "'"))
  | none =>
    match required.filter fun name => !(args.any (·.1 == name)) with
    | [] => .ok ()
    | missing =>
      .error (.badType (qualified ++ " missing " ++ toString missing.length ++
        " required positional argument" ++ (if missing.length = 1 then "" else "s") ++ ": " ++
        " and ".intercalate (missing.map fun name => "'" ++ name ++ "'")))

/-- Whether a limit is below one, compared as a number. -/
def belowOne : Value → Except Failure Bool
  | .int n => .ok (n < 1)
  | .bool flag => .ok !flag
  | .float x => .ok (x < 1)
  | other =>
    .error (.badType ("'<' not supported between instances of '" ++ other.kindName ++
      "' and 'int'"))

/-- A detail cut for a tool's result. -/
def toolDetail (detail : String) : String :=
  if detail.length > maxToolDetail then String.ofList (detail.toList.take maxToolDetail) ++ "..."
  else detail

/-- A search result as a tool returns it. -/
def toolResult (result : Result) : Value :=
  Value.object [("project", .text result.project), ("language", .text result.language),
    ("library", .text result.library), ("page_path", .text result.pagePath),
    ("section_path", Value.texts result.sectionPath), ("label", .text result.label),
    ("detail", .text (toolDetail result.detail)), ("score", .float (Float.ofNat result.score)),
    ("search_key", .text result.searchKey)]

/-- A stored index as a tool describes it. -/
def toolInfo (info : RecordInfo) : Value :=
  Value.object [("project", .text info.project), ("language", .text info.language),
    ("schema_version", .int info.schemaVersion), ("num_files", .int info.fileCount),
    ("num_bytes", .int info.byteCount),
    ("indexed_at", .text (String.ofList (info.indexedAt.toList.map fun c =>
      if c = ' ' then 'T' else c)))]

/-- The project a tool argument names: none for a value that counts as false. -/
def projectArgument (value : Value) : Option String :=
  if value.truthy then some value.display else none

namespace Server

/-- Create a server over a workspace: the store must be usable. -/
def create (workspace : Workspace) (settings : Settings) : Except Failure Server := do
  let store := workspace.openStore settings
  store.usable
  let _ ← store.keys
  pure { settings }

/-- Run the `search` tool. -/
def search (server : Server) (store : Store) (args : Arguments) :
    Except Failure Value × Server :=
  let fail := fun (failure : Failure) => (Except.error failure, server)
  match checkArguments "search" ["query", "project", "limit"] ["query"] args with
  | .error failure => fail failure
  | .ok () =>
    let query := (args.lookup "query").getD .null
    let project := (args.lookup "project").getD .null
    let limit := (args.lookup "limit").getD (.int 20)
    match belowOne limit with
    | .error failure => fail failure
    | .ok true => fail (.badValue ("limit must be >= 1, got " ++ limit.display))
    | .ok false =>
      match query with
      | .text text =>
        let scope := projectArgument project
        let (engine, result) := server.engine.search store none text scope limit
        (result.map fun results => .list (results.map toolResult), { server with engine })
      | other =>
        match server.engine.build store none (projectArgument project) with
        | .error failure => fail failure
        | .ok (_, engine) =>
          (.error (.badType ("expected string or bytes-like object, got '" ++ other.kindName ++
            "'")), { server with engine })

/-- Run the `list_indexes` tool. -/
def listIndexes (store : Store) (args : Arguments) : Except Failure Value := do
  checkArguments "list_indexes" ["project"] [] args
  let infos ← store.infos (projectArgument ((args.lookup "project").getD .null))
  pure (.list (infos.map toolInfo))

/-- Run the `index_directory` tool. -/
def indexDirectory (server : Server) (workspace : Workspace) (args : Arguments) :
    Except Failure Value × Workspace :=
  let fail := fun (failure : Failure) => (Except.error failure, workspace)
  match checkArguments "index_directory" ["path", "project"] ["path"] args with
  | .error failure => fail failure
  | .ok () =>
    match requireIndexAccess server.settings "index_directory" with
    | .error failure => fail failure
    | .ok () =>
      match (args.lookup "path").getD .null with
      | .text path =>
        let root := workspace.host.sourceRoot path
        match root.node with
        | some (.dir _) =>
          let name := (projectArgument ((args.lookup "project").getD .null)).getD root.name
          let (result, store) := ((indexProject workspace.host.parsers workspace.host.pool none
            server.settings.workers name root).run).run (workspace.openStore server.settings)
          let after := workspace.withStore server.settings store
          (result.map fun indexes => Value.object [("project", .text name),
            ("languages", .dict ((sortedByLanguage indexes).map fun (language, index) =>
              (.text language, Value.object [("num_files", .int index.fileCount),
                ("num_bytes", .int index.byteCount)])))], after)
        | _ => fail (.badValue ("Not a directory: " ++ path))
      | other =>
        fail (.badType ("expected str, bytes or os.PathLike object, not " ++ other.kindName))

/-- Call a tool by name with arguments; none for a tool the server does not offer. -/
def call (server : Server) (workspace : Workspace) (tool : String) (args : Arguments) :
    Option (Except Failure Value × Server × Workspace) :=
  let store := workspace.openStore server.settings
  if tool == "search" then
    let (result, next) := server.search store args
    some (result, next, workspace)
  else if tool == "list_indexes" then some (listIndexes store args, server, workspace)
  else if tool == "index_directory" then
    let (result, after) := server.indexDirectory workspace args
    some (result, server, after)
  else none

/-- Serve calls one after another, each on the server and workspace the one before left: the
answers in order (none for a tool the server does not offer), then the server and the
workspace at the end. -/
def serve (server : Server) (workspace : Workspace) :
    List (String × Arguments) → List (Option (Except Failure Value)) × Server × Workspace
  | [] => ([], server, workspace)
  | (tool, args) :: rest =>
    match server.call workspace tool args with
    | some (answer, next, after) =>
      let later := next.serve after rest
      (some answer :: later.1, later.2)
    | none =>
      let later := server.serve workspace rest
      (none :: later.1, later.2)

end Server

end DocIndex
