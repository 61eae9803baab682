import DocIndex.Cli.Grammar
import DocIndex.Host
import DocIndex.Search.Engine

/-!
# Running the command line

A command line runs against a workspace: a host and the index store that the settings
name. The settings are read from the host's environment once the command line is parsed;
`serve --read-only` turns read-only mode on whatever the environment says.

* `index` indexes a directory as a project (named after the directory's resolved name
  unless a non-empty name is given) and prints each language's counts, sorted by
  language, or that nothing was found;
* `search` prints each result's score, key, project and language, then its label and page,
  or that there are no results;
* `list` prints each stored index with its counts and the minute it was written, or that
  nothing is indexed;
* `serve` hands the settings and the host to bind over to a server.

A failure of the library's own family or a wrong value ends the run with status 1 and an
error line in the log; a record of a newer schema adds advice to upgrade or reindex. Any
other failure is not handled by the command line.

The store is unusable when a directory lies where the database should be, or a file that
is not empty (and so not a database); changes made through an unusable store are none.
-/

namespace DocIndex.Cli

open DocIndex.Data DocIndex.Disk DocIndex.Document DocIndex.Search

/-- The library's own parsers: Python and Go sources read as UTF-8 with wrong sequences
replaced, and its YAML loader. -/
def ownParsers : Parsers :=
  ⟨fun content => Python.readModule (Text.decodeLossy content),
   fun content => Go.readFile (Text.decodeLossy content), Yaml.load⟩

/-- What a command line runs against: the host, and the index store. -/
structure Workspace where
  host : Host
  store : Store

/-- What a finished run printed, logged and returned. -/
structure Outcome where
  code : Nat
  stdout : String := ""
  stderr : String := ""
  log : List (String × String) := []

/-- How a run ends. -/
inductive Reply where
  | finished (outcome : Outcome)
  | serving (settings : Settings) (host : String)
  | crashed (failure : Failure)

/-- How a run ends on a failure. -/
def replyOfFailure (failure : Failure) : Reply :=
  match failure with
  | .newerSchema .. =>
    .finished
      { code := 1,
        log := [("ERROR", failure.message ++ ". Upgrade doctree or reindex the project.")] }
  | _ =>
    if failure.isReported then .finished { code := 1, log := [("ERROR", failure.message)] }
    else .crashed failure

/-- A run that printed lines and succeeded. -/
def printed (lines : List String) : Reply :=
  .finished { code := 0, stdout := String.join (lines.map (· ++ "\n")) }

/-- A text padded with spaces on the left to a width. -/
def padLeft (text : String) (width : Nat) : String :=
  spaces (width - text.length) ++ text

/-- A whole score written with one decimal in six places. -/
def scoreText (score : Nat) : String :=
  padLeft (toString score ++ ".0") 6

/-- The lines of a search result. -/
def resultLines (result : Result) : List String :=
  [scoreText result.score ++ "  " ++ result.searchKey ++ "  [" ++ result.project ++ "/" ++
    result.language ++ "]",
   "        " ++ result.label ++ "  (" ++ result.pagePath ++ ")"]

/-- The line of a stored index: its counts and the minute it was written. -/
def infoLine (info : RecordInfo) : String :=
  info.project ++ "  " ++ info.language ++ "  " ++ toString info.fileCount ++ " files  " ++
    toString info.byteCount ++ " bytes  indexed " ++ String.ofList (info.indexedAt.toList.take 16)

/-- Languages with their indexes, sorted by language. -/
def sortedByLanguage (indexes : List (String × Index)) : List (String × Index) :=
  indexes.mergeSort fun a b => compareText a.1 b.1 != .gt

namespace Workspace

/-- The store that the settings name, as the workspace can open it. -/
def openStore (workspace : Workspace) (settings : Settings) : Store :=
  let location := settings.indexDb.text
  match workspace.host.lookup settings.indexDb with
  | some (.dir _) =>
    Store.unusable ("Failed to initialize index store " ++ location ++
      ": unable to open database file")
  | some (.file content) =>
    if content.isEmpty then workspace.store
    else Store.unusable ("Failed to initialize index store " ++ location ++
      ": file is not a database")
  | none => workspace.store

/-- Whether the workspace can open the store that the settings name. -/
def canOpenStore (workspace : Workspace) (settings : Settings) : Bool :=
  (workspace.openStore settings).fault.isNone

/-- The workspace with the store changed, unless the store could not be opened. -/
def withStore (workspace : Workspace) (settings : Settings) (store : Store) : Workspace :=
  if workspace.canOpenStore settings then { workspace with store } else workspace

/-- Index a directory as a project. -/
def runIndex (workspace : Workspace) (settings : Settings) (directory : String)
    (project : Option String) : Reply × Workspace :=
  let root := workspace.host.sourceRoot directory
  let name := match project with
    | some given => if given.isEmpty then root.name else given
    | none => root.name
  let (result, store) :=
    ((indexProject workspace.host.parsers workspace.host.pool none settings.workers name
      root).run).run (workspace.openStore settings)
  let after := workspace.withStore settings store
  match result with
  | .error failure => (replyOfFailure failure, after)
  | .ok indexes =>
    if indexes.isEmpty then
      (printed [name ++ ": no supported source files found under " ++ root.location], after)
    else
      (printed ((sortedByLanguage indexes).map fun (language, index) =>
        name ++ ": " ++ language ++ ": " ++ toString index.fileCount ++ " files, " ++
          toString index.byteCount ++ " bytes"), after)

/-- Search the stored indexes. -/
def runSearch (workspace : Workspace) (settings : Settings) (query : String)
    (project : Option String) (limit : Int) : Reply :=
  match searchOnce (some (workspace.openStore settings)) none query project (.int limit) with
  | .error failure => replyOfFailure failure
  | .ok [] => printed ["No results."]
  | .ok results => printed (results.flatMap resultLines)

/-- List the stored indexes. -/
def runList (workspace : Workspace) (settings : Settings) (project : Option String) : Reply :=
  match (workspace.openStore settings).infos project with
  | .error failure => replyOfFailure failure
  | .ok [] => printed ["Nothing indexed yet."]
  | .ok infos => printed (infos.map infoLine)

/-- Run a command line. -/
def run (workspace : Workspace) (argv : List String) : Reply × Workspace :=
  match Invocation.parse argv with
  | .error exit =>
    (.finished { code := exit.code, stdout := exit.stdout, stderr := exit.stderr }, workspace)
  | .ok invocation =>
    let readOnly := match invocation.command with
      | .serve _ flag => flag
      | _ => false
    match Settings.fromEnvironment workspace.host.env workspace.host.homeText
        (if readOnly then some true else none) with
    | .error failure => (replyOfFailure failure, workspace)
    | .ok settings =>
      match invocation.command with
      | .index directory project => workspace.runIndex settings directory project
      | .search query project limit => (workspace.runSearch settings query project limit, workspace)
      | .list project => (workspace.runList settings project, workspace)
      | .serve host _ => (.serving settings host, workspace)

end Workspace

end DocIndex.Cli
