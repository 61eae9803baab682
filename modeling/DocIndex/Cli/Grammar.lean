import DocIndex.Cli.Arguments

/-!
# The command line's grammar

The command line takes a flag for debug output and one of four commands, each with its own
arguments: `index` a directory (the working directory by default) as a project, `search`
the stored indexes for a query, `list` them, and `serve` them. Arguments after the command
belong to it; what neither the command nor the program reads is an error of the program.
-/

namespace DocIndex.Cli

open DocIndex.Data

/-- The help option every grammar has. -/
def helpOption : OptionSpec :=
  ⟨["-h", "--help"], "help", .help, "show this help message and exit"⟩

/-- The option naming a project. -/
def projectOption (help : String) : OptionSpec :=
  ⟨["--project"], "project", .text "PROJECT", help⟩

/-- The grammar of `index`. -/
def indexGrammar : ParserSpec :=
  { prog := "doctree index",
    options := [helpOption, projectOption "Project name (default: directory name)"],
    positional := some
      { dest := "directory", arity := .optional, fallback := ".", display := "directory",
        help := "Directory to index" } }

/-- The grammar of `search`. -/
def searchGrammar : ParserSpec :=
  { prog := "doctree search",
    options := [helpOption, projectOption "Search in a specific project",
      ⟨["--limit"], "limit", .integer "LIMIT", "Maximum results"⟩],
    positional := some
      { dest := "query", arity := .one, display := "query",
        help := "Search query, e.g. 'pkg.run'" } }

/-- The grammar of `list`. -/
def listGrammar : ParserSpec :=
  { prog := "doctree list", options := [helpOption, projectOption "Only list this project"] }

/-- The grammar of `serve`. -/
def serveGrammar : ParserSpec :=
  { prog := "doctree serve",
    options := [helpOption, ⟨["--host"], "host", .text "HOST", "Interface to bind"⟩,
      ⟨["--read-only"], "read_only", .flag,
        "Run in read-only mode (disable the index_directory tool)"⟩] }

/-- The commands: name, help and grammar. -/
def commandGrammars : List (String × String × ParserSpec) :=
  [("index", "Index a source directory", indexGrammar),
   ("search", "Search indexed projects", searchGrammar),
   ("list", "List stored indexes", listGrammar),
   ("serve", "Run the MCP server", serveGrammar)]

/-- The program's grammar. -/
def programGrammar : ParserSpec :=
  { prog := "doctree",
    description := "doctree - documentation index and symbol search for source trees",
    options := [helpOption, ⟨["-v", "--verbose"], "verbose", .flag, "Enable debug logging"⟩],
    positional := some
      { dest := "command", arity := .rest,
        display := "\x7b" ++ ",".intercalate (commandGrammars.map (·.1)) ++ "\x7d",
        entries := commandGrammars.map fun (name, help, _) => (name, help) } }

/-- What the command line asks for. -/
inductive Command where
  | index (directory : String) (project : Option String)
  | search (query : String) (project : Option String) (limit : Int)
  | list (project : Option String)
  | serve (host : String) (readOnly : Bool)

/-- A command with the program's own flag. -/
structure Invocation where
  verbose : Bool
  command : Command

/-- The text assigned to a destination, the latest one. -/
def assignedText (assigned : List (String × Assigned)) (dest : String) : Option String :=
  match assigned.lookup dest with
  | some (.text value) => some value
  | _ => none

/-- Whether a flag was given. -/
def assignedFlag (assigned : List (String × Assigned)) (dest : String) : Bool :=
  match assigned.lookup dest with
  | some .flag => true
  | _ => false

/-- The integer assigned to a destination, or a default. -/
def assignedInteger (assigned : List (String × Assigned)) (dest : String) (default : Int) : Int :=
  match assigned.lookup dest with
  | some (.integer n) => n
  | _ => default

/-- The command a command name and its values stand for. -/
def commandOf (name : String) (assigned : List (String × Assigned)) : Command :=
  let project := assignedText assigned "project"
  if name == "index" then .index ((assignedText assigned "directory").getD ".") project
  else if name == "search" then
    .search ((assignedText assigned "query").getD "") project (assignedInteger assigned "limit" 20)
  else if name == "list" then .list project
  else .serve ((assignedText assigned "host").getD "0.0.0.0") (assignedFlag assigned "read_only")

/-- Read a command line. -/
def Invocation.parse (argv : List String) : Except Exit Invocation := do
  let (top, extras) ← programGrammar.parse argv
  let words := match top.lookup "command" with
    | some (.words values) => values
    | _ => []
  let name := words.headD ""
  let some (_, _, grammar) := commandGrammars.find? (·.1 == name)
    | throw (programGrammar.fail ("argument command: invalid choice: " ++ quoteText name ++
        " (choose from " ++ ", ".intercalate (commandGrammars.map fun entry => quoteText entry.1) ++
        ")"))
  let (assigned, unrecognized) ← grammar.parse words.tail
  let unread := extras ++ unrecognized
  if !unread.isEmpty then
    throw (programGrammar.fail ("unrecognized arguments: " ++ " ".intercalate unread))
  pure { verbose := assignedFlag top "verbose", command := commandOf name assigned }

end DocIndex.Cli
