import DocIndex.Cli.Run
import DocIndex.Data.Json

/-!
# The command line

`doctree ARGS` runs one command line over a source tree given on standard input, as a JSON
object that maps relative paths to their text (`null` makes a directory). The tree is the
working directory; the home directory is empty and the index store starts empty. The
settings come from the process's `DOCTREE_*` environment variables. What the command
prints goes to standard output, its usage errors and log lines to standard error, and its
status is the exit status.
-/

namespace DocIndex.Cli

open DocIndex.Data DocIndex.Disk

/-- The environment variables the settings read. -/
def settingNames : List String :=
  ["DOCTREE_DATA_DIR", "DOCTREE_DB", "DOCTREE_PORT", "DOCTREE_AUTH_TOKEN", "DOCTREE_READ_ONLY",
   "DOCTREE_WORKERS"]

/-- The directory tree a JSON object of relative paths describes. -/
def treeOf (description : Value) : Node :=
  match description with
  | .dict entries => entries.foldl (fun tree entry =>
      match entry with
      | (.text path, .text content) => tree.put (PurePath.parse path).parts (.file content.toUTF8.toList)
      | (.text path, .null) => tree.makeDir (PurePath.parse path).parts
      | _ => tree) Node.empty
  | _ => Node.empty

/-- The workspace of a tree and an environment, whose pool ends jobs in submission order. -/
def workspaceFor (tree : Node) (env : Environment) : Workspace :=
  { host := { files := (Node.empty.put ["work"] tree).put ["home"] Node.empty,
              work := ["work"], home := ["home"], env, parsers := ownParsers,
              pool := Schedule.inOrder },
    store := {} }

/-- Read a stream to its end. -/
partial def readStream (stream : IO.FS.Stream) (acc : String) : IO String := do
  let line ← stream.getLine
  if line.isEmpty then return acc else readStream stream (acc ++ line)

/-- Run one command line over the tree on standard input, returning the exit status. -/
def runCommandLine (args : List String) : IO UInt32 := do
  let input ← readStream (← IO.getStdin) ""
  let tree := if (Text.strip input).isEmpty then Node.empty
    else match Json.read input with
      | .ok description => treeOf description
      | .error _ => Node.empty
  let mut env : Environment := []
  for name in settingNames do
    if let some value ← IO.getEnv name then env := env ++ [(name, value)]
  match ((workspaceFor tree env).run args).1 with
  | .finished outcome =>
    IO.print outcome.stdout
    IO.eprint outcome.stderr
    for (level, message) in outcome.log do IO.eprintln (level ++ ": " ++ message)
    return outcome.code.toUInt32
  | .serving _ _ =>
    IO.eprintln "serving is not available in this build"
    return 1
  | .crashed failure =>
    IO.eprintln failure.message
    return 1

end DocIndex.Cli

/-- Run one command line over the tree on standard input. -/
def main (args : List String) : IO UInt32 :=
  DocIndex.Cli.runCommandLine args
