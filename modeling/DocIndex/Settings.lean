import DocIndex.Disk.Path
import DocIndex.Text.Integer
import DocIndex.Data.Fault

/-!
# Settings

The server's settings come from environment variables, each with a default: the data
directory (`~/.doctree`), the index database (`index.db` in the data directory), the port
(3333), an optional access token, read-only mode and the number of workers (4). Paths that
start with `~` are taken from the home directory. Numbers are read as integers, blanks
around them allowed. The checks run in this order: the port, the token's length, the
workers.
-/

namespace DocIndex

open DocIndex.Disk DocIndex.Text

/-- The server's settings. -/
structure Settings where
  dataDir : PurePath
  indexDb : PurePath
  port : Int
  authToken : Option String
  readOnly : Bool
  workers : Int

/-- Environment variables: names with their values. -/
abbrev Environment := List (String × String)

/-- A path whose first part is `~` taken from the home directory. -/
def expandHome (home : String) (path : PurePath) : PurePath :=
  match path.root, path.parts with
  | "", "~" :: rest =>
    let base := PurePath.parse home
    ⟨base.root, base.parts ++ rest⟩
  | _, _ => path

/-- The shortest length of an access token. -/
def minimumTokenLength : Nat := 32

/-- Read an integer setting: the integer's own check `valid`, and the reading error, are
both reported with the variable's name and raw value. -/
def integerSetting (envName raw : String) (valid : Int → Option String) :
    Except Failure Int :=
  let fail := fun (reason : String) =>
    Except.error (Failure.badValue ("Invalid " ++ envName ++ " value '" ++ raw ++ "': " ++
      reason))
  match readNumeral 10 raw with
  | .error .malformed => fail (Data.Fault.badLiteral raw).message
  | .error (.tooLong count) => fail (Text.digitLimitMessage count)
  | .ok n =>
    match valid n with
    | some reason => fail reason
    | none => .ok n

/-- Whether a text turns read-only mode on. -/
def isTruthy (text : String) : Bool :=
  ["1", "true", "yes"].contains (lower text)

/-- Read the settings from the environment; `home` is the home directory, and an override
of read-only mode takes precedence over the environment. -/
def Settings.fromEnvironment (env : Environment) (home : String)
    (readOnlyOverride : Option Bool) : Except Failure Settings := do
  let defaultDir := (PurePath.parse home).child ".doctree"
  let dataDir := expandHome home
    (match env.lookup "DOCTREE_DATA_DIR" with
      | some text => PurePath.parse text
      | none => defaultDir)
  let indexDb := expandHome home
    (match env.lookup "DOCTREE_DB" with
      | some text => PurePath.parse text
      | none => PurePath.parse (dataDir.child "index.db").text)
  let port ← integerSetting "DOCTREE_PORT" ((env.lookup "DOCTREE_PORT").getD "3333") fun n =>
    if 1 ≤ n ∧ n ≤ 65535 then none
    else some ("Port must be between 1 and 65535, got " ++ toString n)
  let authToken := env.lookup "DOCTREE_AUTH_TOKEN"
  if let some token := authToken then
    if token.length < minimumTokenLength then
      throw (.badValue "DOCTREE_AUTH_TOKEN must be at least 32 characters for security")
  let readOnly := match readOnlyOverride with
    | some flag => flag
    | none => isTruthy ((env.lookup "DOCTREE_READ_ONLY").getD "")
  let workers ← integerSetting "DOCTREE_WORKERS" ((env.lookup "DOCTREE_WORKERS").getD "4")
    fun n => if 1 ≤ n then none else some ("Workers must be >= 1, got " ++ toString n)
  pure { dataDir, indexDb, port, authToken, readOnly, workers }

end DocIndex
