import DocIndex.Text.Basic

/-!
# Failures

Every way an operation of the library can stop, one constructor per cause, and the message
each one reports.
-/

namespace DocIndex

/-- Why an operation stopped: a document breaks the schema or was written under a newer one,
nothing is stored under a key, the store or a file cannot be used, a source cannot be read as
its language, readers were registered inconsistently, the service refuses an operation, the
operation was cancelled, an argument has a wrong value or kind, a number does not fit, a
lookup, position or attribute is missing, a document nests too deep, or a text holds a lone
surrogate that UTF-8 cannot encode. -/
inductive Failure where
  | schema (message : String)
  | newerSchema (found supported : Int) (key : Option String)
  | notStored (project language : String)
  | storage (message : String)
  | unparsable (path reason : String)
  | registry (message : String)
  | refused (operation : String)
  | cancelled (reason : String)
  | badValue (message : String)
  | badType (message : String)
  | overflow (message : String)
  | noEntry (key : String)
  | noPosition (message : String)
  | noAttribute (message : String)
  | tooDeep (message : String)
  | unencodable (message : String)

namespace Failure

/-- The message a failure reports. -/
def message : Failure → String
  | .schema message => message
  | .newerSchema found supported key =>
    "Incompatible schema version" ++ (match key with | some key => " for " ++ key | none => "") ++
      ": found " ++ toString found ++ ", this reader supports up to " ++ toString supported
  | .notStored project language =>
    "No index stored for project '" ++ project ++ "' (" ++ language ++ ")"
  | .storage message => message
  | .unparsable path reason => "Failed to parse " ++ path ++ ": " ++ reason
  | .registry message => message
  | .refused operation => "Server is in read-only mode, " ++ operation ++ " is disabled"
  | .cancelled reason => reason
  | .badValue message => message
  | .badType message => message
  | .overflow message => message
  | .noEntry key => key
  | .noPosition message => message
  | .noAttribute message => message
  | .tooDeep message => message
  | .unencodable message => message

/-- Whether the failure belongs to the library's own family or is a wrong value, the
failures that the command line reports and turns into exit status 1. -/
def isReported : Failure → Bool
  | .badType _ => false
  | .overflow _ => false
  | .noEntry _ => false
  | .noPosition _ => false
  | .noAttribute _ => false
  | .tooDeep _ => false
  | _ => true

end Failure

/-- Encode a text as UTF-8 strictly, as a database binds it or a text is encoded before it is
compared byte by byte: a lone surrogate makes it fail. -/
def encodeStrict (text : String) : Except Failure Unit :=
  match Text.encodeRefusal? text with
  | some message => .error (.unencodable message)
  | none => .ok ()

theorem encodeStrict_eq_ok_iff {text : String} :
    encodeStrict text = .ok () ↔ Text.encodeRefusal? text = none := by
  unfold encodeStrict
  cases Text.encodeRefusal? text <;> simp

theorem encodeStrict_eq_error_iff {text : String} {failure : Failure} :
    encodeStrict text = .error failure ↔
      ∃ message, Text.encodeRefusal? text = some message ∧ failure = .unencodable message := by
  unfold encodeStrict
  cases Text.encodeRefusal? text with
  | none => simp
  | some message => simp [eq_comm]

end DocIndex
