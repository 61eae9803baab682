/-!
# Why a YAML text does not load

Loading stops in one of two ways. The text may not be well-formed YAML of the kind the
loader reads (`malformed`), which callers commonly treat as "no data here". Or the text is
well-formed but a scalar carries a tag whose value it cannot be: an integer tag on a word,
a date that is no calendar date. Those are errors about values and are reported as such.
-/

namespace DocIndex.Yaml

/-- Why a YAML text does not load. -/
inductive Problem where
  | malformed (reason : String)
  | badValue (message : String)
  | unknownTruthWord (word : String)
  | emptyNumber
  | unmatchedTimestamp
  | timestampOfCollection (kind : String)
  deriving DecidableEq, Repr

namespace Problem

/-- Whether the problem is that the text is not well-formed. -/
def isMalformed : Problem → Bool
  | .malformed _ => true
  | _ => false

/-- The message of a problem. -/
def message : Problem → String
  | .malformed reason => reason
  | .badValue message => message
  | .unknownTruthWord word => word
  | .emptyNumber => "string index out of range"
  | .unmatchedTimestamp => "'NoneType' object has no attribute 'groupdict'"
  | .timestampOfCollection kind => "expected string or bytes-like object, got '" ++ kind ++ "'"

end Problem

end DocIndex.Yaml
