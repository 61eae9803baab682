import DocIndex.Data.Show
import DocIndex.Data.Shortest
import DocIndex.Text.Integer

/-!
# Faults of dynamic access

Reading a document value as a typed object asks it for things that a value of the wrong
kind does not have: a key of a mapping, the items of a sequence, the integer a text
writes. Each such request that fails gives a `Fault`, whose `literal` is the way the fault
is quoted inside a schema error, such as `KeyError('id')`.
-/

namespace DocIndex.Data

open DocIndex.Text

/-- A request to a value that the value cannot answer. -/
inductive Fault where
  | noLookup (kind : String)
  | missingKey (key : String)
  | notIndexable (kind : String)
  | notIterable (kind : String)
  | noInteger (kind : String)
  | badLiteral (text : String)
  | longLiteral (count : Nat)
  | nanInteger
  | infiniteInteger

namespace Fault

/-- The name of the family a fault belongs to. -/
def family : Fault → String
  | .noLookup _ => "AttributeError"
  | .missingKey _ => "KeyError"
  | .notIndexable _ => "TypeError"
  | .notIterable _ => "TypeError"
  | .noInteger _ => "TypeError"
  | .badLiteral _ => "ValueError"
  | .longLiteral _ => "ValueError"
  | .nanInteger => "ValueError"
  | .infiniteInteger => "OverflowError"

/-- The message of a fault; a text that writes no integer is quoted, the quotation cut to
200 characters. -/
def message : Fault → String
  | .noLookup kind => "'" ++ kind ++ "' object has no attribute 'get'"
  | .missingKey key => key
  | .notIndexable "str" => "string indices must be integers, not 'str'"
  | .notIndexable "list" => "list indices must be integers or slices, not str"
  | .notIndexable "tuple" => "tuple indices must be integers or slices, not str"
  | .notIndexable kind => "'" ++ kind ++ "' object is not subscriptable"
  | .notIterable kind => "'" ++ kind ++ "' object is not iterable"
  | .noInteger kind =>
    "int() argument must be a string, a bytes-like object or a real number, not '" ++ kind ++ "'"
  | .badLiteral text =>
    "invalid literal for int() with base 10: " ++ String.ofList ((quoteText text).toList.take 200)
  | .longLiteral count => digitLimitMessage count
  | .nanInteger => "cannot convert float NaN to integer"
  | .infiniteInteger => "cannot convert float infinity to integer"

/-- The fault as it is quoted: its family applied to its quoted message. -/
def literal (fault : Fault) : String :=
  fault.family ++ "(" ++ quoteText fault.message ++ ")"

/-- Whether a schema reader turns the fault into a schema error; an overflow is not. -/
def isSchemaFault : Fault → Bool
  | .infiniteInteger => false
  | _ => true

end Fault

namespace Value

/-- The value under a key of a mapping, or `fallback` when the mapping lacks the key. -/
def getOr (value : Value) (key : String) (fallback : Value) : Except Fault Value :=
  match value with
  | .dict entries => .ok ((lookup entries key).getD fallback)
  | other => .error (.noLookup other.kindName)

/-- The value under a key that a mapping must have. -/
def require (value : Value) (key : String) : Except Fault Value :=
  match value with
  | .dict entries =>
    match lookup entries key with
    | some found => .ok found
    | none => .error (.missingKey key)
  | other => .error (.notIndexable other.kindName)

/-- The integer part of a double, rounded toward zero. -/
def truncate (x : Float) : Except Fault Int :=
  match FloatShape.ofFloat x with
  | .nan => .error .nanInteger
  | .infinite _ => .error .infiniteInteger
  | .finite negative mantissa exponent =>
    let magnitude : Nat :=
      if exponent ≥ 0 then mantissa * Nat.pow 2 exponent.toNat
      else mantissa / Nat.pow 2 (-exponent).toNat
    .ok (if negative then -(magnitude : Int) else magnitude)

/-- The integer a value stands for: itself, its truth as 0 or 1, a double rounded toward
zero, or the integer a text writes. -/
def toInteger : Value → Except Fault Int
  | .int n => .ok n
  | .bool b => .ok (if b then 1 else 0)
  | .float x => truncate x
  | .text t =>
    match readNumeral 10 t with
    | .ok n => .ok n
    | .error .malformed => .error (.badLiteral t)
    | .error (.tooLong count) => .error (.longLiteral count)
  | other => .error (.noInteger other.kindName)

end Value

end DocIndex.Data
