/-!
# Document values

A `Value` is one datum of a structured document: the JSON data that index documents,
requests and answers are made of, and the data that a YAML front matter block describes
(which adds dates, points in time, byte strings, tuples and sets). Mappings keep their
entries in insertion order, each key once.
-/

namespace DocIndex.Data

/-- A calendar date. -/
structure Date where
  year : Nat
  month : Nat
  day : Nat

/-- A point in time: a date, a time of day and an optional offset from UTC. -/
structure Moment where
  date : Date
  hour : Nat
  minute : Nat
  second : Nat
  micro : Nat
  offset : Option Int

/-- One datum of a structured document. -/
inductive Value where
  | null
  | bool (value : Bool)
  | int (value : Int)
  | float (value : Float)
  | text (value : String)
  | bytes (data : List UInt8)
  | date (value : Date)
  | moment (value : Moment)
  | list (items : List Value)
  | tuple (items : List Value)
  | dict (entries : List (Value × Value))
  | set (items : List Value)

namespace Value

/-- The name of a value's kind, as error messages write it. -/
def kindName : Value → String
  | .null => "NoneType"
  | .bool _ => "bool"
  | .int _ => "int"
  | .float _ => "float"
  | .text _ => "str"
  | .bytes _ => "bytes"
  | .date _ => "date"
  | .moment _ => "datetime"
  | .list _ => "list"
  | .tuple _ => "tuple"
  | .dict _ => "dict"
  | .set _ => "set"

/-- The value stored under a text key of a mapping. -/
def lookup (entries : List (Value × Value)) (key : String) : Option Value :=
  match entries with
  | [] => none
  | (.text name, value) :: rest => if name = key then some value else lookup rest key
  | _ :: rest => lookup rest key

/-- The value under a text key, when the value is a mapping that has the key. -/
def field? : Value → String → Option Value
  | .dict entries, key => lookup entries key
  | _, _ => none

/-- The text under a key of a mapping, when there is a text there. -/
def textField? (value : Value) (key : String) : Option String :=
  match value.field? key with
  | some (.text content) => some content
  | _ => none

/-- The items of a sequence value. -/
def items? : Value → Option (List Value)
  | .list items => some items
  | _ => none

/-- A mapping from text keys. -/
def object (entries : List (String × Value)) : Value :=
  .dict (entries.map fun entry => (.text entry.1, entry.2))

/-- A sequence of texts. -/
def texts (items : List String) : Value :=
  .list (items.map .text)

/-- Whether a value counts as true: null, false, zero, and empty texts, byte strings and
collections count as false; dates and points in time count as true. -/
def truthy : Value → Bool
  | .null => false
  | .bool flag => flag
  | .int n => n != 0
  | .float x => x != 0
  | .text content => !content.isEmpty
  | .bytes data => !data.isEmpty
  | .date _ => true
  | .moment _ => true
  | .list items => !items.isEmpty
  | .tuple items => !items.isEmpty
  | .dict entries => !entries.isEmpty
  | .set items => !items.isEmpty

end Value

end DocIndex.Data
