import DocIndex.Data.Value
import DocIndex.Data.Shortest

/-!
# When two values are the same mapping key

A mapping holds each key once. Two keys are the same when they are equal as values:

* numbers compare by value, whatever their kind: `true` is the key `1`, and `1.0` is too;
  an integer and a float are compared exactly, and all NaNs count as one key;
* texts, byte strings and dates compare by content;
* two points in time with offsets are the same key when they are the same instant; a point
  in time without an offset is the same key only as one without an offset and with the
  same fields;
* values of different kinds are different keys.

`Value.insertEntry` adds an entry to a mapping by this rule: a key already present keeps
its place and first spelling and takes the new value.
-/

namespace DocIndex.Data

/-- The exact number a finite double is, as a fraction `numerator / 2^shift`. -/
def dyadicOf (x : Float) : Option (Int × Nat) :=
  match FloatShape.ofFloat x with
  | .finite negative mantissa exponent =>
    let signed : Int := if negative then -(mantissa : Int) else mantissa
    if exponent ≥ 0 then some (signed * Int.pow 2 exponent.toNat, 0)
    else some (signed, (-exponent).toNat)
  | _ => none

/-- Whether a double is NaN. -/
def isNaN (x : Float) : Bool :=
  match FloatShape.ofFloat x with
  | .nan => true
  | _ => false

/-- Whether an integer equals a double exactly. -/
def intEqualsFloat (n : Int) (x : Float) : Bool :=
  match dyadicOf x with
  | some (numerator, shift) => n * Int.pow 2 shift = numerator
  | none => false

/-- The days from 0001-01-01 to a date of the proleptic Gregorian calendar. -/
def Date.ordinal (date : Date) : Int :=
  let year : Int := date.year - 1
  let leap (y : Nat) : Bool := y % 4 = 0 && (y % 100 ≠ 0 || y % 400 = 0)
  let monthDays := [31, if leap date.year then 29 else 28, 31, 30, 31, 30, 31, 31, 30, 31, 30, 31]
  let beforeMonth : Nat := (monthDays.take (date.month - 1)).foldl (· + ·) 0
  year * 365 + year / 4 - year / 100 + year / 400 + beforeMonth + date.day - 1

/-- A point in time as microseconds since 0001-01-01, taken back to UTC by its offset. -/
def Moment.instant (moment : Moment) : Int :=
  let minutes := (moment.date.ordinal * 24 + moment.hour) * 60 + moment.minute -
    moment.offset.getD 0
  (minutes * 60 + moment.second) * 1000000 + moment.micro

namespace Value

/-- The number a truth value or a number stands for, as an integer when it is one. -/
def asInteger? : Value → Option Int
  | .bool b => some (if b then 1 else 0)
  | .int n => some n
  | _ => none

/-- Whether two values are the same mapping key. -/
def sameKey : Value → Value → Bool
  | .null, .null => true
  | .float x, .float y => x == y || (isNaN x && isNaN y)
  | .float x, other | other, .float x =>
    match other.asInteger? with
    | some n => intEqualsFloat n x
    | none => false
  | .text a, .text b => a == b
  | .bytes a, .bytes b => a == b
  | .date a, .date b => a.year == b.year && a.month == b.month && a.day == b.day
  | .moment a, .moment b =>
    match a.offset, b.offset with
    | some _, some _ => a.instant == b.instant
    | none, none => a.instant == b.instant
    | _, _ => false
  | a, b =>
    match a.asInteger?, b.asInteger? with
    | some m, some n => m == n
    | _, _ => false

/-- Add an entry to a mapping: a key already present keeps its place and takes the new
value, a new key goes last. -/
def insertEntry (entries : List (Value × Value)) (key value : Value) : List (Value × Value) :=
  if entries.any fun entry => sameKey entry.1 key then
    entries.map fun entry => if sameKey entry.1 key then (entry.1, value) else entry
  else entries ++ [(key, value)]

/-- Add an item to a set: an item already present stays. -/
def insertItem (items : List Value) (item : Value) : List Value :=
  if items.any fun other => sameKey other item then items else items ++ [item]

end Value

end DocIndex.Data
