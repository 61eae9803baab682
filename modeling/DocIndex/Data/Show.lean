import DocIndex.Data.Value
import DocIndex.Data.Shortest
import DocIndex.Text.Printable
import DocIndex.Text.Basic

/-!
# Writing values as text

Two renderings of a `Value`. `Value.literal` writes a value as it would be typed back in:
texts in quotes with escapes, containers with their brackets. `Value.display` writes a value
for a reader: a text is itself, a date is `2024-01-02`, and everything else is its literal.
Numbers are written with the fewest digits that read back (`Data.Shortest`), in the format
that `FloatFormat.display` fixes.
-/

namespace DocIndex.Data

open DocIndex.Text

/-- How a double is written: the decimal-point positions that are written positionally and
the texts of the special values. -/
structure FloatFormat where
  lowestPoint : Int
  highestPoint : Int
  infinity : String
  nan : String

/-- Doubles for reading: positional from `0.0001` up to sixteen integer digits, `inf` and
`nan` for the special values. -/
def FloatFormat.display : FloatFormat := ⟨-3, 16, "inf", "nan"⟩

/-- Doubles in JSON: as for reading, with `Infinity` and `NaN` for the special values. -/
def FloatFormat.json : FloatFormat := ⟨-3, 16, "Infinity", "NaN"⟩

/-- A natural number with at least `width` digits, padded with zeros on the left. -/
def padded (width : Nat) (n : Nat) : String :=
  let digits := Nat.toDigits 10 n
  String.ofList (List.replicate (width - digits.length) '0' ++ digits)

/-- Write digits `0.d₁d₂… · 10^point` positionally or with an exponent. -/
def FloatFormat.writeDigits (format : FloatFormat) (digits : List Char) (point : Int) :
    String :=
  if format.lowestPoint ≤ point ∧ point ≤ format.highestPoint then
    if point ≤ 0 then
      "0." ++ String.ofList (List.replicate (-point).toNat '0' ++ digits)
    else if digits.length ≤ point.toNat then
      String.ofList (digits ++ List.replicate (point.toNat - digits.length) '0') ++ ".0"
    else
      String.ofList (digits.take point.toNat) ++ "." ++ String.ofList (digits.drop point.toNat)
  else
    let head := String.ofList (digits.take 1)
    let tail := digits.drop 1
    let mantissa := if tail.isEmpty then head else head ++ "." ++ String.ofList tail
    let power := point - 1
    mantissa ++ "e" ++ (if power < 0 then "-" else "+") ++ padded 2 power.natAbs

/-- Write a double in the given format. -/
def FloatFormat.write (format : FloatFormat) (x : Float) : String :=
  match FloatShape.ofFloat x with
  | .nan => format.nan
  | .infinite negative => (if negative then "-" else "") ++ format.infinity
  | .finite negative mantissa exponent =>
    let sign := if negative then "-" else ""
    if mantissa = 0 then sign ++ "0.0"
    else
      let (digits, point) := shortestDigits mantissa exponent
      sign ++ format.writeDigits digits point

/-- A double written for reading. -/
def floatText (x : Float) : String :=
  FloatFormat.display.write x

/-- The digits of a number in base sixteen, lower case, at least `width` of them. -/
def hexPadded (width : Nat) (n : Nat) : String :=
  let digits := Nat.toDigits 16 n
  String.ofList (List.replicate (width - digits.length) '0' ++ digits)

/-- How one character of a quoted text is written, given the quote in use. -/
def escapeChar (quote : Char) (c : Char) : String :=
  if let some unit := surrogateOf? c then "\\u" ++ hexPadded 4 unit
  else if c = quote || c = '\\' then String.ofList ['\\', c]
  else if c = '\t' then "\\t"
  else if c = '\n' then "\\n"
  else if c = '\r' then "\\r"
  else if c.toNat < 0x20 || c.toNat = 0x7f then "\\x" ++ hexPadded 2 c.toNat
  else if c.toNat < 0x7f then String.singleton c
  else if isPrintable c then String.singleton c
  else if c.toNat ≤ 0xff then "\\x" ++ hexPadded 2 c.toNat
  else if c.toNat ≤ 0xffff then "\\u" ++ hexPadded 4 c.toNat
  else "\\U" ++ hexPadded 8 c.toNat

/-- The quote a literal uses: the double quote when the content has a single quote and no
double quote, the single quote otherwise. -/
def quoteFor (content : List Char) : Char :=
  if content.contains '\'' && !content.contains '"' then '"' else '\''

/-- A text as a quoted literal. -/
def quoteText (text : String) : String :=
  let quote := quoteFor text.toList
  String.singleton quote ++ String.join (text.toList.map (escapeChar quote)) ++
    String.singleton quote

/-- How one byte of a byte-string literal is written, given the quote in use. -/
def escapeByte (quote : Char) (byte : UInt8) : String :=
  let c := Char.ofNat byte.toNat
  if c = quote || c = '\\' then String.ofList ['\\', c]
  else if c = '\t' then "\\t"
  else if c = '\n' then "\\n"
  else if c = '\r' then "\\r"
  else if byte.toNat < 0x20 || byte.toNat ≥ 0x7f then "\\x" ++ hexPadded 2 byte.toNat
  else String.singleton c

/-- A byte string as a literal. -/
def quoteBytes (data : List UInt8) : String :=
  let chars := data.map fun byte => Char.ofNat byte.toNat
  let quote := quoteFor chars
  "b" ++ String.singleton quote ++ String.join (data.map (escapeByte quote)) ++
    String.singleton quote

/-- A date as `YYYY-MM-DD`. -/
def Date.text (date : Date) : String :=
  padded 4 date.year ++ "-" ++ padded 2 date.month ++ "-" ++ padded 2 date.day

/-- An offset from UTC in minutes as `+HH:MM`. -/
def offsetText (minutes : Int) : String :=
  (if minutes < 0 then "-" else "+") ++ padded 2 (minutes.natAbs / 60) ++ ":" ++
    padded 2 (minutes.natAbs % 60)

/-- A point in time as `YYYY-MM-DD HH:MM:SS[.ffffff][+HH:MM]`. -/
def Moment.text (moment : Moment) : String :=
  moment.date.text ++ " " ++ padded 2 moment.hour ++ ":" ++ padded 2 moment.minute ++ ":" ++
    padded 2 moment.second ++
    (if moment.micro = 0 then "" else "." ++ padded 6 moment.micro) ++
    (match moment.offset with
      | some minutes => offsetText minutes
      | none => "")

/-- A date as a constructor call. -/
def Date.literal (date : Date) : String :=
  "datetime.date(" ++ toString date.year ++ ", " ++ toString date.month ++ ", " ++
    toString date.day ++ ")"

/-- A time zone of a fixed offset as a constructor call. -/
def zoneLiteral (minutes : Int) : String :=
  if minutes = 0 then "datetime.timezone.utc"
  else
    let seconds := minutes * 60
    let days := seconds / 86400
    let rest := seconds - days * 86400
    let fields := (if days = 0 then [] else ["days=" ++ toString days]) ++
      (if rest = 0 then [] else ["seconds=" ++ toString rest])
    "datetime.timezone(datetime.timedelta(" ++ ", ".intercalate fields ++ "))"

/-- A point in time as a constructor call; a zero microsecond is left out, and then a zero
second too. -/
def Moment.literal (moment : Moment) : String :=
  let clock := [moment.hour, moment.minute] ++
    (if moment.micro = 0 then (if moment.second = 0 then [] else [moment.second])
      else [moment.second, moment.micro])
  let fields := [moment.date.year, moment.date.month, moment.date.day] ++ clock
  let zone := match moment.offset with
    | some minutes => ", tzinfo=" ++ zoneLiteral minutes
    | none => ""
  "datetime.datetime(" ++ ", ".intercalate (fields.map toString) ++ zone ++ ")"

namespace Value

mutual

/-- A value written as it would be typed back in. -/
def literal : Value → String
  | .null => "None"
  | .bool true => "True"
  | .bool false => "False"
  | .int n => toString n
  | .float x => floatText x
  | .text t => quoteText t
  | .bytes data => quoteBytes data
  | .date d => d.literal
  | .moment m => m.literal
  | .list items => "[" ++ literalItems items ++ "]"
  | .tuple [item] => "(" ++ literal item ++ ",)"
  | .tuple items => "(" ++ literalItems items ++ ")"
  | .dict entries => "\x7b" ++ literalEntries entries ++ "\x7d"
  | .set [] => "set()"
  | .set items => "\x7b" ++ literalItems items ++ "\x7d"

/-- Items written as literals, separated by commas. -/
def literalItems : List Value → String
  | [] => ""
  | [item] => literal item
  | item :: rest => literal item ++ ", " ++ literalItems rest

/-- Mapping entries written as `key: value` literals, separated by commas. -/
def literalEntries : List (Value × Value) → String
  | [] => ""
  | [(key, value)] => literal key ++ ": " ++ literal value
  | (key, value) :: rest => literal key ++ ": " ++ literal value ++ ", " ++ literalEntries rest

end

/-- A value written for a reader: texts as themselves, dates and points in time in their
usual form, everything else as its literal. -/
def display : Value → String
  | .text t => t
  | .date d => d.text
  | .moment m => m.text
  | value => value.literal

end Value

end DocIndex.Data
