import DocIndex.Yaml.Problem
import DocIndex.Yaml.Tag
import DocIndex.Data.Show
import DocIndex.Text.Case
import DocIndex.Text.Numeral
import DocIndex.Text.Base64

/-!
# The values of tagged scalars

A scalar's text becomes a value by its tag: `null`, `bool`, `int`, `float`, `binary`,
`timestamp` or `str`. The rules are those of YAML 1.1 as a loader of plain data reads
them:

* a truth value is one of `yes`, `no`, `true`, `false`, `on`, `off` in any case;
* an integer may carry a sign and `_` between digits, and is binary after `0b`,
  hexadecimal after `0x`, octal after another leading `0`, base 60 when `:` separates its
  parts, and decimal otherwise;
* a float may carry a sign and `_`; `.inf` and `.nan` in any case are the special values,
  `:` separates base-60 parts, and anything else is a decimal number;
* binary data is base64 of ASCII text;
* a timestamp is a date, or a date and time of day with an optional fraction of a second
  (cut to microseconds) and an optional zone, `Z` or an offset in hours and minutes.

A text that its tag does not fit is a `Problem`: a wrong value for the tag, an empty
number, a word that is no truth value, a timestamp of the wrong form.
-/

namespace DocIndex.Yaml

open DocIndex.Data DocIndex.Text

/-- The truth value of a truth word, in lower case. -/
def truthOf (word : String) : Option Bool :=
  if ["yes", "true", "on"].contains word then some true
  else if ["no", "false", "off"].contains word then some false
  else none

/-- A text as the quoted literal that error messages show, cut to `limit` characters. -/
def quotedCut (limit : Nat) (text : String) : String :=
  String.ofList ((quoteText text).toList.take limit)

/-- The integer a numeral in `base` writes, or the error of one that writes none or, in base
ten, one of more digits than `maxIntegerDigits`. -/
def integerIn (base : Nat) (text : String) : Except Problem Int :=
  match readNumeral base text with
  | .ok n => .ok n
  | .error (.tooLong count) => .error (.badValue (digitLimitMessage count))
  | .error .malformed =>
    .error (.badValue ("invalid literal for int() with base " ++ toString base ++ ": " ++
      quotedCut 200 text))

/-- The double a decimal number writes, or the error of one that writes none. -/
def decimalOf (text : String) : Except Problem Float :=
  match readDecimal text with
  | some x => .ok x
  | none => .error (.badValue ("could not convert string to float: " ++ quoteText text))

/-- The value of base-60 parts, most significant first. -/
def sexagesimal (parts : List Int) : Int :=
  parts.foldl (fun acc part => acc * 60 + part) 0

/-- Split a text at every `:`. -/
def splitColons (text : String) : List String :=
  (text.splitOn ":")

/-- Read each part with `read`, stopping at the first that fails. -/
def readParts {α : Type} (read : String → Except Problem α) : List String → Except Problem (List α)
  | [] => .ok []
  | part :: rest =>
    match read part with
    | .error problem => .error problem
    | .ok value =>
      match readParts read rest with
      | .error problem => .error problem
      | .ok values => .ok (value :: values)

/-- The sign of a number's text and the text after it; an empty text has no first
character to look at. -/
def splitSign (chars : List Char) : Except Problem (Bool × List Char) :=
  match chars with
  | [] => .error .emptyNumber
  | '-' :: rest => .ok (true, rest)
  | '+' :: rest => .ok (false, rest)
  | rest => .ok (false, rest)

/-- The integer of a scalar tagged `int`. -/
def intOfText (text : String) : Except Problem Int := do
  let chars := text.toList.filter (· ≠ '_')
  let (negative, body) ← splitSign chars
  let signed (n : Int) : Int := if negative then -n else n
  let bodyText := String.ofList body
  match body with
  | ['0'] => return 0
  | '0' :: 'b' :: rest => return signed (← integerIn 2 (String.ofList rest))
  | '0' :: 'x' :: rest => return signed (← integerIn 16 (String.ofList rest))
  | '0' :: _ => return signed (← integerIn 8 bodyText)
  | [] => throw .emptyNumber
  | _ =>
    if body.contains ':' then
      return signed (sexagesimal (← readParts (integerIn 10) (splitColons bodyText)))
    else return signed (← integerIn 10 bodyText)

/-- The value of base-60 float parts, least significant first, summed in floating point
as each part times its power of sixty. -/
def sexagesimalFloat (parts : List Float) : Float :=
  (parts.foldl (fun (acc : Float × Float) part => (acc.1 + part * acc.2, acc.2 * 60.0))
    (0.0, 1.0)).1

/-- The double of a scalar tagged `float`. -/
def floatOfText (text : String) : Except Problem Float := do
  let chars := (lower (String.ofList (text.toList.filter (· ≠ '_')))).toList
  let (negative, body) ← splitSign chars
  let signed (x : Float) : Float := if negative then -x else x
  let bodyText := String.ofList body
  if bodyText = ".inf" then return signed (Float.ofBits 0x7FF0000000000000)
  else if bodyText = ".nan" then return Float.ofBits 0x7FF8000000000000
  else if body.contains ':' then
    let parts ← readParts decimalOf (splitColons bodyText)
    return signed (sexagesimalFloat parts.reverse)
  else return signed (← decimalOf bodyText)

/-- The truth value of a scalar tagged `bool`. -/
def boolOfText (text : String) : Except Problem Bool :=
  let word := lower text
  match truthOf word with
  | some b => .ok b
  | none => .error (.unknownTruthWord (quoteText word))

/-- The bytes of a scalar tagged `binary`. -/
def bytesOfText (text : String) : Except Problem (List UInt8) :=
  if !text.toList.all fun c => c.toNat < 128 then
    .error (.malformed "failed to convert base64 data into ascii")
  else
    match decodeBase64 text with
    | some bytes => .ok bytes
    | none => .error (.malformed "failed to decode base64 data")

/-- The parts of a timestamp's text: date, and optionally the time of day with the fraction
digits and the zone (`none`, UTC, or a sign with hour and minute texts). -/
structure TimestampParts where
  year : List Char
  month : List Char
  day : List Char
  clock : Option (List Char × List Char × List Char × List Char)
  zone : Option (Option (Bool × List Char × List Char))

/-- Read one or two digits. -/
def shortNumber : List Char → Option (List Char × List Char)
  | d :: e :: rest =>
    if isDigit d then some (if isDigit e then ([d, e], rest) else ([d], e :: rest)) else none
  | [d] => if isDigit d then some ([d], []) else none
  | [] => none

/-- Read exactly `n` digits. -/
def fixedNumber (n : Nat) (chars : List Char) : Option (List Char × List Char) :=
  let digits := chars.take n
  if digits.length = n && digits.all isDigit then some (digits, chars.drop n) else none

/-- Read an optional zone `[ \t]*(Z|[-+]h[h][:mm])` that ends the text. -/
def zoneOf (chars : List Char) : Option (Option (Option (Bool × List Char × List Char))) :=
  if chars.isEmpty then some none
  else
    match chars.dropWhile fun c => c = ' ' || c = '\t' with
    | ['Z'] => some (some none)
    | sign :: rest =>
      if sign = '-' || sign = '+' then
        (shortNumber rest).bind fun (hours, rest) =>
          match rest with
          | [] => some (some (some (sign = '-', hours, [])))
          | ':' :: rest =>
            (fixedNumber 2 rest).bind fun (minutes, rest) =>
              if rest.isEmpty then some (some (some (sign = '-', hours, minutes))) else none
          | _ => none
      else none
    | [] => none

/-- Read the time of day after a date: separator, hour, minute, second, fraction, zone. -/
def clockOf (chars : List Char) :
    Option ((List Char × List Char × List Char × List Char) ×
      Option (Option (Bool × List Char × List Char))) :=
  let afterSeparator := match chars with
    | 'T' :: rest => some rest
    | 't' :: rest => some rest
    | c :: rest =>
      if c = ' ' || c = '\t' then some (rest.dropWhile fun c => c = ' ' || c = '\t') else none
    | [] => none
  afterSeparator.bind fun rest =>
    (shortNumber rest).bind fun (hour, rest) =>
      match rest with
      | ':' :: rest => (fixedNumber 2 rest).bind fun (minute, rest) =>
        match rest with
        | ':' :: rest => (fixedNumber 2 rest).bind fun (second, rest) =>
          let (fraction, rest) := match rest with
            | '.' :: rest => (rest.takeWhile isDigit, rest.dropWhile isDigit)
            | rest => ([], rest)
          (zoneOf rest).map fun zone => ((hour, minute, second, fraction), zone)
        | _ => none
      | _ => none

/-- The parts of a timestamp's text; the text may also end in one line feed. -/
def timestampParts (text : String) : Option TimestampParts :=
  let attempt (chars : List Char) : Option TimestampParts :=
    (fixedNumber 4 chars).bind fun (year, rest) =>
      match rest with
      | '-' :: rest => (shortNumber rest).bind fun (month, rest) =>
        match rest with
        | '-' :: rest => (shortNumber rest).bind fun (day, rest) =>
          if rest.isEmpty then some ⟨year, month, day, none, none⟩
          else (clockOf rest).map fun (clock, zone) => ⟨year, month, day, some clock, zone⟩
        | _ => none
      | _ => none
  let chars := text.toList
  match attempt chars with
  | some parts => some parts
  | none => if chars.getLast? = some '\n' then attempt chars.dropLast else none

/-- The number decimal digits write. -/
def digitsValue (digits : List Char) : Nat :=
  digits.foldl (fun acc c => acc * 10 + (c.toNat - '0'.toNat)) 0

/-- The number of days in a month of a year. -/
def daysInMonth (year month : Nat) : Nat :=
  if month = 2 then
    if year % 4 = 0 && (year % 100 ≠ 0 || year % 400 = 0) then 29 else 28
  else if [4, 6, 9, 11].contains month then 30
  else 31

/-- Check a calendar date. -/
def checkDate (year month day : Nat) : Except Problem Date :=
  if year < 1 || year > 9999 then .error (.badValue ("year " ++ toString year ++ " is out of range"))
  else if month < 1 || month > 12 then .error (.badValue "month must be in 1..12")
  else if day < 1 || day > daysInMonth year month then
    .error (.badValue "day is out of range for month")
  else .ok ⟨year, month, day⟩

/-- A span of seconds written as a constructor call with days and seconds, as the error of
an offset out of range shows it. -/
def spanLiteral (seconds : Int) : String :=
  let days := seconds / 86400
  let rest := seconds - days * 86400
  let fields := (if days = 0 then [] else ["days=" ++ toString days]) ++
    (if rest = 0 then [] else ["seconds=" ++ toString rest])
  if fields.isEmpty then "datetime.timedelta(0)"
  else "datetime.timedelta(" ++ ", ".intercalate fields ++ ")"

/-- The value of a scalar tagged `timestamp`: a date, or a point in time. -/
def timestampOfText (text : String) : Except Problem Value := do
  let some parts := timestampParts text | throw .unmatchedTimestamp
  let year := digitsValue parts.year
  let month := digitsValue parts.month
  let day := digitsValue parts.day
  match parts.clock with
  | none => return .date (← checkDate year month day)
  | some (hour, minute, second, fraction) =>
    let micro := digitsValue ((fraction.take 6) ++ List.replicate (6 - (fraction.take 6).length) '0')
    let offset : Option Int ← match parts.zone with
      | some (some (negative, hours, minutes)) =>
        let span : Int := digitsValue hours * 60 + digitsValue minutes
        let span := if negative then -span else span
        if span ≤ -1440 || span ≥ 1440 then
          throw (.badValue ("offset must be a timedelta strictly between " ++
            "-timedelta(hours=24) and timedelta(hours=24), not " ++ spanLiteral (span * 60) ++ "."))
        else pure (some span)
      | some none => pure (some 0)
      | none => pure none
    let date ← checkDate year month day
    let (hour, minute, second) := (digitsValue hour, digitsValue minute, digitsValue second)
    if hour > 23 then throw (.badValue "hour must be in 0..23")
    if minute > 59 then throw (.badValue "minute must be in 0..59")
    if second > 59 then throw (.badValue "second must be in 0..59")
    return .moment ⟨date, hour, minute, second, micro, offset⟩

/-- The tags of scalars of plain data. -/
def scalarTags : List String :=
  [nullTag, coreTag "bool", coreTag "int", coreTag "float", coreTag "binary",
    coreTag "timestamp", strTag]

/-- The value of a scalar's text under a scalar tag, or `none` for a tag that is no scalar
tag of plain data. -/
def scalarValue (tag : String) (text : String) : Option (Except Problem Value) :=
  if tag = nullTag then some (.ok .null)
  else if tag = coreTag "bool" then some ((boolOfText text).map .bool)
  else if tag = coreTag "int" then some ((intOfText text).map .int)
  else if tag = coreTag "float" then some ((floatOfText text).map .float)
  else if tag = coreTag "binary" then some ((bytesOfText text).map .bytes)
  else if tag = coreTag "timestamp" then some (timestampOfText text)
  else if tag = strTag then some (.ok (.text text))
  else none

end DocIndex.Yaml
