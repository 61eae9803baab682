import DocIndex.Data.Show
import DocIndex.Text.Integer

/-!
# JSON text

`Json.read` reads a JSON text into a `Value`. A number with a fraction or an exponent is a
double, read with correct rounding; any other number is an integer of any size. `NaN`,
`Infinity` and `-Infinity` are accepted, strings may not hold control characters, a lone
surrogate escape becomes its stand-in, and a repeated key keeps its first position and its
last value. A text that is not JSON is refused with a `JsonFault` that names the first
place where reading failed. Two limits keep reading cheap, and each is met at the place
where reading reaches it: an integer may have at most `maxIntegerDigits` digits, and
arrays and objects may nest at most `maxJsonDepth` deep.

`Json.write` writes a value as JSON text in a `Json.Layout`: with every character outside
printable ASCII escaped, or with characters kept as they are and no spaces, the form of a
stored index document.
-/

namespace DocIndex.Data

/-- Why a text is not JSON, and at which character. -/
structure JsonFault where
  problem : String
  offset : Nat
  source : List Char

/-- The message of a fault, with its line and column. -/
def JsonFault.message (fault : JsonFault) : String :=
  let before := fault.source.take fault.offset
  let line := (before.filter (· = '\n')).length + 1
  let column := match before.reverse.findIdx? (· = '\n') with
    | some back => back + 1
    | none => fault.offset + 1
  fault.problem ++ ": line " ++ toString line ++ " column " ++ toString column ++
    " (char " ++ toString fault.offset ++ ")"

/-- How deep arrays and objects may nest. -/
def maxJsonDepth : Nat := 989

/-- Why a JSON text is not read. -/
inductive JsonError where
  | malformed (fault : JsonFault)
  | longInteger (count : Nat)
  | tooDeep (container : String)

/-- The message of a reading error. -/
def JsonError.message : JsonError → String
  | .malformed fault => fault.message
  | .longInteger count => Text.digitLimitMessage count
  | .tooDeep container =>
    "maximum recursion depth exceeded while decoding a JSON " ++ container ++
      " from a unicode string"

namespace Json

/-- A reading position: what is left of the text, and its offset from the start. -/
structure Cursor where
  rest : List Char
  offset : Nat

/-- JSON's blank characters. -/
def isSpace (c : Char) : Bool :=
  c = ' ' || c = '\t' || c = '\n' || c = '\r'

/-- Skip blanks. -/
def Cursor.skipSpace (cursor : Cursor) : Cursor :=
  let blanks := cursor.rest.takeWhile isSpace
  ⟨cursor.rest.drop blanks.length, cursor.offset + blanks.length⟩

/-- Move past `count` characters. -/
def Cursor.advance (cursor : Cursor) (count : Nat) : Cursor :=
  ⟨cursor.rest.drop count, cursor.offset + count⟩

/-- The next character. -/
def Cursor.peek (cursor : Cursor) : Option Char :=
  cursor.rest.head?

/-- The value of a hexadecimal digit. -/
def hexValue (c : Char) : Option Nat :=
  if '0' ≤ c ∧ c ≤ '9' then some (c.toNat - '0'.toNat)
  else if 'a' ≤ c ∧ c ≤ 'f' then some (c.toNat - 'a'.toNat + 10)
  else if 'A' ≤ c ∧ c ≤ 'F' then some (c.toNat - 'A'.toNat + 10)
  else none

/-- The value of four hexadecimal digits. -/
def hex4 (a b c d : Char) : Option Nat := do
  let a ← hexValue a
  let b ← hexValue b
  let c ← hexValue c
  let d ← hexValue d
  pure (((a * 16 + b) * 16 + c) * 16 + d)

/-- The character of a code point; a lone surrogate, which is no character, becomes its
stand-in. -/
def charOfCode (code : Nat) : Char :=
  Text.charOfCodePoint code

/-- The character of a simple escape such as `\n`. -/
def simpleEscape (c : Char) : Option Char :=
  if c = '"' then some '"' else if c = '\\' then some '\\'
  else if c = '/' then some '/' else if c = 'b' then some '\x08'
  else if c = 'f' then some '\x0c' else if c = 'n' then some '\n'
  else if c = 'r' then some '\r' else if c = 't' then some '\t'
  else none

/-- Whether a code point is a high or a low surrogate. -/
def isHighSurrogate (code : Nat) : Bool := 0xD800 ≤ code && code ≤ 0xDBFF

/-- Whether a code point is a low surrogate. -/
def isLowSurrogate (code : Nat) : Bool := 0xDC00 ≤ code && code ≤ 0xDFFF

/-- Read the rest of a string whose opening quote stood at `start`; `acc` holds the
characters read so far, last first, and `offset` is the offset of `rest`. -/
def readString (source : List Char) (start : Nat) (acc : List Char) :
    List Char → Nat → Except JsonFault (String × Cursor)
  | [], _ => .error ⟨"Unterminated string starting at", start, source⟩
  | '"' :: rest, offset => .ok (String.ofList acc.reverse, ⟨rest, offset + 1⟩)
  | '\\' :: [], _ => .error ⟨"Unterminated string starting at", start, source⟩
  | '\\' :: 'u' :: a :: b :: c :: d :: '\\' :: 'u' :: e :: f :: g :: h :: after :: more, offset =>
    match hex4 a b c d with
    | none => .error ⟨"Invalid \\uXXXX escape", offset + 1, source⟩
    | some code =>
      if isHighSurrogate code then
        match hex4 e f g h with
        | none => .error ⟨"Invalid \\uXXXX escape", offset + 7, source⟩
        | some low =>
          if isLowSurrogate low then
            readString source start
              (charOfCode (0x10000 + (code - 0xD800) * 0x400 + (low - 0xDC00)) :: acc)
              (after :: more) (offset + 12)
          else
            readString source start (charOfCode code :: acc)
              ('\\' :: 'u' :: e :: f :: g :: h :: after :: more) (offset + 6)
      else
        readString source start (charOfCode code :: acc)
          ('\\' :: 'u' :: e :: f :: g :: h :: after :: more) (offset + 6)
  | '\\' :: 'u' :: a :: b :: c :: d :: next :: rest, offset =>
    match hex4 a b c d with
    | none => .error ⟨"Invalid \\uXXXX escape", offset + 1, source⟩
    | some code => readString source start (charOfCode code :: acc) (next :: rest) (offset + 6)
  | '\\' :: 'u' :: _, offset => .error ⟨"Invalid \\uXXXX escape", offset + 1, source⟩
  | '\\' :: escape :: rest, offset =>
    match simpleEscape escape with
    | some c => readString source start (c :: acc) rest (offset + 2)
    | none => .error ⟨"Invalid \\escape", offset, source⟩
  | c :: rest, offset =>
    if c.toNat < 0x20 then .error ⟨"Invalid control character at", offset, source⟩
    else readString source start (c :: acc) rest (offset + 1)
termination_by chars _ => chars.length
decreasing_by all_goals (simp only [List.length_cons]; omega)

/-- The decimal digits at the front of a list. -/
def leadingDigits (chars : List Char) : List Char :=
  chars.takeWhile Char.isDigit

/-- The number written by the digits. -/
def digitsValue (digits : List Char) : Nat :=
  digits.foldl (fun acc d => acc * 10 + (d.toNat - '0'.toNat)) 0

/-- A double from a decimal mantissa and a power of ten, correctly rounded; powers far
outside the range of doubles give infinity or zero without computing them. -/
def decimalFloat (mantissa : Nat) (power : Int) : Float :=
  if mantissa = 0 then 0.0
  else
    let size : Int := (Nat.toDigits 10 mantissa).length
    if size + power > 310 then Float.ofScientific 1 false 400
    else if size + power < -330 then 0.0
    else if power < 0 then Float.ofScientific mantissa true (-power).toNat
    else Float.ofScientific mantissa false power.toNat

/-- Read a number at the cursor, following JSON's grammar: an optional minus, an integer
part without leading zeros, an optional fraction and an optional exponent; a fraction or
exponent without digits is not part of the number. -/
def readNumber (source : List Char) (cursor : Cursor) : Except JsonError (Value × Cursor) :=
  let negative := cursor.rest.head? == some '-'
  let afterSign := if negative then cursor.rest.drop 1 else cursor.rest
  let intDigits : List Char := match afterSign with
    | '0' :: _ => ['0']
    | _ => leadingDigits afterSign
  if intDigits.isEmpty then .error (.malformed ⟨"Expecting value", cursor.offset, source⟩)
  else
    let afterInt := afterSign.drop intDigits.length
    let fracDigits : List Char := match afterInt with
      | '.' :: more => leadingDigits more
      | _ => []
    let afterFrac := if fracDigits.isEmpty then afterInt else afterInt.drop (fracDigits.length + 1)
    let exponentPart : Option (Bool × List Char × Nat) := match afterFrac with
      | e :: more =>
        if e = 'e' || e = 'E' then
          let (expNegative, signWidth, body) := match more with
            | '-' :: body => (true, 1, body)
            | '+' :: body => (false, 1, body)
            | body => (false, 0, body)
          let digits := leadingDigits body
          if digits.isEmpty then none else some (expNegative, digits, 1 + signWidth + digits.length)
        else none
      | [] => none
    let width := (if negative then 1 else 0) + intDigits.length +
      (if fracDigits.isEmpty then 0 else fracDigits.length + 1) +
      (match exponentPart with | some (_, _, w) => w | none => 0)
    let next := cursor.advance width
    if fracDigits.isEmpty && exponentPart.isNone then
      if intDigits.length > Text.maxIntegerDigits then .error (.longInteger intDigits.length)
      else
        let magnitude : Int := digitsValue intDigits
        .ok (.int (if negative then -magnitude else magnitude), next)
    else
      let mantissa := digitsValue (intDigits ++ fracDigits)
      let power : Int := (match exponentPart with
        | some (expNegative, digits, _) =>
          if expNegative then -(digitsValue digits : Int) else digitsValue digits
        | none => 0) - fracDigits.length
      let magnitude := decimalFloat mantissa power
      .ok (.float (if negative then -magnitude else magnitude), next)

/-- Insert an entry into a mapping: a key already present keeps its place and takes the
new value. -/
def insertEntry (entries : List (Value × Value)) (key : String) (value : Value) :
    List (Value × Value) :=
  if entries.any (fun entry => match entry.1 with | .text name => name = key | _ => false) then
    entries.map fun entry => match entry.1 with
      | .text name => if name = key then (entry.1, value) else entry
      | _ => entry
  else
    entries ++ [(.text key, value)]

mutual

/-- Read one value at the cursor, inside `depth` arrays and objects. `fuel` bounds the
number of nested and sequential reads; every read consumes a character, so the length of
the text suffices. -/
def readValue (source : List Char) (depth : Nat) : Nat → Cursor →
    Except JsonError (Value × Cursor)
  | 0, cursor => .error (.malformed ⟨"Expecting value", cursor.offset, source⟩)
  | fuel + 1, cursor =>
    match cursor.rest with
    | '"' :: rest =>
      match readString source cursor.offset [] rest (cursor.offset + 1) with
      | .ok (text, next) => .ok (.text text, next)
      | .error fault => .error (.malformed fault)
    | '{' :: _ =>
      if depth ≥ maxJsonDepth then .error (.tooDeep "object")
      else
        let inside := (cursor.advance 1).skipSpace
        match inside.rest with
        | '}' :: _ => .ok (.dict [], inside.advance 1)
        | '"' :: _ => readMembers source (depth + 1) fuel [] inside
        | _ => .error (.malformed ⟨"Expecting property name enclosed in double quotes",
            inside.offset, source⟩)
    | '[' :: _ =>
      if depth ≥ maxJsonDepth then .error (.tooDeep "array")
      else
        let inside := (cursor.advance 1).skipSpace
        match inside.rest with
        | ']' :: _ => .ok (.list [], inside.advance 1)
        | _ => readItems source (depth + 1) fuel [] inside
    | 'n' :: 'u' :: 'l' :: 'l' :: _ => .ok (.null, cursor.advance 4)
    | 't' :: 'r' :: 'u' :: 'e' :: _ => .ok (.bool true, cursor.advance 4)
    | 'f' :: 'a' :: 'l' :: 's' :: 'e' :: _ => .ok (.bool false, cursor.advance 5)
    | 'N' :: 'a' :: 'N' :: _ => .ok (.float (0.0 / 0.0), cursor.advance 3)
    | 'I' :: 'n' :: 'f' :: 'i' :: 'n' :: 'i' :: 't' :: 'y' :: _ =>
      .ok (.float (1.0 / 0.0), cursor.advance 8)
    | '-' :: 'I' :: 'n' :: 'f' :: 'i' :: 'n' :: 'i' :: 't' :: 'y' :: _ =>
      .ok (.float (-1.0 / 0.0), cursor.advance 9)
    | _ => readNumber source cursor

/-- Read the items of a list after its opening bracket, the list standing `depth` deep;
`acc` holds the items read so far, last first. -/
def readItems (source : List Char) (depth : Nat) : Nat → List Value → Cursor →
    Except JsonError (Value × Cursor)
  | 0, _, cursor => .error (.malformed ⟨"Expecting value", cursor.offset, source⟩)
  | fuel + 1, acc, cursor =>
    match readValue source depth fuel cursor with
    | .error fault => .error fault
    | .ok (item, next) =>
      let after := next.skipSpace
      match after.rest with
      | ']' :: _ => .ok (.list (item :: acc).reverse, after.advance 1)
      | ',' :: _ => readItems source depth fuel (item :: acc) (after.advance 1).skipSpace
      | _ => .error (.malformed ⟨"Expecting ',' delimiter", after.offset, source⟩)

/-- Read the members of a mapping standing `depth` deep, the cursor standing on a key's
opening quote; `acc` holds the entries read so far. -/
def readMembers (source : List Char) (depth : Nat) : Nat → List (Value × Value) → Cursor →
    Except JsonError (Value × Cursor)
  | 0, _, cursor => .error (.malformed ⟨"Expecting value", cursor.offset, source⟩)
  | fuel + 1, acc, cursor =>
    match readString source cursor.offset [] (cursor.rest.drop 1) (cursor.offset + 1) with
    | .error fault => .error (.malformed fault)
    | .ok (key, afterKey) =>
      let colon := afterKey.skipSpace
      match colon.rest with
      | ':' :: _ =>
        match readValue source depth fuel (colon.advance 1).skipSpace with
        | .error fault => .error fault
        | .ok (value, next) =>
          let entries := insertEntry acc key value
          let after := next.skipSpace
          match after.rest with
          | '}' :: _ => .ok (.dict entries, after.advance 1)
          | ',' :: _ =>
            let nextKey := (after.advance 1).skipSpace
            match nextKey.rest with
            | '"' :: _ => readMembers source depth fuel entries nextKey
            | _ => .error (.malformed ⟨"Expecting property name enclosed in double quotes",
                nextKey.offset, source⟩)
          | _ => .error (.malformed ⟨"Expecting ',' delimiter", after.offset, source⟩)
      | _ => .error (.malformed ⟨"Expecting ':' delimiter", colon.offset, source⟩)

end

end Json

/-- Read a JSON text. -/
def Json.read (text : String) : Except JsonError Value :=
  let source := text.toList
  match source with
  | '\uFEFF' :: _ =>
    .error (.malformed ⟨"Unexpected UTF-8 BOM (decode using utf-8-sig)", 0, source⟩)
  | _ =>
    let start := (Json.Cursor.mk source 0).skipSpace
    match Json.readValue source 0 (2 * source.length + 2) start with
    | .error problem => .error problem
    | .ok (value, next) =>
      let rest := next.skipSpace
      if rest.rest.isEmpty then .ok value
      else .error (.malformed ⟨"Extra data", rest.offset, source⟩)

namespace Json

/-- How a value is laid out as JSON text: whether characters outside printable ASCII are
escaped, and what separates items and a key from its value. -/
structure Layout where
  asciiOnly : Bool
  itemSeparator : String
  keySeparator : String

/-- Every character outside printable ASCII escaped, items after `, ` and values after `: `. -/
def Layout.spaced : Layout := ⟨true, ", ", ": "⟩

/-- Characters kept as they are, apart from the quote, the backslash and control characters,
with no spaces after the separators: the layout of a stored index document. -/
def Layout.compact : Layout := ⟨false, ",", ":"⟩

/-- The four hexadecimal digits of a code unit. -/
def unitEscape (unit : Nat) : String :=
  "\\u" ++ hexPadded 4 unit

/-- How one character is written inside a JSON string. Outside printable ASCII a character
is escaped only when the layout asks for it: as its code unit, a stand-in as the surrogate it
stands for, and a character above U+FFFF as a surrogate pair. -/
def escapeChar (asciiOnly : Bool) (c : Char) : String :=
  if c = '"' then "\\\""
  else if c = '\\' then "\\\\"
  else if c = '\n' then "\\n"
  else if c = '\r' then "\\r"
  else if c = '\t' then "\\t"
  else if c = '\x08' then "\\b"
  else if c = '\x0c' then "\\f"
  else if c.toNat < 0x20 then unitEscape c.toNat
  else if !asciiOnly || c.toNat < 0x7f then String.singleton c
  else if let some unit := Text.surrogateOf? c then unitEscape unit
  else if c.toNat < 0x10000 then unitEscape c.toNat
  else
    let code := c.toNat - 0x10000
    unitEscape (0xD800 + code / 0x400) ++ unitEscape (0xDC00 + code % 0x400)

/-- A text as a JSON string. -/
def quote (asciiOnly : Bool) (text : String) : String :=
  "\"" ++ String.join (text.toList.map (escapeChar asciiOnly)) ++ "\""

mutual

/-- A value as JSON text in a layout. -/
def write (layout : Layout) : Value → String
  | .null => "null"
  | .bool true => "true"
  | .bool false => "false"
  | .int n => toString n
  | .float x => FloatFormat.json.write x
  | .text t => quote layout.asciiOnly t
  | .list items => "[" ++ writeItems layout items ++ "]"
  | .tuple items => "[" ++ writeItems layout items ++ "]"
  | .set items => "[" ++ writeItems layout items ++ "]"
  | .dict entries => "\x7b" ++ writeEntries layout entries ++ "\x7d"
  | other => quote layout.asciiOnly other.display

/-- Items as JSON, separated as the layout says. -/
def writeItems (layout : Layout) : List Value → String
  | [] => ""
  | [item] => write layout item
  | item :: rest => write layout item ++ layout.itemSeparator ++ writeItems layout rest

/-- Entries as JSON members, separated as the layout says. -/
def writeEntries (layout : Layout) : List (Value × Value) → String
  | [] => ""
  | [(key, value)] => quote layout.asciiOnly key.display ++ layout.keySeparator ++ write layout value
  | (key, value) :: rest =>
    quote layout.asciiOnly key.display ++ layout.keySeparator ++ write layout value ++
      layout.itemSeparator ++ writeEntries layout rest

end

end Json

end DocIndex.Data
