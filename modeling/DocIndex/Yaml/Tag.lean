/-!
# Tags and the implicit typing of plain scalars

Every node of a YAML document carries a tag that says what kind of value it describes.
Tags of the core types are written `tag:yaml.org,2002:name`. A collection without a tag
is a sequence or a mapping, a quoted or block scalar without a tag is a text, and a plain
scalar (or one tagged only `!`) gets its tag from the form of its text, by the rules of
YAML 1.1:

* truth values: `yes`, `no`, `true`, `false`, `on`, `off` in lower, capitalised or upper
  case;
* floats: decimal fractions with an optional exponent (`1.5`, `-.5e+3`), base-60 fractions
  (`1:30.5`), `.inf` with an optional sign, `.nan`;
* integers: binary `0b…`, octal `0…`, decimal, hexadecimal `0x…`, base-60 (`1:30`), all with
  an optional sign and `_` between digits;
* `<<`, the merge key; `~`, `null` and the empty text for null; `=`, the value key;
* timestamps: a date `2001-12-14`, or a date and time with optional fraction and zone.

Each rule must match the whole text, which may also carry one final line feed. The rules
are tried in the order above, and only those whose texts can start with the text's first
character; the empty text is tried against null only.
-/

namespace DocIndex.Yaml

/-- The tag of a core type. -/
def coreTag (name : String) : String :=
  "tag:yaml.org,2002:" ++ name

/-- The tag of texts. -/
def strTag : String := coreTag "str"

/-- The tag of sequences. -/
def seqTag : String := coreTag "seq"

/-- The tag of mappings. -/
def mapTag : String := coreTag "map"

/-- The tag of the merge key `<<`. -/
def mergeTag : String := coreTag "merge"

/-- The tag of the value key `=`. -/
def valueTag : String := coreTag "value"

/-- The tag of null. -/
def nullTag : String := coreTag "null"

/-- Whether a character is a decimal digit. -/
def isDigit (c : Char) : Bool :=
  '0' ≤ c && c ≤ '9'

/-- Whether a character is a decimal digit or `_`. -/
def isDigitOrUnderscore (c : Char) : Bool :=
  isDigit c || c = '_'

/-- Drop one leading sign. -/
def dropSign : List Char → List Char
  | '-' :: rest => rest
  | '+' :: rest => rest
  | rest => rest

/-- Whether the characters are an optional exponent `[eE][-+][0-9]+` and nothing more. -/
def isExponentEnd : List Char → Bool
  | [] => true
  | e :: sign :: digits =>
    (e = 'e' || e = 'E') && (sign = '-' || sign = '+') && !digits.isEmpty && digits.all isDigit
  | _ => false

/-- Read one base-60 group `:[0-5]?[0-9]`, returning what follows it. -/
def sexagesimalGroup : List Char → Option (List Char)
  | ':' :: d :: e :: rest =>
    if '0' ≤ d && d ≤ '5' && isDigit e then some rest
    else if isDigit d then some (e :: rest)
    else none
  | [':', d] => if isDigit d then some [] else none
  | _ => none

/-- Read base-60 groups, returning what follows the last; `fuel` bounds their number. -/
def sexagesimalGroups : Nat → List Char → Option (List Char)
  | 0, _ => none
  | fuel + 1, chars =>
    match sexagesimalGroup chars with
    | none => none
    | some rest =>
      match sexagesimalGroups fuel rest with
      | some further => some further
      | none => some rest

/-- One or more base-60 groups and what follows them. -/
def afterSexagesimal (chars : List Char) : Option (List Char) :=
  sexagesimalGroups chars.length chars

/-- Whether a text is a float by the YAML 1.1 rule. -/
def isFloatText (chars : List Char) : Bool :=
  let fraction : Bool := match dropSign chars with
    | d :: rest =>
      isDigit d &&
        match rest.dropWhile isDigitOrUnderscore with
        | '.' :: tail => isExponentEnd (tail.dropWhile isDigitOrUnderscore)
        | _ => false
    | [] => false
  let bareFraction : Bool := match chars with
    | '.' :: d :: rest => isDigit d && isExponentEnd (rest.dropWhile isDigitOrUnderscore)
    | _ => false
  let sexagesimal : Bool := match dropSign chars with
    | d :: rest =>
      isDigit d &&
        match afterSexagesimal (rest.dropWhile isDigitOrUnderscore) with
        | some ('.' :: tail) => tail.all isDigitOrUnderscore
        | _ => false
    | [] => false
  let infinity := ["inf", "Inf", "INF"].any fun word => dropSign chars = '.' :: word.toList
  let notNumber := ["nan", "NaN", "NAN"].any fun word => chars = '.' :: word.toList
  fraction || bareFraction || sexagesimal || infinity || notNumber

/-- Whether a text is an integer by the YAML 1.1 rule. -/
def isIntText (chars : List Char) : Bool :=
  let body := dropSign chars
  let nonEmptyOf (p : Char → Bool) (rest : List Char) : Bool := !rest.isEmpty && rest.all p
  let binary := match body with
    | '0' :: 'b' :: rest => nonEmptyOf (fun c => c = '0' || c = '1' || c = '_') rest
    | _ => false
  let octal := match body with
    | '0' :: rest => nonEmptyOf (fun c => ('0' ≤ c && c ≤ '7') || c = '_') rest
    | _ => false
  let decimal := match body with
    | ['0'] => true
    | d :: rest => '1' ≤ d && d ≤ '9' && rest.all isDigitOrUnderscore
    | [] => false
  let hexadecimal := match body with
    | '0' :: 'x' :: rest =>
      nonEmptyOf (fun c => isDigit c || ('a' ≤ c && c ≤ 'f') || ('A' ≤ c && c ≤ 'F') || c = '_') rest
    | _ => false
  let sexagesimal := match body with
    | d :: rest =>
      '1' ≤ d && d ≤ '9' && afterSexagesimal (rest.dropWhile isDigitOrUnderscore) = some []
    | [] => false
  binary || octal || decimal || hexadecimal || sexagesimal

/-- Read one or two digits, returning what follows. -/
def oneOrTwoDigits : List Char → Option (List Char)
  | d :: e :: rest => if isDigit d then some (if isDigit e then rest else e :: rest) else none
  | [d] => if isDigit d then some [] else none
  | [] => none

/-- Read exactly `n` digits, returning what follows. -/
def exactDigits : Nat → List Char → Option (List Char)
  | 0, rest => some rest
  | n + 1, d :: rest => if isDigit d then exactDigits n rest else none
  | _ + 1, [] => none

/-- Whether the characters are an optional time zone `[ \t]*(Z|[-+]h[h][:mm])` and nothing
more. -/
def isZoneEnd (chars : List Char) : Bool :=
  chars.isEmpty ||
    match chars.dropWhile fun c => c = ' ' || c = '\t' with
    | ['Z'] => true
    | sign :: rest =>
      (sign = '-' || sign = '+') &&
        match oneOrTwoDigits rest with
        | some [] => true
        | some (':' :: minutes) => exactDigits 2 minutes = some []
        | _ => false
    | [] => false

/-- Whether a text is a timestamp by the YAML 1.1 rule. -/
def isTimestampText (chars : List Char) : Bool :=
  let date := (exactDigits 4 chars).bind fun rest =>
    match rest with
    | '-' :: rest => (exactDigits 2 rest).bind fun rest =>
      match rest with
      | '-' :: rest => exactDigits 2 rest
      | _ => none
    | _ => none
  let shortDate := (exactDigits 4 chars).bind fun rest =>
    match rest with
    | '-' :: rest => (oneOrTwoDigits rest).bind fun rest =>
      match rest with
      | '-' :: rest => oneOrTwoDigits rest
      | _ => none
    | _ => none
  let afterSeparator : Option (List Char) := shortDate.bind fun rest =>
    match rest with
    | 'T' :: rest => some rest
    | 't' :: rest => some rest
    | c :: rest =>
      if c = ' ' || c = '\t' then some (rest.dropWhile fun c => c = ' ' || c = '\t') else none
    | [] => none
  let clock := afterSeparator.bind fun rest =>
    (oneOrTwoDigits rest).bind fun rest =>
      match rest with
      | ':' :: rest => (exactDigits 2 rest).bind fun rest =>
        match rest with
        | ':' :: rest => exactDigits 2 rest
        | _ => none
      | _ => none
  let afterFraction := clock.map fun rest =>
    match rest with
    | '.' :: rest => rest.dropWhile isDigit
    | rest => rest
  date = some [] || (afterFraction.map isZoneEnd).getD false

/-- Whether a text is one of the truth words. -/
def isTruthText (chars : List Char) : Bool :=
  ["yes", "Yes", "YES", "no", "No", "NO", "true", "True", "TRUE", "false", "False", "FALSE",
    "on", "On", "ON", "off", "Off", "OFF"].any fun word => chars = word.toList

/-- Whether a text is a null. -/
def isNullText (chars : List Char) : Bool :=
  ["~", "null", "Null", "NULL", ""].any fun word => chars = word.toList

/-- The implicit typing rules, each with the characters its texts can start with. -/
def implicitRules : List (String × List Char × (List Char → Bool)) :=
  [ ("bool", "yYnNtTfFoO".toList, isTruthText),
    ("float", "-+0123456789.".toList, isFloatText),
    ("int", "-+0123456789".toList, isIntText),
    ("merge", ['<'], fun chars => chars = ['<', '<']),
    ("null", "~nN".toList, isNullText),
    ("timestamp", "0123456789".toList, isTimestampText),
    ("value", ['='], fun chars => chars = ['=']) ]

/-- Whether a rule matches the whole text, or the whole text but a final line feed. -/
def matchesWhole (rule : List Char → Bool) (chars : List Char) : Bool :=
  rule chars || (chars.getLast? = some '\n' && rule chars.dropLast)

/-- The tag a plain scalar's text implies. -/
def implicitTag (text : String) : String :=
  match text.toList with
  | [] => nullTag
  | first :: rest =>
    let chars := first :: rest
    match implicitRules.find? fun rule => rule.2.1.contains first && matchesWhole rule.2.2 chars with
    | some rule => coreTag rule.1
    | none => strTag

end DocIndex.Yaml
