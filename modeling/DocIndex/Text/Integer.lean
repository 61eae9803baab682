import DocIndex.Text.RangeTable
import DocIndex.Text.Basic

/-!
# Integers written as text

The decimal digits of Unicode 14 (category Nd). Every block of them is a run of whole
decades, so the value of a digit is its distance from the start of its range, modulo 10.

`readNumeral base text` reads an integer numeral in base 2, 8, 10 or 16 as a person may
type it: blanks around it, an optional sign, for bases 2, 8 and 16 an optional mark `0b`,
`0o` or `0x` (in either case, and followed by at most one `_`), then digits of the base
with single underscores between them. Decimal digits of any script count.

The blanks around a numeral are the ASCII blanks (space, tab, line feed, vertical tab,
form feed, carriage return) and every blank beyond ASCII; the ASCII information separators
U+001C to U+001F, blank elsewhere, are not among them.

A numeral in a base that is not a power of two with more than `maxIntegerDigits` digits
is refused even when it is well-formed, so that reading stays cheap. The count is that of
the leading run of digits, and the refusal comes before anything after the run is looked
at: a long run followed by stray characters is refused for its length.
-/

namespace DocIndex.Text

/-- Code points of the decimal digits, as ranges of whole decades. -/
def digitTable : RangeTable where
  ranges := #[
  (0x30, 0x39), (0x660, 0x669), (0x6F0, 0x6F9), (0x7C0, 0x7C9), (0x966, 0x96F), (0x9E6, 0x9EF),
  (0xA66, 0xA6F), (0xAE6, 0xAEF), (0xB66, 0xB6F), (0xBE6, 0xBEF), (0xC66, 0xC6F), (0xCE6, 0xCEF),
  (0xD66, 0xD6F), (0xDE6, 0xDEF), (0xE50, 0xE59), (0xED0, 0xED9), (0xF20, 0xF29), (0x1040, 0x1049),
  (0x1090, 0x1099), (0x17E0, 0x17E9), (0x1810, 0x1819), (0x1946, 0x194F), (0x19D0, 0x19D9), (0x1A80, 0x1A89),
  (0x1A90, 0x1A99), (0x1B50, 0x1B59), (0x1BB0, 0x1BB9), (0x1C40, 0x1C49), (0x1C50, 0x1C59), (0xA620, 0xA629),
  (0xA8D0, 0xA8D9), (0xA900, 0xA909), (0xA9D0, 0xA9D9), (0xA9F0, 0xA9F9), (0xAA50, 0xAA59), (0xABF0, 0xABF9),
  (0xFF10, 0xFF19), (0x104A0, 0x104A9), (0x10D30, 0x10D39), (0x11066, 0x1106F), (0x110F0, 0x110F9), (0x11136, 0x1113F),
  (0x111D0, 0x111D9), (0x112F0, 0x112F9), (0x11450, 0x11459), (0x114D0, 0x114D9), (0x11650, 0x11659), (0x116C0, 0x116C9),
  (0x11730, 0x11739), (0x118E0, 0x118E9), (0x11950, 0x11959), (0x11C50, 0x11C59), (0x11D50, 0x11D59), (0x11DA0, 0x11DA9),
  (0x16A60, 0x16A69), (0x16AC0, 0x16AC9), (0x16B50, 0x16B59), (0x1D7CE, 0x1D7FF), (0x1E140, 0x1E149), (0x1E2F0, 0x1E2F9),
  (0x1E950, 0x1E959), (0x1FBF0, 0x1FBF9)]

/-- The value of a decimal digit, if the character is one. -/
def digitValue? (c : Char) : Option Nat :=
  (digitTable.find? c.toNat).map fun range => (c.toNat - range.1) % 10

/-- Whether a character may stand around a numeral. -/
def isNumeralBlank (c : Char) : Bool :=
  if c.toNat < 128 then c = ' ' || ('\t' ≤ c && c ≤ '\r') else isBlank c

/-- The value of a digit in `base`: decimal digits of any script, and Latin letters for
ten and above. -/
def digitIn (base : Nat) (c : Char) : Option Nat :=
  let value : Option Nat :=
    match digitValue? c with
    | some n => some n
    | none =>
      if 'a' ≤ c && c ≤ 'z' then some (c.toNat - 'a'.toNat + 10)
      else if 'A' ≤ c && c ≤ 'Z' then some (c.toNat - 'A'.toNat + 10)
      else none
  value.bind fun n => if n < base then some n else none

/-- The run of digits of `base` at the front of a numeral, with single underscores between
them: how many digits it has, their value, and what follows it. An underscore that is
doubled, comes first or comes last makes the numeral malformed, and so does a run without
digits; `afterUnderscore` says whether the last character read was an underscore, and a
run starts as if it were. -/
def digitRun (base : Nat) (afterUnderscore : Bool) (count value : Nat) :
    List Char → Option (Nat × Nat × List Char)
  | [] => if afterUnderscore then none else some (count, value, [])
  | '_' :: rest => if afterUnderscore then none else digitRun base true count value rest
  | c :: rest =>
    match digitIn base c with
    | some digit => digitRun base false (count + 1) (value * base + digit) rest
    | none => if afterUnderscore then none else some (count, value, c :: rest)

/-- The letter of the mark that may announce a numeral in `base`. -/
def baseLetter (base : Nat) : Option Char :=
  if base = 2 then some 'b' else if base = 8 then some 'o' else if base = 16 then some 'x'
  else none

/-- Drop the mark of a numeral in `base`, and one underscore after it. -/
def dropBaseMark (base : Nat) (chars : List Char) : List Char :=
  match baseLetter base, chars with
  | some letter, '0' :: c :: rest =>
    if c = letter || c = letter.toUpper then
      match rest with
      | '_' :: more => more
      | more => more
    else chars
  | _, _ => chars

/-- The most digits a numeral in a base that is not a power of two may have and still be
read. -/
def maxIntegerDigits : Nat := 4300

/-- Whether numerals in `base` are held to `maxIntegerDigits`: all bases but the powers of
two, whose digits convert without arithmetic. -/
def limitsDigits (base : Nat) : Bool :=
  !(base = 2 || base = 4 || base = 8 || base = 16 || base = 32)

/-- Why a text is not read as an integer. -/
inductive NumeralError where
  | malformed
  | tooLong (count : Nat)
  deriving DecidableEq, Repr

/-- The integer a numeral in `base` writes, or why it is not read. -/
def readNumeral (base : Nat) (text : String) : Except NumeralError Int :=
  let body := text.toList.dropWhile isNumeralBlank
  let (negative, unsigned) := match body with
    | '-' :: rest => (true, rest)
    | '+' :: rest => (false, rest)
    | rest => (false, rest)
  match digitRun base true 0 0 (dropBaseMark base unsigned) with
  | none => .error .malformed
  | some (count, value, rest) =>
    if limitsDigits base && count > maxIntegerDigits then .error (.tooLong count)
    else if rest.all isNumeralBlank then .ok (if negative then -(value : Int) else value)
    else .error .malformed

/-- The integer a decimal numeral writes, if it is read. -/
def readInteger (text : String) : Option Int :=
  match readNumeral 10 text with
  | .ok n => some n
  | .error _ => none

/-- Why a numeral with `count` digits is not read. -/
def digitLimitMessage (count : Nat) : String :=
  "Exceeds the limit (" ++ toString maxIntegerDigits ++
    " digits) for integer string conversion: value has " ++ toString count ++
    " digits; use sys.set_int_max_str_digits() to increase the limit"

end DocIndex.Text
