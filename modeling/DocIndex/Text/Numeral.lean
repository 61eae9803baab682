import DocIndex.Text.Basic
import DocIndex.Text.Integer
import DocIndex.Data.Decimal

/-!
# Decimal numbers

`readDecimal text` reads a decimal number: the blanks that may stand around an integer
numeral (`isNumeralBlank`), an optional sign, then `inf`, `infinity` or `nan` in any case,
or digits with an optional fraction and an optional exponent (at least one digit before or
after the point). It has no underscores.
The value is the double nearest to the number written (`Data.Decimal`).
-/

namespace DocIndex.Text

open DocIndex.Data

/-- Read decimal digits, returning their number, how many there were, and what follows. -/
def decimalDigits (acc count : Nat) : List Char → Nat × Nat × List Char
  | [] => (acc, count, [])
  | c :: rest =>
    match digitValue? c with
    | some value => decimalDigits (acc * 10 + value) (count + 1) rest
    | none => (acc, count, c :: rest)

/-- Whether the characters spell `word` in any case. -/
def spellsInAnyCase (word : String) (chars : List Char) : Bool :=
  chars.map Char.toLower = word.toList

/-- The double a decimal number writes, if it writes one. -/
def readDecimal (text : String) : Option Float :=
  let body := (trimBoth isNumeralBlank text).toList
  let (negative, rest) := match body with
    | '-' :: rest => (true, rest)
    | '+' :: rest => (false, rest)
    | rest => (false, rest)
  let signed (x : Float) : Float := if negative then -x else x
  if spellsInAnyCase "inf" rest || spellsInAnyCase "infinity" rest then
    some (signed (Float.ofBits 0x7FF0000000000000))
  else if spellsInAnyCase "nan" rest then
    some (Float.ofBits 0x7FF8000000000000)
  else
    let (whole, wholeCount, rest) := decimalDigits 0 0 rest
    let (digits, fractionCount, rest) := match rest with
      | '.' :: tail => decimalDigits whole 0 tail
      | tail => (whole, 0, tail)
    if wholeCount + fractionCount = 0 then none
    else
      let exponent : Option Int := match rest with
        | [] => some 0
        | e :: tail =>
          if e = 'e' || e = 'E' then
            let (expNegative, expDigits) := match tail with
              | '-' :: more => (true, more)
              | '+' :: more => (false, more)
              | more => (false, more)
            let (value, count, after) := decimalDigits 0 0 expDigits
            if count = 0 || !after.isEmpty then none
            else some (if expNegative then -(value : Int) else value)
          else none
      exponent.map fun exponent => nearestDouble negative digits (exponent - fractionCount)

end DocIndex.Text
