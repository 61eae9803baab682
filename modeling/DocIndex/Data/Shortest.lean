/-!
# Shortest decimal digits of a double

A finite double is `m · 2^q`. The reals that round to it form an interval around it whose
ends belong to it exactly when `m` is even (a tie rounds to the even mantissa). `shortest`
finds the fewest decimal digits whose value lies in that interval and, among those, the
one nearest to the double; a tie between two nearest goes to the even digit string.

The search tests, for 1, 2, … 17 digits, the two neighbours of the double on the decimal
grid of that many digits. If some point of a grid lies in the interval, one of the two
neighbours does, so the first grid with a hit has the fewest digits. All arithmetic is on
natural numbers, scaled so that nothing is rounded.
-/

namespace DocIndex.Data

/-- What the bits of a double describe. -/
inductive FloatShape where
  | nan
  | infinite (negative : Bool)
  | finite (negative : Bool) (mantissa : Nat) (exponent : Int)

/-- Whether the double's mantissa is the smallest of a binade above the first, where the
gap to the next smaller double is half the gap to the next larger one. -/
structure Binade where
  mantissa : Nat
  exponent : Int
  narrowBelow : Bool

/-- Read the sign, exponent and fraction fields of a double. -/
def FloatShape.ofFloat (x : Float) : FloatShape :=
  let bits : Nat := x.toBits.toNat
  let negative := decide (bits / Nat.pow 2 63 % 2 = 1)
  let biased : Nat := bits / Nat.pow 2 52 % Nat.pow 2 11
  let fraction : Nat := bits % Nat.pow 2 52
  if biased = 2047 then
    if fraction = 0 then .infinite negative else .nan
  else if biased = 0 then
    .finite negative fraction (-1074)
  else
    .finite negative (fraction + Nat.pow 2 52) (Int.ofNat biased - 1075)

/-- The binade data of a finite double's magnitude. -/
def binadeOf (mantissa : Nat) (exponent : Int) : Binade :=
  { mantissa, exponent,
    narrowBelow := mantissa = Nat.pow 2 52 && decide (exponent > -1074) }

/-- A double's magnitude and the half-gaps of its rounding interval, all multiplied by one
power of two so that they are whole numbers. -/
structure Scaled where
  value : Nat
  above : Nat
  below : Nat
  scale : Nat
  closed : Bool

/-- Scale a binade so that the value and both half-gaps are whole numbers. -/
def Binade.scaled (binade : Binade) : Scaled :=
  let shift : Nat := (max 0 (-binade.exponent)).toNat + 2
  let up : Nat := (binade.exponent + shift).toNat
  { value := binade.mantissa * Nat.pow 2 up
    above := Nat.pow 2 (up - 1)
    below := if binade.narrowBelow then Nat.pow 2 (up - 2) else Nat.pow 2 (up - 1)
    scale := Nat.pow 2 shift
    closed := binade.mantissa % 2 = 0 }

/-- The count of decimal digits of a positive number. -/
def digitCount (n : Nat) : Nat :=
  (Nat.toDigits 10 n).length

/-- The smallest `j ≥ 1` with `value · 10^j ≥ scale`, searched below `fuel`. -/
def fractionShift (value scale : Nat) : Nat → Nat → Nat
  | 0, j => j
  | fuel + 1, j =>
    if value * Nat.pow 10 j ≥ scale then j else fractionShift value scale fuel (j + 1)

/-- The decimal exponent `n` with `10^(n-1) ≤ v < 10^n`, for a positive scaled value. -/
def Scaled.decimalExponent (scaled : Scaled) : Int :=
  if scaled.value ≥ scaled.scale then
    digitCount (scaled.value / scaled.scale)
  else
    1 - (fractionShift scaled.value scaled.scale 400 1 : Int)

/-- A decimal candidate `digits · 10^exponent`, compared with the scaled double: its
distance from the double, and whether it lies in the rounding interval. -/
def Scaled.judge (scaled : Scaled) (digits : Nat) (exponent : Int) : Bool × Nat :=
  let lift := if exponent < 0 then Nat.pow 10 (-exponent).toNat else 1
  let candidate := if exponent < 0 then digits * scaled.scale
    else digits * Nat.pow 10 exponent.toNat * scaled.scale
  let value := scaled.value * lift
  if candidate ≥ value then
    let distance := candidate - value
    let bound := scaled.above * lift
    (distance < bound || (scaled.closed && distance == bound), distance)
  else
    let distance := value - candidate
    let bound := scaled.below * lift
    (distance < bound || (scaled.closed && distance == bound), distance)

/-- The better of two candidates that both lie in the interval: the nearer, and on a tie
the even one. -/
def nearer (low high : Nat × Nat) : Nat :=
  if low.2 < high.2 then low.1
  else if high.2 < low.2 then high.1
  else if low.1 % 2 = 0 then low.1 else high.1

/-- The hit on the grid of `count` digits, if one of the double's two neighbours there
lies in its interval: the digits and the grid's exponent. -/
def Scaled.hitWith (scaled : Scaled) (count : Nat) : Option (Nat × Int) :=
  let exponent := scaled.decimalExponent - count
  let floorDigits :=
    if exponent < 0 then scaled.value * Nat.pow 10 (-exponent).toNat / scaled.scale
    else scaled.value / (scaled.scale * Nat.pow 10 exponent.toNat)
  let low := scaled.judge floorDigits exponent
  let high := scaled.judge (floorDigits + 1) exponent
  match low.1, high.1 with
  | true, true => some (nearer (floorDigits, low.2) (floorDigits + 1, high.2), exponent)
  | true, false => some (floorDigits, exponent)
  | false, true => some (floorDigits + 1, exponent)
  | false, false => none

/-- Search the grids of `count`, `count + 1`, … digits for the first hit. -/
def Scaled.firstHit (scaled : Scaled) : Nat → Nat → Option (Nat × Int)
  | 0, _ => none
  | fuel + 1, count =>
    match scaled.hitWith count with
    | some hit => some hit
    | none => scaled.firstHit fuel (count + 1)

/-- Drop the zeros at the front of reversed digits (the trailing zeros of the number),
keeping at least one digit; also return how many were dropped. -/
def dropTrailingZeros : List Char → Nat → List Char × Nat
  | '0' :: rest, dropped =>
    if rest.isEmpty then (['0'], dropped) else dropTrailingZeros rest (dropped + 1)
  | digits, dropped => (digits, dropped)

/-- Drop trailing zero digits, raising the exponent to keep the value. -/
def trimZeros (digits : List Char) (exponent : Int) : List Char × Int :=
  let (kept, dropped) := dropTrailingZeros digits.reverse 0
  (kept.reverse, exponent + dropped)

/-- The shortest decimal digits of a positive finite double and the position of the
decimal point: the double is `0.d₁d₂… · 10^point`. -/
def shortestDigits (mantissa : Nat) (exponent : Int) : List Char × Int :=
  let scaled := (binadeOf mantissa exponent).scaled
  match scaled.firstHit 17 1 with
  | some (digits, gridExponent) =>
    let (kept, keptExponent) := trimZeros (Nat.toDigits 10 digits) gridExponent
    (kept, keptExponent + kept.length)
  | none => (Nat.toDigits 10 mantissa, 0)

end DocIndex.Data
