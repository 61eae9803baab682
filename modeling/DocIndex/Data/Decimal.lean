/-!
# The double nearest to a decimal number

`nearestDouble negative digits exponent` is the double nearest to
`±digits · 10^exponent`; of two equally near doubles it is the one with the even mantissa,
and a value too large for any finite double is an infinity. All arithmetic is on natural
numbers: the value is the fraction `numerator / denominator`, scaled by a power of two so
that its integer part has 53 bits, and the remainder of that division decides the rounding.
-/

namespace DocIndex.Data

/-- The exponent `t` with `2^t ≤ numerator / denominator < 2^(t+1)`, for positive
`numerator` and `denominator`. -/
def floorLog2 (numerator denominator : Nat) : Int :=
  let guess : Int := (numerator.log2 : Int) - denominator.log2
  let below :=
    if guess ≥ 0 then numerator < denominator * Nat.pow 2 guess.toNat
    else numerator * Nat.pow 2 (-guess).toNat < denominator
  if below then guess - 1 else guess

/-- The bits of the double `mantissa · 2^exponent`, where `mantissa < 2^53`, and either
`mantissa ≥ 2^52` or `exponent = -1074` (a subnormal). -/
def bitsOf (mantissa : Nat) (exponent : Int) : Nat :=
  if mantissa < Nat.pow 2 52 then mantissa
  else (exponent + 1075).toNat * Nat.pow 2 52 + (mantissa - Nat.pow 2 52)

/-- The double nearest to the positive fraction `numerator / denominator`, ties to the even
mantissa. -/
def nearestOfFraction (numerator denominator : Nat) : Float :=
  let exponent : Int := max (floorLog2 numerator denominator - 52) (-1074)
  let (scaledNumerator, scaledDenominator) :=
    if exponent ≥ 0 then (numerator, denominator * Nat.pow 2 exponent.toNat)
    else (numerator * Nat.pow 2 (-exponent).toNat, denominator)
  let quotient := scaledNumerator / scaledDenominator
  let remainder := scaledNumerator % scaledDenominator
  let roundUp := 2 * remainder > scaledDenominator ||
    (2 * remainder = scaledDenominator && quotient % 2 = 1)
  let mantissa := if roundUp then quotient + 1 else quotient
  let (mantissa, exponent) :=
    if mantissa = Nat.pow 2 53 then (Nat.pow 2 52, exponent + 1) else (mantissa, exponent)
  if exponent > 971 then Float.ofBits 0x7FF0000000000000
  else Float.ofBits (bitsOf mantissa exponent).toUInt64

/-- The double nearest to `±digits · 10^exponent`. Magnitudes beyond `10^400` are infinite
and below `10^-400` are zero, far outside the range of doubles either way. -/
def nearestDouble (negative : Bool) (digits : Nat) (exponent : Int) : Float :=
  let magnitude : Float :=
    if digits = 0 then 0.0
    else
      let size : Int := (Nat.toDigits 10 digits).length
      if size + exponent > 400 then Float.ofBits 0x7FF0000000000000
      else if size + exponent < -400 then 0.0
      else if exponent ≥ 0 then nearestOfFraction (digits * Nat.pow 10 exponent.toNat) 1
      else nearestOfFraction digits (Nat.pow 10 (-exponent).toNat)
  if negative then -magnitude else magnitude

end DocIndex.Data
