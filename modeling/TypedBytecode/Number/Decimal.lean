import TypedBytecode.Number.Format

/-!
Contract: decimal text of binary floating point numbers.

Owns:
- the decimal with the fewest digits that reads back as a given value, and the nearest of
  those;
- how a decimal is laid out, with or without an exponent.

Does not own: which layout a piece of output uses.
-/

namespace TypedBytecode

/-- The number `digits * 10 ^ exponent`. -/
structure Decimal where
  digits : Nat
  exponent : Int
deriving DecidableEq, Repr

/-- Powers of ten for which a number is written without an exponent: from the first up to, and
not including, the second. -/
structure DecimalLayout where
  positionalFrom : Int
  positionalBelow : Int

namespace Decimal

def digitCount (number : Nat) : Nat :=
  (Nat.toDigits 10 number).length

/-- The integer `point` with `10 ^ (point - 1) ≤ ratio < 10 ^ point`, for a positive ratio. -/
def pointOf (numerator denominator : Nat) : Int :=
  let estimate : Int := (digitCount numerator : Int) - digitCount denominator
  if denominator * Nat.pow 10 estimate.toNat ≤ numerator * Nat.pow 10 (-estimate).toNat then
    estimate + 1
  else estimate

/-- The reals that read as one value: a middle and two ends over a common denominator, the ends
belonging to it or not. -/
structure Interval where
  low : Nat
  middle : Nat
  high : Nat
  denominator : Nat
  closed : Bool

/-- Reals nearest to a value of a format. The value below a power of two is only half as far
away, and a tie reads as the even significand. -/
def Interval.ofFinite (format : FloatFormat) (significand : Nat) (exponent : Int) : Interval :=
  let nearBelow :=
    significand = Nat.pow 2 format.fractionBits ∧ exponent ≠ format.leastExponent
  let unit := Nat.pow 2 (exponent - 2).toNat
  { low := (4 * significand - if nearBelow then 1 else 2) * unit
    middle := 4 * significand * unit
    high := (4 * significand + 2) * unit
    denominator := Nat.pow 2 (2 - exponent).toNat
    closed := significand % 2 == 0 }

/-- Is `digits * 10 ^ exponent`, written over the interval's denominator scaled by a power of
ten, in the interval? -/
def Interval.holds (interval : Interval) (scaleUp scaleDown digits : Nat) : Bool :=
  let position := digits * (interval.denominator * scaleDown)
  if interval.closed then
    interval.low * scaleUp ≤ position && position ≤ interval.high * scaleUp
  else interval.low * scaleUp < position && position < interval.high * scaleUp

/-- The decimal of `count` digits in the interval that is nearest to its middle. Between two
that are equally near it is the greater one. -/
def Interval.withDigits? (interval : Interval) (point : Int) (count : Nat) : Option Decimal :=
  let exponent := point - count
  let scaleUp := Nat.pow 10 (-exponent).toNat
  let scaleDown := Nat.pow 10 exponent.toNat
  let numerator := interval.middle * scaleUp
  let denominator := interval.denominator * scaleDown
  let below := numerator / denominator
  let above := below + 1
  let belowFits := interval.holds scaleUp scaleDown below
  let aboveFits := interval.holds scaleUp scaleDown above
  let belowIsNearer := 2 * (numerator % denominator) < denominator
  if belowFits && (!aboveFits || belowIsNearer) then some ⟨below, exponent⟩
  else if aboveFits then
    some (if above = Nat.pow 10 count then ⟨1, point⟩ else ⟨above, exponent⟩)
  else none

/-- Digits that are enough for every value of the supported formats. -/
def enoughDigits : Nat := 17

/-- The shortest decimal that reads back as a positive value. -/
def shortest (format : FloatFormat) (significand : Nat) (exponent : Int) : Decimal :=
  let interval := Interval.ofFinite format significand exponent
  let point := pointOf interval.middle interval.denominator
  ((List.range enoughDigits).findSome? (fun fewer =>
    interval.withDigits? point (fewer + 1))).getD ⟨significand, 0⟩

def zeros (count : Nat) : String :=
  String.ofList (List.replicate count '0')

/-- A number without an exponent has at least one digit on both sides of the point. -/
def positional (digits : String) (leading : Int) : String :=
  if leading < 0 then "0." ++ zeros (-leading - 1).toNat ++ digits
  else
    let whole := leading.toNat + 1
    if digits.length ≤ whole then digits ++ zeros (whole - digits.length) ++ ".0"
    else
      String.ofList (digits.toList.take whole) ++ "." ++
        String.ofList (digits.toList.drop whole)

/-- A number with an exponent has one digit before the point, and a point only before more
digits. -/
def scientific (digits : String) (leading : Int) : String :=
  let mantissa :=
    if digits.length ≤ 1 then digits
    else String.ofList (digits.toList.take 1) ++ "." ++ String.ofList (digits.toList.drop 1)
  mantissa ++ "e" ++ toString leading

def text (layout : DecimalLayout) (decimal : Decimal) : String :=
  let digits := toString decimal.digits
  let leading := decimal.exponent + digits.length - 1
  if layout.positionalFrom ≤ leading ∧ leading < layout.positionalBelow then
    positional digits leading
  else scientific digits leading

end Decimal

/-- Text of the value of a pattern. -/
def FloatFormat.text (format : FloatFormat) (layout : DecimalLayout) (pattern : Nat) : String :=
  let sign (negative : Bool) : String := if negative then "-" else ""
  match format.decode pattern with
  | .nan => "NaN"
  | .infinite negative => sign negative ++ "inf"
  | .finite negative significand exponent =>
    if significand = 0 then sign negative ++ "0.0"
    else sign negative ++ (Decimal.shortest format significand exponent).text layout

end TypedBytecode
