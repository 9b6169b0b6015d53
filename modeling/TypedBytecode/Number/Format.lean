/-!
Contract: binary floating point numbers as bit patterns.

Owns:
- the two interchange formats, as numbers of fraction and exponent bits;
- the value of a pattern, as a sign, a significand and a power of two;
- rounding a ratio to the nearest pattern.

Does not own: decimal text.
-/

namespace TypedBytecode

/-- Widths of the fraction and exponent fields of a pattern. -/
structure FloatFormat where
  fractionBits : Nat
  exponentBits : Nat
deriving DecidableEq, Repr

/-- What a pattern stands for: `significand * 2 ^ exponent`, with a sign, if it is finite. -/
inductive FloatValue where
  | nan
  | infinite (negative : Bool)
  | finite (negative : Bool) (significand : Nat) (exponent : Int)
deriving DecidableEq, Repr

namespace FloatFormat

def single : FloatFormat := ⟨23, 8⟩
def double : FloatFormat := ⟨52, 11⟩

/-- Exponent of the least positive value. -/
def leastExponent (format : FloatFormat) : Int :=
  2 - (Nat.pow 2 (format.exponentBits - 1) : Int) - format.fractionBits

def infinity (format : FloatFormat) : Nat :=
  (Nat.pow 2 format.exponentBits - 1) * Nat.pow 2 format.fractionBits

/-- A not-a-number pattern. -/
def quietNaN (format : FloatFormat) : Nat :=
  format.infinity + Nat.pow 2 (format.fractionBits - 1)

def signBit (format : FloatFormat) : Nat :=
  Nat.pow 2 (format.fractionBits + format.exponentBits)

def withSign (format : FloatFormat) (negative : Bool) (magnitude : Nat) : Nat :=
  if negative then format.signBit + magnitude else magnitude

/-- Value of a pattern. A zero exponent field marks the values without the leading one. -/
def decode (format : FloatFormat) (pattern : Nat) : FloatValue :=
  let negative := decide (format.signBit ≤ pattern)
  let magnitude := pattern % format.signBit
  let fraction := magnitude % Nat.pow 2 format.fractionBits
  let exponent := magnitude / Nat.pow 2 format.fractionBits
  if exponent = Nat.pow 2 format.exponentBits - 1 then
    if fraction = 0 then .infinite negative else .nan
  else if exponent = 0 then .finite negative fraction format.leastExponent
  else
    .finite negative (fraction + Nat.pow 2 format.fractionBits)
      (format.leastExponent + (exponent - 1))

/-- The whole number nearest to a ratio, a half going to the even neighbour. -/
def roundHalfEven (numerator denominator : Nat) : Nat :=
  let quotient := numerator / denominator
  let twice := 2 * (numerator % denominator)
  if twice < denominator then quotient
  else if denominator < twice then quotient + 1
  else quotient + quotient % 2

/-- Exponent of the greatest power of two that is not above a positive ratio. -/
def floorLog2 (numerator denominator : Nat) : Int :=
  let estimate : Int := (Nat.log2 numerator : Int) - Nat.log2 denominator
  if denominator * Nat.pow 2 estimate.toNat ≤ numerator * Nat.pow 2 (-estimate).toNat then
    estimate
  else estimate - 1

/-- Pattern nearest to a positive ratio, without a sign. What is too large becomes infinite. -/
def ofRatio (format : FloatFormat) (numerator denominator : Nat) : Nat :=
  let exponent :=
    max format.leastExponent (floorLog2 numerator denominator - format.fractionBits)
  let significand :=
    roundHalfEven (numerator * Nat.pow 2 (-exponent).toNat)
      (denominator * Nat.pow 2 exponent.toNat)
  let pattern :=
    if significand < Nat.pow 2 format.fractionBits then significand
    else
      (exponent - format.leastExponent).toNat * Nat.pow 2 format.fractionBits + significand
  min pattern format.infinity

end FloatFormat

/-- The whole number that a value is. The negative zero is none. -/
def FloatValue.toInt? : FloatValue → Option Int
  | .nan => none
  | .infinite _ => none
  | .finite negative significand exponent =>
    let denominator := Nat.pow 2 (-exponent).toNat
    if significand % denominator ≠ 0 ∨ negative = true ∧ significand = 0 then none
    else
      let magnitude : Int := (significand * Nat.pow 2 exponent.toNat / denominator : Nat)
      some (if negative then -magnitude else magnitude)

end TypedBytecode
