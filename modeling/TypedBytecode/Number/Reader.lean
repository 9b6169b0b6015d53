import TypedBytecode.Number.Format

/-!
Contract: numbers read from text.

Owns:
- integers with one sign at most, checked against a width in bits;
- decimal numbers with a point and an exponent, rounded to the nearest value of a format;
- the words for infinity and for no number.
-/

namespace TypedBytecode.Number

/-- Value of a non-empty text of decimal digits. -/
def natural? (text : List Char) : Option Nat :=
  if !text.isEmpty && text.all Char.isDigit then
    some (text.foldl (fun value c => 10 * value + (c.toNat - '0'.toNat)) 0)
  else none

/-- A natural number below `2 ^ bits`, with a plus sign or none. -/
def unsigned? (bits : Nat) (text : List Char) : Option Nat :=
  let number :=
    match text with
    | '+' :: digits => natural? digits
    | digits => natural? digits
  number.filter (fun value => value < Nat.pow 2 bits)

/-- An integer from `-2 ^ (bits - 1)` up to `2 ^ (bits - 1) - 1`, with a sign or none. -/
def signed? (bits : Nat) (text : List Char) : Option Int :=
  let number : Option Int :=
    match text with
    | '+' :: digits => (natural? digits).map Int.ofNat
    | '-' :: digits => (natural? digits).map (fun value => -Int.ofNat value)
    | digits => (natural? digits).map Int.ofNat
  let bound : Int := Nat.pow 2 (bits - 1)
  number.filter (fun value => -bound ≤ value && value < bound)

/-! ## Decimal numbers -/

/-- The exponent part of a decimal number, which may be missing. -/
def exponentPart? : List Char → Option Int
  | [] => some 0
  | c :: rest =>
    if c = 'e' ∨ c = 'E' then
      match rest with
      | '+' :: digits => (natural? digits).map Int.ofNat
      | '-' :: digits => (natural? digits).map (fun value => -Int.ofNat value)
      | digits => (natural? digits).map Int.ofNat
    else none

/-- Digits and power of ten of a decimal number: digits with at most one point among them, at
least one digit, then an exponent or none. -/
def decimal? (text : List Char) : Option (Nat × Int) :=
  let whole := text.takeWhile Char.isDigit
  let afterWhole := text.dropWhile Char.isDigit
  let fraction :=
    match afterWhole with
    | '.' :: rest => rest.takeWhile Char.isDigit
    | _ => []
  let afterFraction :=
    match afterWhole with
    | '.' :: rest => rest.dropWhile Char.isDigit
    | rest => rest
  match natural? (whole ++ fraction), exponentPart? afterFraction with
  | some digits, some exponent => some (digits, exponent - fraction.length)
  | _, _ => none

/-- Powers of ten beyond this bound lie outside every supported format. -/
def exponentBound : Int := 400

/-- Pattern, without a sign, of `digits * 10 ^ exponent`. -/
def magnitude (format : FloatFormat) (digits : Nat) (exponent : Int) : Nat :=
  let leading := exponent + (Nat.toDigits 10 digits).length
  if digits = 0 ∨ leading < -exponentBound then 0
  else if exponentBound < leading then format.infinity
  else format.ofRatio (digits * Nat.pow 10 exponent.toNat) (Nat.pow 10 (-exponent).toNat)

/-- Pattern of a number without its sign. Words are read in any case. -/
def unsignedFloat? (format : FloatFormat) (text : List Char) : Option Nat :=
  match decimal? text with
  | some (digits, exponent) => some (magnitude format digits exponent)
  | none =>
    let word := String.ofList (text.map Char.toLower)
    if word = "inf" ∨ word = "infinity" then some format.infinity
    else if word = "nan" then some format.quietNaN
    else none

/-- Pattern of a floating point number, with a sign or none. -/
def float? (format : FloatFormat) (text : List Char) : Option Nat :=
  match text with
  | '+' :: rest => unsignedFloat? format rest
  | '-' :: rest => (unsignedFloat? format rest).map (format.withSign true)
  | rest => unsignedFloat? format rest

end TypedBytecode.Number
