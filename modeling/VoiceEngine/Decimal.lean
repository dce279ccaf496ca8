/-!
# Binary numbers as decimal text

A finite binary number is a whole number times a power of two. Its decimal text has the
fewest digits that still round to it, and of the texts with so few digits the nearest one;
of two equally near ones the larger. The search tries one digit, two digits and so on:
among the decimal numbers with a given last place only the two neighbours of the value can
be the nearest, so both are tested against the interval of the numbers that round to it.
The ends of that interval belong to it exactly when the mantissa is even.

In the shortest text numbers from `0.0001` to below `10 ^ 16` are written positionally with
at least one place after the point, others with an exponent. Text with a fixed number of
digits always has an exponent, and is rounded from the exact value.
-/

namespace VoiceEngine.Decimal

/-- How a binary format divides its bits. -/
structure Layout where
  fractionBits : Nat
  exponentBits : Nat

/-- The format of scalars. -/
def single : Layout := ⟨23, 8⟩

/-- The format of sums of scalars. -/
def double : Layout := ⟨52, 11⟩

/-- What a bit pattern stands for. -/
inductive Binary
  | notANumber
  | infinite (negative : Bool)
  /-- The mantissa times two to the exponent. `atStep` says that the next smaller number is
  only half as far away as the next larger one. -/
  | finite (negative : Bool) (mantissa : Nat) (exponent : Int) (atStep : Bool)
  deriving DecidableEq

/-- Reads a bit pattern. -/
def decode (layout : Layout) (bits : Nat) : Binary :=
  let fractions := Nat.pow 2 layout.fractionBits
  let exponents := Nat.pow 2 layout.exponentBits
  let fraction := bits % fractions
  let biased := bits / fractions % exponents
  let negative := bits / (fractions * exponents) % 2 = 1
  let bias : Int := exponents / 2 - 1
  if biased = exponents - 1 then
    if fraction = 0 then .infinite negative else .notANumber
  else if biased = 0 then .finite negative fraction (1 - bias - layout.fractionBits) false
  else
    .finite negative (fractions + fraction) (biased - bias - layout.fractionBits)
      (fraction = 0 ∧ 1 < biased)

/-- Reads a scalar. -/
def ofScalar (value : Float32) : Binary := decode single value.toBits.toNat

/-- Reads a sum of scalars. -/
def ofSum (value : Float) : Binary := decode double value.toBits.toNat

/-- A positive value and the ends of the interval that rounds to it, as fractions with one
denominator. -/
structure Target where
  value : Nat
  lower : Nat
  upper : Nat
  denominator : Nat
  /-- Whether the ends belong to the interval. -/
  closed : Bool

/-- The target of a positive number. -/
def targetOf (mantissa : Nat) (exponent : Int) (atStep : Bool) : Target :=
  let scale := Nat.pow 2 (exponent - 2).toNat
  { value := 4 * mantissa * scale
    lower := (4 * mantissa - if atStep then 1 else 2) * scale
    upper := (4 * mantissa + 2) * scale
    denominator := Nat.pow 2 (2 - exponent).toNat
    closed := mantissa % 2 = 0 }

/-- A positive decimal number: a whole number times a power of ten. -/
structure Numeral where
  digits : Nat
  exponent : Int
  deriving DecidableEq

/-- How many times a fraction below one can be multiplied by ten and stay below one, at
most so many. -/
def leadingZeros (denominator : Nat) : Nat → Nat → Nat
  | 0, _ => 0
  | limit + 1, value =>
    if denominator ≤ value * 10 then 0 else leadingZeros denominator limit (value * 10) + 1

/-- The power of ten just above a target. -/
def magnitude (target : Target) : Int :=
  if target.denominator ≤ target.value then
    (Nat.toDigits 10 (target.value / target.denominator)).length
  else -(leadingZeros target.denominator target.denominator target.value : Int)

/-- The nearest decimal number with a given last place that rounds to the target. -/
def nearestAt (target : Target) (place : Int) : Option Numeral :=
  let up := Nat.pow 10 (-place).toNat
  let unit := target.denominator * Nat.pow 10 place.toNat
  let value := target.value * up
  let inside (digits : Nat) : Bool :=
    let candidate := digits * unit
    if target.closed then target.lower * up ≤ candidate ∧ candidate ≤ target.upper * up
    else target.lower * up < candidate ∧ candidate < target.upper * up
  let below := value / unit
  let nearerAbove := value - below * unit ≥ (below + 1) * unit - value
  let first := if nearerAbove then below + 1 else below
  let second := if nearerAbove then below else below + 1
  if inside first then some ⟨first, place⟩
  else if inside second then some ⟨second, place⟩
  else none

/-- The first hit among `tries` last places, each one digit further. -/
def search (target : Target) : Nat → Int → Numeral
  | 0, place => ⟨target.value / target.denominator, place⟩
  | tries + 1, place =>
    match nearestAt target place with
    | some found => found
    | none => search target tries (place - 1)

/-- The shortest decimal number that rounds to a positive number. -/
def shortest (mantissa : Nat) (exponent : Int) (atStep : Bool) : Numeral :=
  let target := targetOf mantissa exponent atStep
  search target 17 (magnitude target - 1)

/-- A number of zeros. -/
def zeros (count : Nat) : String := String.ofList (List.replicate count '0')

/-- The text of a positive decimal number. -/
def Numeral.text (numeral : Numeral) : String :=
  let all := Nat.toDigits 10 numeral.digits
  let significant := (all.reverse.dropWhile (· = '0')).reverse
  let point : Int := all.length + numeral.exponent
  let digits := String.ofList significant
  if point < -3 ∨ 16 < point then
    let first := String.ofList (significant.take 1)
    let others := String.ofList (significant.drop 1)
    first ++ (if others.isEmpty then "" else "." ++ others) ++ "e" ++ toString (point - 1)
  else if point ≤ 0 then "0." ++ zeros (-point).toNat ++ digits
  else if significant.length ≤ point.toNat then
    digits ++ zeros (point.toNat - significant.length) ++ ".0"
  else
    String.ofList (significant.take point.toNat) ++ "." ++
      String.ofList (significant.drop point.toNat)

/-- The text of what a bit pattern stands for. -/
def Binary.text : Binary → String
  | notANumber => "NaN"
  | infinite negative => (if negative then "-" else "") ++ "inf"
  | finite negative mantissa exponent atStep =>
    (if negative then "-" else "") ++
      if mantissa = 0 then "0.0" else (shortest mantissa exponent atStep).text

/-- A positive value in units of a last place, rounded to the nearest whole number and in
the middle between two to the even one. -/
def roundedAt (target : Target) (place : Int) : Nat :=
  let value := target.value * Nat.pow 10 (-place).toNat
  let unit := target.denominator * Nat.pow 10 place.toNat
  let below := value / unit
  let rest := value % unit
  if unit < 2 * rest ∨ (unit = 2 * rest ∧ below % 2 = 1) then below + 1 else below

/-- The text of a positive value with one digit before the point, so many after it, and an
exponent. A value that rounds up to the next power of ten is written as that power. -/
def scientificOf (target : Target) (places : Nat) : String :=
  let power := magnitude target - 1
  let rounded := roundedAt target (power - places)
  let full := Nat.pow 10 (places + 1)
  let (digits, power) := if full ≤ rounded then (full / 10, power + 1) else (rounded, power)
  let all := Nat.toDigits 10 digits
  String.ofList (all.take 1) ++ "." ++ String.ofList (all.drop 1) ++ "e" ++ toString power

/-- The text of what a bit pattern stands for, with a fixed number of digits after the
point and an exponent. -/
def Binary.scientific (places : Nat) : Binary → String
  | notANumber => "NaN"
  | infinite negative => (if negative then "-" else "") ++ "inf"
  | finite negative mantissa exponent atStep =>
    (if negative then "-" else "") ++
      if mantissa = 0 then "0." ++ zeros places ++ "e0"
      else scientificOf (targetOf mantissa exponent atStep) places

end VoiceEngine.Decimal
