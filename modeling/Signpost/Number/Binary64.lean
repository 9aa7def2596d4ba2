import Signpost.Number.Integer

/-!
# Floating-point numbers

A number of double precision is held as the sign, significand and exponent it stands for, so that
reading, comparing and printing are exact arithmetic on natural numbers. `ofDecimal` takes the
nearest number, an even significand at a tie; `text` prints the fewest digits that read back.
-/
namespace Signpost.Number

/-- A number of double precision. In a finite one the significand is below `2^53`, and at least
`2^52` unless the exponent is the least, `-1074`. -/
inductive Binary64
  | nan
  | infinite (negative : Bool)
  | finite (negative : Bool) (significand : Nat) (exponent : Int)
  deriving DecidableEq, Repr, Inhabited

namespace Binary64

/-- The quotient rounded to the nearest natural number, to the even one at a tie. -/
def divideToEven (num den : Nat) : Nat :=
  let quotient := num / den
  let remainder := num % den
  if 2 * remainder < den then quotient
  else if 2 * remainder > den then quotient + 1
  else if quotient % 2 == 0 then quotient else quotient + 1

/-- The quotient in units of `2^exponent`, as a fraction. -/
def inUnits (num den : Nat) (exponent : Int) : Nat × Nat :=
  if 0 ≤ exponent then (num, den * powerOfTwo exponent.toNat)
  else (num * powerOfTwo (-exponent).toNat, den)

/-- The number nearest to a positive quotient. -/
def ofQuotient (negative : Bool) (num den : Nat) : Binary64 :=
  let guess : Int := max (-1074) ((num.log2 : Int) - den.log2 - 53)
  let (n, d) := inUnits num den guess
  let exponent := if n / d < powerOfTwo 53 then guess else guess + 1
  let (n, d) := inUnits num den exponent
  let significand := divideToEven n d
  let (significand, exponent) :=
    if significand == powerOfTwo 53 then (powerOfTwo 52, exponent + 1)
    else (significand, exponent)
  if exponent > 971 then infinite negative else finite negative significand exponent

/-- The number nearest to `digits * 10^scale`. -/
def ofDecimal (negative : Bool) (digits : Nat) (scale : Int) : Binary64 :=
  let size : Int := (naturalDigits digits).length
  if digits == 0 || scale + size < -400 then finite negative 0 (-1074)
  else if scale + size > 400 then infinite negative
  else if 0 ≤ scale then ofQuotient negative (digits * powerOfTen scale.toNat) 1
  else ofQuotient negative digits (powerOfTen (-scale).toNat)

/-- The integer that a number is. -/
def toInt? : Binary64 → Option Int
  | finite negative significand exponent =>
    let magnitude? : Option Nat :=
      if 0 ≤ exponent then some (significand * powerOfTwo exponent.toNat)
      else
        let unit := powerOfTwo (-exponent).toNat
        if significand % unit == 0 then some (significand / unit) else none
    magnitude?.map fun magnitude => if negative then -(magnitude : Int) else magnitude
  | _ => none

/-- A finite number in units of `2^-1074`. -/
def scaled (negative : Bool) (significand : Nat) (exponent : Int) : Int :=
  let magnitude : Nat := significand * powerOfTwo (exponent + 1074).toNat
  if negative then -(magnitude : Int) else magnitude

/-- Where a number stands on the line of integers in units of `2^-1074`: below all of them, among
them, or above all; `none` for the number that is nowhere. -/
def position? : Binary64 → Option (Int × Int)
  | nan => none
  | infinite negative => some (if negative then -1 else 1, 0)
  | finite negative significand exponent => some (0, scaled negative significand exponent)

/-- Where an integer stands on the same line. -/
def integerPosition (n : Int) : Int × Int := (0, n * powerOfTwo 1074)

/-- The two decimals of the given scale next to a positive number, the nearer first. -/
def neighbours (significand : Nat) (exponent scale : Int) : List Nat :=
  let num := if 0 ≤ exponent then significand * powerOfTwo exponent.toNat else significand
  let den := if 0 ≤ exponent then 1 else powerOfTwo (-exponent).toNat
  let n := if 0 ≤ scale then num else num * powerOfTen (-scale).toNat
  let d := if 0 ≤ scale then den * powerOfTen scale.toNat else den
  let low := n / d
  if divideToEven n d == low then [low, low + 1] else [low + 1, low]

/-- The first decimal of one of the scales that reads back as the number. -/
def firstReadBack (significand : Nat) (exponent : Int) : List Int → Nat × Int
  | [] => (significand, 0)
  | scale :: scales =>
    let reads := fun digits => digits != 0
      && ofDecimal false digits scale == finite false significand exponent
    match (neighbours significand exponent scale).find? reads with
    | some digits => (digits, scale)
    | none => firstReadBack significand exponent scales

/-- The digits without zeros at the end, the scale raised by their number. -/
def dropZeros : Nat → Nat → Int → Nat × Int
  | 0, digits, scale => (digits, scale)
  | fuel + 1, digits, scale =>
    if digits != 0 && digits % 10 == 0 then dropZeros fuel (digits / 10) (scale + 1)
    else (digits, scale)

/-- The fewest decimal digits that read back as a positive number, with their scale. -/
def shortest (significand : Nat) (exponent : Int) : Nat × Int :=
  -- The power of ten above the number, within one.
  let top : Int := ((significand.log2 + exponent) * 30103 / 100000) + 2
  let scales := (List.range 22).map fun (count : Nat) => top - (count : Int)
  let (digits, scale) := firstReadBack significand exponent scales
  dropZeros 20 digits scale

/-- An exponent with its sign and at least two digits. -/
def exponentText (exponent : Int) : List Char :=
  let digits := naturalDigits exponent.natAbs
  (if exponent < 0 then '-' else '+') :: (if digits.length < 2 then '0' :: digits else digits)

/-- Digits and scale as text: positional from `10^-4` to below `10^16`, else with an exponent. -/
def layout (digits : List Char) (scale : Int) : List Char :=
  let point := scale + digits.length
  if -4 < point && point ≤ 16 then
    if point ≤ 0 then "0.".toList ++ List.replicate (-point).toNat '0' ++ digits
    else if scale ≥ 0 then digits ++ List.replicate scale.toNat '0' ++ ".0".toList
    else digits.take point.toNat ++ '.' :: digits.drop point.toNat
  else
    let fraction := if digits.length ≤ 1 then [] else '.' :: digits.drop 1
    digits.take 1 ++ fraction ++ 'e' :: exponentText (point - 1)

/-- The text of a number: the fewest digits that read back as it. -/
def text : Binary64 → String
  | nan => "nan"
  | infinite negative => if negative then "-inf" else "inf"
  | finite negative significand exponent =>
    let body :=
      if significand == 0 then "0.0".toList
      else
        let (digits, scale) := shortest significand exponent
        layout (naturalDigits digits) scale
    String.ofList (if negative then '-' :: body else body)

end Binary64
end Signpost.Number
