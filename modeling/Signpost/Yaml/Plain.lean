import Signpost.Text.Case
import Signpost.Text.Split
import Signpost.Value
import Signpost.Yaml.Node

/-!
# Plain scalars

A scalar without quotes and without a tag is what it looks like: nothing, a truth value, an integer
or another number in one of several bases, a date, or else a text. `tagOf` decides by the form and
the readers give the value.
-/
namespace Signpost.Yaml

/-- The words for true and false. -/
def truthWords : List (String × Bool) :=
  [("yes", true), ("no", false), ("true", true), ("false", false), ("on", true), ("off", false)]

/-- A word in small letters, in capitals, or with one capital in front. -/
def isCased (word : List Char) : Bool :=
  let upper := fun (c : Char) => 0x41 ≤ c.toNat && c.toNat ≤ 0x5A
  word.all (!upper ·) || word.all upper || ((word.take 1).all upper && (word.drop 1).all (!upper ·))

/-- The word in small letters. -/
def lowered (word : List Char) : String :=
  String.ofList (word.map Text.toAsciiLower)

/-- A digit or an underscore. -/
def isDigitOrGap (c : Char) : Bool :=
  Text.isAsciiDigit c || c == '_'

/-- The text without a sign in front. -/
def unsigned : List Char → List Char
  | '+' :: rest | '-' :: rest => rest
  | cs => cs

/-- A part of a number of base sixty: a digit, or two of which the first is below six. -/
def isSixtieth : List Char → Bool
  | [a] => Text.isAsciiDigit a
  | [a, b] => Text.isAsciiDigit a && a.toNat ≤ 0x35 && Text.isAsciiDigit b
  | _ => false

/-- Digits and gaps, the first a digit. -/
def isDigitRun : List Char → Bool
  | c :: rest => Text.isAsciiDigit c && rest.all isDigitOrGap
  | [] => false

/-- The form of an integer. -/
def isInteger (text : List Char) : Bool :=
  match unsigned text with
  | ['0'] => true
  | '0' :: 'b' :: rest =>
    !rest.isEmpty && rest.all fun c => c == '0' || c == '1' || c == '_'
  | '0' :: 'x' :: rest => !rest.isEmpty && rest.all fun c => Text.isHexDigit c || c == '_'
  | '0' :: rest => !rest.isEmpty && rest.all fun c => (isDigitOrGap c) && c != '8' && c != '9'
  | body =>
    match Text.pieces ':' body with
    | [digits] => isDigitRun digits
    | first :: parts => isDigitRun first && parts.all isSixtieth
    | [] => false

/-- The form of an exponent, which may be missing. -/
def isExponent : List Char → Bool
  | [] => true
  | e :: sign :: digits =>
    (e == 'e' || e == 'E') && (sign == '+' || sign == '-') && !digits.isEmpty
      && digits.all Text.isAsciiDigit
  | _ => false

/-- Digits and gaps, then an exponent. -/
def isFraction (cs : List Char) : Bool :=
  isExponent (cs.dropWhile isDigitOrGap)

/-- The form of a number with a point. -/
def isReal (text : List Char) : Bool :=
  let special := [".inf", ".Inf", ".INF"].contains (String.ofList (unsigned text))
    || [".nan", ".NaN", ".NAN"].contains (String.ofList text)
  if special then true
  else
    match Text.cut? '.' (unsigned text) with
    | none => false
    | some ([], after) => unsigned text == text && isDigitRun (after.take 1) && isFraction after
    | some (whole, after) =>
      match Text.pieces ':' whole with
      | [digits] => isDigitRun digits && isFraction after
      | first :: parts => isDigitRun first && parts.all isSixtieth && after.all isDigitOrGap
      | [] => false

/-- Digits at the front, at least and at most so many, and what follows them. -/
def digitsFront (low high : Nat) (cs : List Char) : Option (Nat × List Char) :=
  let digits := (cs.takeWhile Text.isAsciiDigit).take high
  if digits.length < low then none
  else some (Number.ofDigits (digits.map fun c => c.toNat - 0x30), cs.drop digits.length)

/-- What follows a sign that has to be there. -/
def after (sign : Char) : List Char → Option (List Char)
  | c :: rest => if c == sign then some rest else none
  | [] => none

/-- A date, and what follows it. -/
def dateFront (low : Nat) (cs : List Char) : Option (List Nat × List Char) := do
  let (year, cs) ← digitsFront 4 4 cs
  let (month, cs) ← digitsFront low 2 (← after '-' cs)
  let (day, cs) ← digitsFront low 2 (← after '-' cs)
  return ([year, month, day], cs)

/-- A blank between the parts of an instant. -/
def isGap (c : Char) : Bool := c == ' ' || c == '\t'

/-- The form of an offset from universal time. -/
def isZone (cs : List Char) : Bool :=
  match cs.dropWhile isGap with
  | [] => cs.isEmpty
  | ['Z'] => true
  | c :: rest =>
    (c == '+' || c == '-') && match digitsFront 1 2 rest with
      | some (_, []) => true
      | some (_, ':' :: minutes) => (digitsFront 2 2 minutes).any (·.2.isEmpty)
      | _ => false

/-- A time of the day with its offset. -/
def timeFront (cs : List Char) : Option (List Nat) := do
  let cs ← match cs with
    | 'T' :: rest | 't' :: rest => some rest
    | c :: _ => if isGap c then some (cs.dropWhile isGap) else none
    | [] => none
  let (hour, cs) ← digitsFront 1 2 cs
  let (minute, cs) ← digitsFront 2 2 (← after ':' cs)
  let (second, cs) ← digitsFront 2 2 (← after ':' cs)
  let cs := match cs with
    | '.' :: rest => rest.dropWhile Text.isAsciiDigit
    | _ => cs
  if isZone cs then some [hour, minute, second] else none

/-- The parts of a date or an instant. -/
def instantParts (low : Nat) (text : List Char) : Option (List Nat) := do
  let (date, cs) ← dateFront low text
  if cs.isEmpty then return date
  else return date ++ (← timeFront cs)

/-- The form of a date or of an instant; in a date alone, month and day have two digits. -/
def isInstant (text : List Char) : Bool :=
  match instantParts 1 text with
  | none => false
  | some parts => parts.length > 3 || (instantParts 2 text).isSome

/-- What a plain scalar is, by its form. -/
def tagOf (text : List Char) : Tag :=
  let word := String.ofList text
  if isCased text && (truthWords.lookup (lowered text)).isSome then .bool
  else if isReal text then .float
  else if isInteger text then .int
  else if word == "<<" then .merge
  else if ["", "~", "null", "Null", "NULL"].contains word then .null
  else if isInstant text then .timestamp
  else if word == "=" then .default
  else .text

/-- The sign of a number. -/
def isNegative (text : List Char) : Bool := text.head? == some '-'

/-- The value of digits in a base; gaps do not count. -/
def digitsIn (base : Nat) (cs : List Char) : Option Nat :=
  let digits := cs.filter (· != '_')
  if digits.isEmpty then none
  else
    digits.foldlM (fun value c => do
      let digit ← Text.hexValue? c
      if digit < base then some (base * value + digit) else none) 0

/-- What is said of a numeral that is none in its base. -/
def badNumeral (base : Nat) (cs : List Char) : Fault :=
  .unreadable ("invalid literal for int() with base " ++ Number.decimal base ++ ": "
    ++ Text.quoted (String.ofList cs))

/-- The value of digits in a base, or what is wrong with them. -/
def numeralIn (base : Nat) (cs : List Char) : Except Fault Int :=
  match digitsIn base cs with
  | some n => .ok n
  | none => .error (badNumeral base cs)

/-- The value of a decimal numeral. -/
def decimalNumeral (cs : List Char) : Except Fault Int :=
  match Number.integer? (String.ofList cs) with
  | some n => .ok n
  | none =>
    let digits := cs.filter Text.isAsciiDigit
    if digits.length > Number.digitLimit && cs.all Text.isAsciiDigit then
      .error (.unreadable (Number.longNumeralMessage digits.length))
    else .error (badNumeral 10 cs)

/-- The integer that a scalar denotes. -/
def integerValue (text : List Char) : Except Fault Int := do
  let text := text.filter (· != '_')
  let body := unsigned text
  let magnitude ←
    match body with
    | [] => .error (.unreadable "string index out of range")
    | ['0'] => pure 0
    | '0' :: 'b' :: rest => numeralIn 2 rest
    | '0' :: 'x' :: rest => numeralIn 16 rest
    | '0' :: _ => numeralIn 8 body
    | _ => do
      let parts ← (Text.pieces ':' body).mapM decimalNumeral
      pure (parts.foldl (fun value part => 60 * value + part) 0)
  return if isNegative text then -magnitude else magnitude

/-- The number that digits with a point and an exponent denote: its digits and their scale. -/
def decimalParts (cs : List Char) : Option (Nat × Int) := do
  let (mantissa, exponent) :=
    (Text.cut? 'e' cs).getD (cs, ['0'])
  let exponent ← Number.signed? exponent
  let (whole, fraction) := Text.cut '.' mantissa
  let digits := whole ++ fraction
  if digits.isEmpty || !digits.all Text.isAsciiDigit then none
  else
    some (Number.ofDigits (digits.map fun c => c.toNat - 0x30), exponent - fraction.length)

/-- The number of base sixty with the parts, as a fraction of a power of ten. -/
def sixtieths (parts : List (Nat × Int)) : Nat × Int :=
  parts.foldl (fun (digits, scale) (more, least) =>
    let low := min scale least
    (60 * digits * Number.powerOfTen (scale - low).toNat
      + more * Number.powerOfTen (least - low).toNat, low)) (0, 0)

/-- The number with a point that a scalar denotes. -/
def realValue (text : List Char) : Except Fault Number.Binary64 :=
  let text := (text.filter (· != '_')).map Text.toAsciiLower
  let body := unsigned text
  let negative := isNegative text
  if body == ".inf".toList then .ok (.infinite negative)
  else if body == ".nan".toList then .ok .nan
  else
    match (Text.pieces ':' body).mapM fun part => decimalParts (Text.trim part) with
    | some parts =>
      let (digits, scale) := sixtieths parts
      .ok (.ofDecimal negative digits scale)
    | none =>
      .error (.unreadable ("could not convert string to float: "
        ++ Text.quoted (String.ofList body)))

/-- The number of days in a month. -/
def daysOf (year month : Nat) : Nat :=
  if month == 2 then
    if (year % 4 == 0 && year % 100 != 0) || year % 400 == 0 then 29 else 28
  else if [4, 6, 9, 11].contains month then 30
  else 31

/-- What is wrong with the parts of a date or an instant. -/
def instantFault? : List Nat → Option String
  | year :: month :: day :: time =>
    if year < 1 then some ("year " ++ Number.decimal year ++ " is out of range")
    else if month < 1 || 12 < month then some "month must be in 1..12"
    else if day < 1 || daysOf year month < day then some "day is out of range for month"
    else
      match time with
      | [hour, minute, second] =>
        if 23 < hour then some "hour must be in 0..23"
        else if 59 < minute then some "minute must be in 0..59"
        else if 59 < second then some "second must be in 0..59"
        else none
      | _ => none
  | _ => none

/-- A date or an instant, as the list of its parts. -/
def instantValue (text : List Char) : Except Fault Value :=
  match instantParts 1 text with
  | none => .error .malformed
  | some parts =>
    match instantFault? parts with
    | some message => .error (.unreadable message)
    | none => .ok (.list (parts.map fun (part : Nat) => .int part))

/-- The value of a digit of base sixty-four. -/
def sixtyFourth? (c : Char) : Option Nat :=
  let code := c.toNat
  if 0x41 ≤ code && code ≤ 0x5A then some (code - 0x41)
  else if 0x61 ≤ code && code ≤ 0x7A then some (code - 0x47)
  else if Text.isAsciiDigit c then some (code + 4)
  else if c == '+' then some 62
  else if c == '/' then some 63
  else none

/-- The bytes that digits of base sixty-four make up, four digits at a time. -/
def bytesOfDigits : List Nat → Option (List Nat)
  | a :: b :: c :: d :: rest => do
    let n := a * 262144 + b * 4096 + c * 64 + d
    return n / 65536 :: n / 256 % 256 :: n % 256 :: (← bytesOfDigits rest)
  | [a, b, c] => some [a * 4 + b / 16, b % 16 * 16 + c / 4]
  | [a, b] => some [a * 4 + b / 16]
  | [_] => none
  | [] => some []

/-- Bytes written in base sixty-four, as the text that they are or else as a list. -/
def binaryValue (text : List Char) : Except Fault Value :=
  let digits := (text.takeWhile (· != '=')).filterMap sixtyFourth?
  let padding := (text.filter (· == '=')).length
  match bytesOfDigits digits with
  | none => .error .malformed
  | some bytes =>
    if !text.all (·.toNat < 0x80) || (digits.length + padding) % 4 != 0 then .error .malformed
    else
      match Text.decodeUtf8 bytes with
      | .ok decoded => .ok (.text (String.ofList decoded))
      | .error _ => .ok (.list (bytes.map fun (byte : Nat) => .int byte))

/-- The value of a scalar with a tag. -/
def scalarValue (tag : Tag) (text : List Char) : Except Fault Value :=
  match tag with
  | .null => .ok .null
  | .bool =>
    match truthWords.lookup (lowered text) with
    | some b => .ok (.bool b)
    | none => .error (.unknownWord (Text.quoted (lowered text)))
  | .int => (integerValue text).map .int
  | .float => (realValue text).map .real
  | .binary => binaryValue text
  | .timestamp => instantValue text
  | .text => .ok (.text (String.ofList text))
  | _ => .error .malformed

end Signpost.Yaml
