import Signpost.Store.Failure

/-!
# Cells of a table

What a column of a table holds, and how cells compare. A column has an affinity: it turns what is
stored in it, or compared with it, into its own kind where nothing is lost. Text compares by the
code points of its characters, and every number comes before every text. A comparison with the null
cell is neither true nor false.
-/
namespace Signpost.Sql

/-- A cell. -/
inductive Cell
  | null
  | integer (n : Int)
  | real (x : Number.Binary64)
  | text (s : String)
  deriving DecidableEq, Repr, Inhabited

/-- The kind of value that a column prefers. -/
inductive Affinity
  | integer
  | text
  deriving DecidableEq, Repr

/-- The integer fits in a cell. -/
def fits (n : Int) : Bool :=
  -(Number.powerOfTwo 63 : Int) ≤ n && n < Number.powerOfTwo 63

/-- The cell that a value is bound to, for the parameter at a place. A text has to be encoded. -/
def bind (place : Nat) : Value → Except Store.Failure Cell
  | .null => .ok .null
  | .bool b => .ok (.integer (if b then 1 else 0))
  | .int n => if fits n then .ok (.integer n) else .error .integerTooLarge
  | .real .nan => .ok .null
  | .real x => .ok (.real x)
  | .text s => .ok (.text s)
  | .unpaired u => .error (.unencodable u)
  | value => .error (.unsupportedValue place value.kindName)

/-- The cells of parameters, the first of them at a place. -/
def bindAll (place : Nat) : List Value → Except Store.Failure (List Cell)
  | [] => .ok []
  | value :: rest => do return (← bind place value) :: (← bindAll (place + 1) rest)

/-- The value of a cell. -/
def Cell.toValue : Cell → Value
  | .null => .null
  | .integer n => .int n
  | .real x => .real x
  | .text s => .text s

/-- A blank around a number in text. -/
def isSpace (c : Char) : Bool :=
  c == ' ' || (9 ≤ c.toNat && c.toNat ≤ 13)

/-- The digits of an exponent after its letter, or none where there is no exponent. -/
def exponent? : List Char → Option Int
  | [] => some 0
  | e :: rest =>
    if e != 'e' && e != 'E' then none
    else
      let (negative, digits) := match rest with
        | '-' :: digits => (true, digits)
        | '+' :: digits => (false, digits)
        | _ => (false, rest)
      if digits.isEmpty || !digits.all Text.isAsciiDigit then none
      else
        let size : Int := Number.ofDigits (digits.map fun c => c.toNat - 0x30)
        some (if negative then -size else size)

/-- The number that a text is, if it is one from end to end. -/
def numeric? (s : String) : Option Cell :=
  let cs := Text.dropEndWhile isSpace (s.toList.dropWhile isSpace)
  let (negative, cs) := match cs with
    | '-' :: rest => (true, rest)
    | '+' :: rest => (false, rest)
    | _ => (false, cs)
  let whole := cs.takeWhile Text.isAsciiDigit
  let rest := cs.dropWhile Text.isAsciiDigit
  let (decimals, rest, pointed) := match rest with
    | '.' :: rest => (rest.takeWhile Text.isAsciiDigit, rest.dropWhile Text.isAsciiDigit, true)
    | _ => ([], rest, false)
  if whole.isEmpty && decimals.isEmpty then none
  else
    let magnitude := Number.ofDigits ((whole ++ decimals).map fun c => c.toNat - 0x30)
    let signed : Int := if negative then -(magnitude : Int) else magnitude
    if rest.isEmpty && !pointed && fits signed then some (.integer signed)
    else
      (exponent? rest).map fun power =>
        .real (Number.Binary64.ofDecimal negative magnitude (power - decimals.length))

/-- A floating-point number as text: fifteen digits, with a point. -/
def realText (x : Number.Binary64) : String :=
  match x with
  | .nan => ""
  | .infinite negative => if negative then "-Inf" else "Inf"
  | .finite _ 0 _ => "0.0"
  | .finite negative significand exponent =>
    let num := if 0 ≤ exponent then significand * Number.powerOfTwo exponent.toNat else significand
    let den := if 0 ≤ exponent then 1 else Number.powerOfTwo (-exponent).toNat
    let round (scale : Int) : Nat :=
      let power := Number.powerOfTen scale.natAbs
      if 0 ≤ scale then (2 * num + den * power) / (2 * den * power)
      else (2 * num * power + den) / (2 * den)
    let guess : Int := ((significand.log2 + exponent) * 30103 / 100000) - 15
    let scales := (List.range 4).map fun (step : Nat) => guess + step
    let scale := (scales.find? fun scale => round scale < Number.powerOfTen 15).getD guess
    let (digits, scale) := Number.Binary64.dropZeros 15 (round scale) scale
    let digits := Number.naturalDigits digits
    let power := scale + digits.length - 1
    let body :=
      if power < -4 || 14 < power then
        let tail := if digits.length ≤ 1 then ['0'] else digits.drop 1
        digits.take 1 ++ '.' :: tail ++ 'e' :: Number.Binary64.exponentText power
      else if power < 0 then
        "0.".toList ++ List.replicate (-power - 1).toNat '0' ++ digits
      else if scale ≥ 0 then digits ++ List.replicate scale.toNat '0' ++ ".0".toList
      else digits.take (power + 1).toNat ++ '.' :: digits.drop (power + 1).toNat
    String.ofList (if negative then '-' :: body else body)

/-- A floating-point number as an integer, if it is one that fits. -/
def tidyReal (x : Number.Binary64) : Cell :=
  match x.toInt? with
  | some n => if fits n then .integer n else .real x
  | none => .real x

/-- The cell as a column of the affinity stores it. -/
def Affinity.stored : Affinity → Cell → Cell
  | .integer, .real x => tidyReal x
  | .integer, .text s =>
    match numeric? s with
    | some (.real x) => tidyReal x
    | some cell => cell
    | none => .text s
  | .text, .integer n => .text (Number.decimal n)
  | .text, .real x => .text (realText x)
  | _, cell => cell

/-- Where the cell stands on the line of numbers. -/
def Cell.position? : Cell → Option (Int × Int)
  | .integer n => some (Number.Binary64.integerPosition n)
  | .real x => x.position?
  | _ => none

/-- The order of two cells that are not null. -/
def Cell.compare (a b : Cell) : Ordering :=
  match a, b with
  | .text s, .text t => if s < t then .lt else if s = t then .eq else .gt
  | .text _, _ => .gt
  | _, .text _ => .lt
  | _, _ =>
    match a.position?, b.position? with
    | some p, some q => if Value.before p q then .lt else if Value.before q p then .gt else .eq
    | _, _ => .eq

/-- The order of a cell of a column and a parameter; none where one of them is null. -/
def Affinity.compare (affinity : Affinity) (cell parameter : Cell) : Option Ordering :=
  match cell, affinity.stored parameter with
  | .null, _ | _, .null => none
  | a, b => some (a.compare b)

end Signpost.Sql
