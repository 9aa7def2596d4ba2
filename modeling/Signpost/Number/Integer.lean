import Signpost.Text.Blank
import Signpost.Text.Digit

/-!
# Integers in text

An integer is written with an optional sign and the decimal digits of any script; single
underscores may stand between digits. Numerals of more than `digitLimit` digits are refused.
`decimal` writes an integer in ASCII; different natural numbers have different numerals.
-/
namespace Signpost.Number

/-- The longest numeral that is read, in digits. -/
def digitLimit : Nat := 4300

/-- A power of two. -/
def powerOfTwo (exponent : Nat) : Nat := Nat.pow 2 exponent

/-- A power of ten. -/
def powerOfTen (exponent : Nat) : Nat := Nat.pow 10 exponent

/-- The values of a run of digits in which single underscores stand between digits only. -/
def digitRun? : List Char → Option (List Nat)
  | [] => none
  | [c] => (Text.digitValue? c).map ([·])
  | c :: '_' :: rest => do return (← Text.digitValue? c) :: (← digitRun? rest)
  | c :: rest => do return (← Text.digitValue? c) :: (← digitRun? rest)

/-- The number that decimal digits denote, the most significant first. -/
def ofDigits (digits : List Nat) : Nat :=
  digits.foldl (fun value digit => 10 * value + digit) 0

/-- A natural number without a sign. -/
def natural? (cs : List Char) : Option Nat := do
  let digits ← digitRun? cs
  if digits.length ≤ digitLimit then some (ofDigits digits) else none

/-- An integer with nothing around it. -/
def signed? : List Char → Option Int
  | '-' :: rest => (natural? rest).map fun n => -(n : Int)
  | '+' :: rest => (natural? rest).map Int.ofNat
  | cs => (natural? cs).map Int.ofNat

/-- An integer with blanks around it. -/
def integer? (s : String) : Option Int :=
  signed? (Text.trim s.toList)

/-- A digit of ASCII. -/
def digitChar (digit : Nat) : Char :=
  Char.ofNat (0x30 + digit)

/-- The decimal digits of a number in front of others; the fuel bounds their number. -/
def digitsOnto : Nat → Nat → List Char → List Char
  | 0, _, onto => onto
  | fuel + 1, n, onto =>
    if n < 10 then digitChar n :: onto
    else digitsOnto fuel (n / 10) (digitChar (n % 10) :: onto)

/-- The decimal digits of a number. -/
def naturalDigits (n : Nat) : List Char :=
  digitsOnto (n.log2 + 1) n []

/-- The decimal numeral of an integer. -/
def decimal (n : Int) : String :=
  if n < 0 then String.ofList ('-' :: naturalDigits n.natAbs)
  else String.ofList (naturalDigits n.natAbs)

/-- What is said of a numeral of too many digits. -/
def longNumeralMessage (digits : Nat) : String :=
  "Exceeds the limit (" ++ decimal digitLimit
    ++ " digits) for integer string conversion: value has " ++ decimal digits
    ++ " digits; use sys.set_int_max_str_digits() to increase the limit"

/-- The number that characters denote as decimal digits that follow those of another number. -/
def valueAfter (n : Nat) (digits : List Char) : Nat :=
  digits.foldl (fun value c => 10 * value + (c.toNat - 0x30)) n

theorem digitChar_toNat {digit : Nat} (single : digit < 10) : (digitChar digit).toNat = 0x30 + digit := by
  have checked : ∀ d : Fin 10, (digitChar d).toNat = 0x30 + d := by decide
  exact checked ⟨digit, single⟩

theorem valueAfter_digitChar {digit : Nat} (single : digit < 10) (n : Nat) (more : List Char) :
    valueAfter n (digitChar digit :: more) = valueAfter (10 * n + digit) more := by
  simp only [valueAfter, List.foldl_cons, digitChar_toNat single]
  rw [Nat.add_sub_cancel_left]

/-- Digits put in front of others denote the number that they are of. -/
theorem valueAfter_digitsOnto {fuel n : Nat} (enough : n < powerOfTwo fuel) (onto : List Char) :
    valueAfter 0 (digitsOnto fuel n onto) = valueAfter n onto := by
  induction fuel generalizing n onto with
  | zero =>
    have zero : n = 0 := Nat.lt_one_iff.mp enough
    rw [digitsOnto, zero]
  | succ fuel ih =>
    have doubled : powerOfTwo (fuel + 1) = powerOfTwo fuel * 2 := rfl
    rw [digitsOnto]
    split
    next single => rw [valueAfter_digitChar single, Nat.mul_zero, Nat.zero_add]
    next =>
      have rest : n / 10 < powerOfTwo fuel := by omega
      have last : n % 10 < 10 := Nat.mod_lt n (by decide)
      rw [ih rest, valueAfter_digitChar last, Nat.div_add_mod]

theorem valueAfter_naturalDigits (n : Nat) : valueAfter 0 (naturalDigits n) = n :=
  valueAfter_digitsOnto Nat.lt_log2_self []

/-- Different natural numbers have different numerals. -/
theorem decimal_injective {m n : Nat} (same : decimal m = decimal n) : m = n := by
  have natural (k : Nat) : decimal k = String.ofList (naturalDigits k) := by
    simp only [decimal, Int.natAbs_natCast, Int.not_lt.mpr (Int.natCast_nonneg k), if_false]
  rw [natural, natural] at same
  have digits : naturalDigits m = naturalDigits n := by
    simpa using congrArg String.toList same
  rw [← valueAfter_naturalDigits m, digits, valueAfter_naturalDigits]

end Signpost.Number
