import Signpost.Json.Reader

/-!
# Numerals of documents

An integer is written with a sign and digits of ASCII. In a document it is read back, unless it has
too many digits: no character follows it that would go on with a number.

## Main result

`plain_decimal`: the numeral of an integer is read as that integer.

## Proof strategy

The digits of a natural number come one by one (`exists_digitsOnto`): there is a first one, which is
zero for zero alone, and of the others no more than the number needs. So the reader takes all of them
for the whole part of a number, and finds neither a fraction nor an exponent behind them.
-/
namespace Signpost.Number

variable {n : Nat}

theorem isAsciiDigit_digitChar {digit : Nat} (single : digit < 10) :
    Text.isAsciiDigit (digitChar digit) = true := by
  have checked : ∀ d : Fin 10, Text.isAsciiDigit (digitChar d) = true := by decide
  exact checked ⟨digit, single⟩

/-- The digits of a number in front of others: a first one, which is zero for zero alone, and no more
behind it than the number needs. -/
theorem exists_digitsOnto (fuel : Nat) (enough : n < powerOfTwo (fuel + 1)) (onto : List Char) :
    ∃ digit more, digit < 10 ∧ digitsOnto (fuel + 1) n onto = digitChar digit :: (more ++ onto) ∧
      (∀ c ∈ more, Text.isAsciiDigit c = true) ∧ (digit = 0 → n = 0) ∧
      ∀ count, n < powerOfTen (count + 1) → more.length ≤ count := by
  induction fuel generalizing n onto with
  | zero =>
    have small : n < 2 := enough
    refine ⟨n, [], by omega, ?_, by simp, id, fun _ _ => Nat.zero_le _⟩
    rw [digitsOnto, if_pos (by omega)]
    rfl
  | succ fuel ih =>
    rw [digitsOnto]
    split
    next single => exact ⟨n, [], single, rfl, by simp, id, fun _ _ => Nat.zero_le _⟩
    next several =>
      -- The last digit stands behind those of the number without it, which is less than half as large.
      have doubled : powerOfTwo (fuel + 1 + 1) = powerOfTwo (fuel + 1) * 2 := rfl
      obtain ⟨digit, more, single, written, digits, zero, few⟩ :=
        ih (n := n / 10) (by omega) (digitChar (n % 10) :: onto)
      refine ⟨digit, more ++ [digitChar (n % 10)], single, ?_, ?_, by omega, ?_⟩
      · rw [written, List.append_assoc]
        rfl
      · intro c member
        rcases List.mem_append.mp member with inside | same
        · exact digits c inside
        · rw [List.mem_singleton.mp same]
          exact isAsciiDigit_digitChar (Nat.mod_lt n (by decide))
      · intro count below
        cases count with
        | zero => exact absurd below (by simpa [powerOfTen] using several)
        | succ count =>
          have shifted : powerOfTen (count + 1 + 1) = powerOfTen (count + 1) * 10 := rfl
          have others := few count (by omega)
          rw [List.length_append, List.length_singleton]
          omega

theorem exists_naturalDigits (n : Nat) :
    ∃ digit more, digit < 10 ∧ naturalDigits n = digitChar digit :: more ∧
      (∀ c ∈ more, Text.isAsciiDigit c = true) ∧ (digit = 0 → more = []) ∧
      (n < powerOfTen digitLimit → more.length < digitLimit) := by
  obtain ⟨digit, more, single, written, digits, zero, few⟩ :=
    exists_digitsOnto n.log2 Nat.lt_log2_self []
  refine ⟨digit, more, single, by rw [naturalDigits, written, List.append_nil], digits, ?_, ?_⟩
  · intro same
    have below : n < powerOfTen (0 + 1) := by
      rw [zero same]
      decide
    exact List.length_eq_zero_iff.mp (Nat.le_zero.mp (few 0 below))
  · intro below
    exact Nat.lt_succ_of_le (few (digitLimit - 1) below)

end Signpost.Number

namespace Signpost.Json

open Number (naturalDigits)

/-- The text does not go on with a number that stands in front of it. -/
def endsNumber (cs : List Char) : Bool :=
  cs.head?.all fun c => !(Text.isAsciiDigit c || c == '.' || c == 'e' || c == 'E')

section

variable {digits rest : List Char} {n : Nat}

theorem digits_append (all : ∀ c ∈ digits, Text.isAsciiDigit c = true)
    (ends : endsNumber rest = true) : Json.digits (digits ++ rest) = (digits, rest) := by
  have stops : rest.takeWhile Text.isAsciiDigit = [] ∧ rest.dropWhile Text.isAsciiDigit = rest := by
    cases rest with
    | nil => exact ⟨rfl, rfl⟩
    | cons c rest =>
      have other : Text.isAsciiDigit c = false := by
        simp only [endsNumber, List.head?_cons, Option.all_some, Bool.not_eq_true',
          Bool.or_eq_false_iff] at ends
        exact ends.1.1.1
      exact ⟨List.takeWhile_cons_of_neg (by simp [other]), List.dropWhile_cons_of_neg (by simp [other])⟩
  rw [Json.digits, List.takeWhile_append_of_pos all, List.dropWhile_append_of_pos all, stops.1, stops.2,
    List.append_nil]

theorem fraction_of_ends (ends : endsNumber rest = true) : fraction rest = ([], rest) := by
  unfold fraction
  split
  next after => simp [endsNumber] at ends
  next => rfl

theorem exponent_of_ends (ends : endsNumber rest = true) : exponent rest = (none, rest) := by
  cases rest with
  | nil => rfl
  | cons c rest =>
    have other : (c == 'e' || c == 'E') = false := by
      simp only [endsNumber, List.head?_cons, Option.all_some, Bool.not_eq_true',
        Bool.or_eq_false_iff] at ends
      simp [ends.1.2, ends.2]
    simp only [exponent, other, Bool.false_eq_true, if_false]

theorem wholePart_naturalDigits (n : Nat) (ends : endsNumber rest = true) :
    wholePart (naturalDigits n ++ rest) = some (naturalDigits n, rest) := by
  obtain ⟨digit, more, single, written, all, zero, _⟩ := Number.exists_naturalDigits n
  have first := Number.isAsciiDigit_digitChar single
  have whole : ∀ c ∈ naturalDigits n, Text.isAsciiDigit c = true := by
    rw [written]
    exact List.forall_mem_cons.mpr ⟨first, all⟩
  have taken := digits_append whole ends
  -- A zero stands alone; any other first digit has its others behind it.
  by_cases alone : digit = 0
  · rw [written, zero alone, alone]
    rfl
  · rw [written, List.cons_append] at taken ⊢
    unfold wholePart
    split
    next after same =>
      have digitIsZero : Number.digitChar digit = '0' := (List.cons.inj same).1
      have value := Number.digitChar_toNat single
      rw [digitIsZero] at value
      exact absurd value (by simp; omega)
    next c behind _ same =>
      rw [← (List.cons.inj same).1, if_pos first, taken]
    next same => cases same

theorem ofDigits_naturalDigits (n : Nat) :
    Number.ofDigits ((naturalDigits n).map fun c => c.toNat - 0x30) = n := by
  rw [Number.ofDigits, List.foldl_map]
  exact Number.valueAfter_naturalDigits n

theorem length_naturalDigits_le (short : n < Number.powerOfTen Number.digitLimit) :
    (naturalDigits n).length ≤ Number.digitLimit := by
  obtain ⟨digit, more, _, written, _, _, few⟩ := Number.exists_naturalDigits n
  rw [written]
  exact few short

/-- A numeral begins with a digit, or with a sign and a digit. -/
theorem decimal_begins (n : Int) : ∃ c cs, Text.isAsciiDigit c = true ∧
    ((Number.decimal n).toList = c :: cs ∨ (Number.decimal n).toList = '-' :: c :: cs) := by
  obtain ⟨digit, more, single, written, _⟩ := Number.exists_naturalDigits n.natAbs
  refine ⟨Number.digitChar digit, more, Number.isAsciiDigit_digitChar single, ?_⟩
  unfold Number.decimal
  split
  · exact Or.inr (by rw [String.toList_ofList, written])
  · exact Or.inl (by rw [String.toList_ofList, written])

theorem no_word_of_digit {c : Char} (digit : Text.isAsciiDigit c = true) (cs : List Char) :
    ∀ word ∈ words, word.1.isPrefixOf (c :: cs) = false ∧ word.1.isPrefixOf ('-' :: c :: cs) = false := by
  have unlike : ∀ d ∈ ['n', 't', 'f', 'N', 'I', '-'], (d == c) = false := by
    intro d member
    refine beq_eq_false_iff_ne.mpr fun same => ?_
    subst same
    simp only [List.mem_cons, List.not_mem_nil, or_false] at member
    rcases member with rfl | rfl | rfl | rfl | rfl | rfl <;> exact absurd digit (by decide)
  simp only [List.forall_mem_cons] at unlike
  obtain ⟨n, t, f, capitalN, capitalI, minus, _⟩ := unlike
  simp [words, List.isPrefixOf, n, t, f, capitalN, capitalI, minus]

theorem number_decimal (n : Int) (short : n.natAbs < Number.powerOfTen Number.digitLimit)
    (ends : endsNumber rest = true) (place : Nat) :
    ∃ behind, number ((Number.decimal n).toList ++ rest) place = .ok ⟨.int n, rest, behind⟩ := by
  have fits : ¬ (naturalDigits n.natAbs).length > Number.digitLimit :=
    Nat.not_lt.mpr (length_naturalDigits_le short)
  unfold Number.decimal
  split
  next negative =>
    have worth : -(n.natAbs : Int) = n := by omega
    rw [String.toList_ofList, List.cons_append]
    simp only [number, wholePart_naturalDigits n.natAbs ends, fraction_of_ends ends,
      exponent_of_ends ends, List.isEmpty_nil, Option.isNone_none, Bool.and_self, if_true, if_neg fits,
      List.append_nil, ofDigits_naturalDigits, worth]
    exact ⟨_, rfl⟩
  next natural =>
    have worth : (n.natAbs : Int) = n := by omega
    -- No sign is taken off in front of the digits, since the first of them is none.
    obtain ⟨digit, more, single, written, _⟩ := Number.exists_naturalDigits n.natAbs
    have unsigned : Number.digitChar digit ≠ '-' := fun same => by
      have value := Number.digitChar_toNat single
      rw [same] at value
      exact absurd value (by simp; omega)
    have whole := wholePart_naturalDigits n.natAbs ends
    have worthOf := ofDigits_naturalDigits n.natAbs
    rw [String.toList_ofList, written, List.cons_append]
    rw [written, List.cons_append] at whole
    rw [written] at worthOf fits
    unfold number
    split
    next minus body signed =>
      have asItIs : minus = false ∧ body = Number.digitChar digit :: (more ++ rest) := by
        split at signed
        next same => exact absurd (List.cons.inj same).1 unsigned
        next => cases signed; exact ⟨rfl, rfl⟩
      obtain ⟨rfl, rfl⟩ := asItIs
      simp only [whole, fraction_of_ends ends, exponent_of_ends ends, List.isEmpty_nil,
        Option.isNone_none, Bool.and_self, if_true, if_neg fits, List.append_nil, worthOf, worth,
        Bool.false_eq_true, if_false]
      exact ⟨_, rfl⟩

theorem plain_decimal (n : Int) (short : n.natAbs < Number.powerOfTen Number.digitLimit)
    (ends : endsNumber rest = true) (place : Nat) :
    ∃ behind, plain ((Number.decimal n).toList ++ rest) place = .ok ⟨.int n, rest, behind⟩ := by
  have noWord : words.find? (fun word =>
      word.1.isPrefixOf ((Number.decimal n).toList ++ rest)) = none := by
    obtain ⟨c, cs, digit, written | written⟩ := decimal_begins n
    · rw [written, List.find?_eq_none]
      intro word member
      rw [List.cons_append, (no_word_of_digit digit (cs ++ rest) word member).1]
      exact Bool.false_ne_true
    · rw [written, List.find?_eq_none]
      intro word member
      rw [List.cons_append, List.cons_append, (no_word_of_digit digit (cs ++ rest) word member).2]
      exact Bool.false_ne_true
  rw [plain, noWord]
  exact number_decimal n short ends place

end

end Signpost.Json
