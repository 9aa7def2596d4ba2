import Signpost.Value

/-!
# Values that denote integers

A numeral is a run of decimal digits of any script, with an optional sign in front of it and single
underscores between its digits. A text denotes the integer of the numeral that it is but for blanks
around it, and a value denotes an integer if it is one or the text of one.

## Main result

`Value.integer?_eq_some_iff`: a value is read as an integer just where it denotes it. No other kind of
value is read as one, because the text of a list, an object or a floating-point number has a sign that
no numeral has.

## Proof strategy

The ends of a numeral are no blanks, so trimming leaves all of it (`trim_of_ends`). The digits are then
compared along the recursion of their reader (`digitRun?_of_digits`, `digits_of_digitRun?`).
-/
namespace Signpost

namespace Text

variable {c : Char} {cs : List Char}

theorem not_isBlank_of_isDigit (digit : isDigit c = true) : isBlank c = false := by
  refine Bool.eq_false_iff.mpr fun blank => ?_
  simp only [isBlank, Bool.or_eq_true, Bool.and_eq_true, decide_eq_true_eq, beq_iff_eq] at blank
  -- No digit of a script has the code of a blank.
  have apart : ∀ code ∈ List.range' 9 5 ++ List.range' 28 5 ++ [0x85, 0xA0, 0x1680] ++
      List.range' 0x2000 11 ++ [0x2028, 0x2029, 0x202F, 0x205F, 0x3000],
      (code < 128 → ¬ (0x30 ≤ code ∧ code ≤ 0x39)) ∧
        digitZeros.find? (fun first => first ≤ code && code ≤ first + 9) = none := by
    decide +kernel
  have listed : c.toNat ∈ List.range' 9 5 ++ List.range' 28 5 ++ [0x85, 0xA0, 0x1680] ++
      List.range' 0x2000 11 ++ [0x2028, 0x2029, 0x202F, 0x205F, 0x3000] := by
    simp only [List.mem_append, List.mem_range'_1, List.mem_cons, List.not_mem_nil, or_false]
    omega
  obtain ⟨ascii, other⟩ := apart _ listed
  simp only [isDigit, digitValue?, other] at digit
  split at digit
  next below => simp [ascii below] at digit
  next => cases digit

theorem exists_trim (cs : List Char) : ∃ before after, cs = before ++ trim cs ++ after ∧
    (∀ c ∈ before, isBlank c = true) ∧ ∀ c ∈ after, isBlank c = true := by
  have ends : ∀ items : List Char, ∃ after, items = dropEndWhile isBlank items ++ after ∧
      ∀ c ∈ after, isBlank c = true := by
    intro items
    refine ⟨(items.reverse.takeWhile isBlank).reverse, ?_, ?_⟩
    · rw [dropEndWhile, ← List.reverse_append, List.takeWhile_append_dropWhile, List.reverse_reverse]
    · intro c member
      exact List.all_eq_true.mp List.all_takeWhile c (List.mem_reverse.mp member)
  obtain ⟨after, split, blank⟩ := ends (cs.dropWhile isBlank)
  refine ⟨cs.takeWhile isBlank, after, ?_, List.all_eq_true.mp List.all_takeWhile, blank⟩
  rw [trim, List.append_assoc, ← split, List.takeWhile_append_dropWhile]

/-- What has no blanks at its ends is left by trimming the blanks around it. -/
theorem trim_of_ends {before after : List Char} (first : ∀ c ∈ cs.head?, isBlank c = false)
    (last : ∀ c ∈ cs.getLast?, isBlank c = false) (front : ∀ c ∈ before, isBlank c = true)
    (back : ∀ c ∈ after, isBlank c = true) (some : cs ≠ []) : trim (before ++ cs ++ after) = cs := by
  have dropped {blanks items : List Char} (blank : ∀ c ∈ blanks, isBlank c = true)
      (solid : ∀ c ∈ items.head?, isBlank c = false) (some : items ≠ []) (more : List Char) :
      (blanks ++ (items ++ more)).dropWhile isBlank = items ++ more := by
    rw [List.dropWhile_append_of_pos blank]
    cases items with
    | nil => exact absurd rfl some
    | cons c rest =>
      have solid : isBlank c = false := solid c rfl
      rw [List.cons_append, List.dropWhile_cons_of_neg (by simp [solid])]
  have solid : ∀ c ∈ cs.reverse.head?, isBlank c = false := by
    rwa [List.head?_reverse]
  have back : ∀ c ∈ after.reverse, isBlank c = true :=
    fun c member => back c (List.mem_reverse.mp member)
  rw [trim, List.append_assoc, dropped front first some, dropEndWhile, List.reverse_append]
  have tail := dropped back solid (by simpa using some) []
  rw [List.append_nil] at tail
  rw [tail, List.reverse_reverse]

end Text

namespace Number

variable {cs : List Char} {digits : List Nat} {n : Int} {s : String}

/-- Digits with their values, the most significant first. -/
inductive Digits : List Char → List Nat → Prop
  | last {c : Char} {value : Nat} (digit : Text.digitValue? c = some value) : Digits [c] [value]
  | next {c : Char} {value : Nat} {rest : List Char} {values : List Nat}
    (digit : Text.digitValue? c = some value) (behind : Digits rest values) :
    Digits (c :: rest) (value :: values)
  | parted {c : Char} {value : Nat} {rest : List Char} {values : List Nat}
    (digit : Text.digitValue? c = some value) (behind : Digits rest values) :
    Digits (c :: '_' :: rest) (value :: values)

/-- A numeral of an integer; one of too many digits is none. -/
inductive Numeral : List Char → Int → Prop
  | unsigned {cs : List Char} {digits : List Nat} (run : Digits cs digits)
    (short : digits.length ≤ digitLimit) : Numeral cs (ofDigits digits)
  | positive {cs : List Char} {digits : List Nat} (run : Digits cs digits)
    (short : digits.length ≤ digitLimit) : Numeral ('+' :: cs) (ofDigits digits)
  | negative {cs : List Char} {digits : List Nat} (run : Digits cs digits)
    (short : digits.length ≤ digitLimit) : Numeral ('-' :: cs) (-(ofDigits digits : Int))

/-- The text is a numeral of the integer, but for blanks around it. -/
def Denotes (s : String) (n : Int) : Prop :=
  ∃ before numeral after, s.toList = before ++ numeral ++ after ∧
    (∀ c ∈ before, Text.isBlank c = true) ∧ (∀ c ∈ after, Text.isBlank c = true) ∧ Numeral numeral n

/-! ### Digits -/

theorem Digits.exists_cons (run : Digits cs digits) :
    ∃ c rest, cs = c :: rest ∧ Text.isDigit c = true := by
  cases run with
  | last digit => exact ⟨_, _, rfl, by simp [Text.isDigit, digit]⟩
  | next digit => exact ⟨_, _, rfl, by simp [Text.isDigit, digit]⟩
  | parted digit => exact ⟨_, _, rfl, by simp [Text.isDigit, digit]⟩

theorem Digits.last_isDigit (run : Digits cs digits) : ∀ c ∈ cs.getLast?, Text.isDigit c = true := by
  induction run with
  | last digit => simp [Text.isDigit, digit]
  | next digit behind ih =>
    obtain ⟨c, rest, rfl, _⟩ := behind.exists_cons
    simpa using ih
  | parted digit behind ih =>
    obtain ⟨c, rest, rfl, _⟩ := behind.exists_cons
    simpa using ih

theorem Digits.mem (run : Digits cs digits) : ∀ c ∈ cs, Text.isDigit c = true ∨ c = '_' := by
  induction run with
  | last digit => simp [Text.isDigit, digit]
  | next digit behind ih => simpa [Text.isDigit, digit] using ih
  | parted digit behind ih => simpa [Text.isDigit, digit] using ih

theorem digitRun?_of_digits (run : Digits cs digits) : digitRun? cs = some digits := by
  induction run with
  | last digit => simp [digitRun?, digit]
  | @next c value rest values digit behind ih =>
    obtain ⟨d, more, rfl, first⟩ := behind.exists_cons
    -- What stands behind the digit begins with a digit, so it is no underscore.
    have other : d ≠ '_' := by
      rintro rfl
      cases first
    rw [digitRun?.eq_4 c (d :: more) (by simp) (fun tail same => other (List.cons.inj same).1)]
    simp [digit, ih]
  | parted digit behind ih => simp [digitRun?, digit, ih]

theorem digits_of_digitRun? (read : digitRun? cs = some digits) : Digits cs digits := by
  fun_induction digitRun? cs generalizing digits with
  | case1 => cases read
  | case2 c =>
    obtain ⟨value, digit, rfl⟩ := Option.map_eq_some_iff.mp read
    exact .last digit
  | case3 c rest ih =>
    obtain ⟨value, digit, read⟩ := Option.bind_eq_some_iff.mp read
    obtain ⟨values, behind, same⟩ := Option.bind_eq_some_iff.mp read
    cases same
    exact .parted digit (ih behind)
  | case4 c rest _ _ ih =>
    obtain ⟨value, digit, read⟩ := Option.bind_eq_some_iff.mp read
    obtain ⟨values, behind, same⟩ := Option.bind_eq_some_iff.mp read
    cases same
    exact .next digit (ih behind)

theorem natural?_eq_some_iff {value : Nat} : natural? cs = some value ↔
    ∃ digits, Digits cs digits ∧ digits.length ≤ digitLimit ∧ value = ofDigits digits := by
  unfold natural?
  constructor
  · intro read
    obtain ⟨digits, run, read⟩ := Option.bind_eq_some_iff.mp read
    split at read
    next short =>
      cases read
      exact ⟨digits, digits_of_digitRun? run, short, rfl⟩
    next => cases read
  · rintro ⟨digits, run, short, rfl⟩
    rw [digitRun?_of_digits run]
    exact if_pos short

/-! ### Numerals -/

theorem signed?_eq_some_iff : signed? cs = some n ↔ Numeral cs n := by
  constructor
  · intro read
    unfold signed? at read
    split at read
    next rest =>
      cases natural : natural? rest with
      | none => simp [natural] at read
      | some value =>
        obtain ⟨digits, run, short, rfl⟩ := natural?_eq_some_iff.mp natural
        simp only [natural] at read
        cases read
        exact .negative run short
    all_goals
      obtain ⟨value, natural, rfl⟩ := Option.map_eq_some_iff.mp read
      obtain ⟨digits, run, short, rfl⟩ := natural?_eq_some_iff.mp natural
    · exact .positive run short
    · exact .unsigned run short
  · intro numeral
    cases numeral with
    | @unsigned cs digits run short =>
      obtain ⟨c, rest, rfl, first⟩ := run.exists_cons
      have noMinus : c ≠ '-' := by
        rintro rfl
        cases first
      have noPlus : c ≠ '+' := by
        rintro rfl
        cases first
      rw [signed?.eq_3 _ (fun tail same => noMinus (List.cons.inj same).1)
        (fun tail same => noPlus (List.cons.inj same).1),
        natural?_eq_some_iff.mpr ⟨digits, run, short, rfl⟩]
      rfl
    | @positive cs digits run short =>
      rw [signed?, natural?_eq_some_iff.mpr ⟨digits, run, short, rfl⟩]
      rfl
    | @negative cs digits run short =>
      rw [signed?, natural?_eq_some_iff.mpr ⟨digits, run, short, rfl⟩]
      rfl

theorem Numeral.mem (numeral : Numeral cs n) :
    ∀ c ∈ cs, Text.isDigit c = true ∨ c = '_' ∨ c = '+' ∨ c = '-' := by
  cases numeral with
  | unsigned run => exact fun c member => (run.mem c member).imp_right Or.inl
  | positive run | negative run =>
    intro c member
    rcases List.mem_cons.mp member with rfl | behind
    · simp
    · exact (run.mem c behind).imp_right Or.inl

theorem Numeral.ends (numeral : Numeral cs n) : cs ≠ [] ∧
    (∀ c ∈ cs.head?, Text.isBlank c = false) ∧ ∀ c ∈ cs.getLast?, Text.isBlank c = false := by
  have solid {cs : List Char} {digits : List Nat} (run : Digits cs digits) :
      ∀ c ∈ cs.getLast?, Text.isBlank c = false :=
    fun c last => Text.not_isBlank_of_isDigit (run.last_isDigit c last)
  cases numeral with
  | unsigned run =>
    have last := solid run
    obtain ⟨c, rest, rfl, first⟩ := run.exists_cons
    exact ⟨List.cons_ne_nil _ _, by simpa using Text.not_isBlank_of_isDigit first, last⟩
  | positive run | negative run =>
    have last := solid run
    obtain ⟨c, rest, rfl, _⟩ := run.exists_cons
    exact ⟨List.cons_ne_nil _ _, by simp [Text.isBlank], by simpa using last⟩

theorem integer?_eq_some_iff : integer? s = some n ↔ Denotes s n := by
  rw [integer?, signed?_eq_some_iff]
  constructor
  · intro numeral
    obtain ⟨before, after, split, front, back⟩ := Text.exists_trim s.toList
    exact ⟨before, _, after, split, front, back, numeral⟩
  · rintro ⟨before, cs, after, split, front, back, numeral⟩
    obtain ⟨some, first, last⟩ := numeral.ends
    rwa [split, Text.trim_of_ends first last front back some]

/-- A text with a character that no numeral has is read as no integer. -/
theorem integer?_of_alien {c : Char} (member : c ∈ s.toList) (solid : Text.isBlank c = false)
    (alien : Text.isDigit c = false ∧ c ≠ '_' ∧ c ≠ '+' ∧ c ≠ '-') : integer? s = none := by
  refine Option.eq_none_iff_forall_ne_some.mpr fun n read => ?_
  obtain ⟨before, numeral, after, split, front, back, reads⟩ := integer?_eq_some_iff.mp read
  rw [split, List.mem_append, List.mem_append] at member
  rcases member with (inFront | inside) | behind
  · cases solid.symm.trans (front c inFront)
  · rcases reads.mem c inside with digit | mark
    · cases alien.1.symm.trans digit
    · simp [alien.2] at mark
  · cases solid.symm.trans (back c behind)

theorem Numeral.exists_cons (numeral : Numeral cs n) :
    ∃ c rest, cs = c :: rest ∧ (Text.isDigit c = true ∨ c = '+' ∨ c = '-') := by
  cases numeral with
  | unsigned run =>
    obtain ⟨c, rest, rfl, first⟩ := run.exists_cons
    exact ⟨c, rest, rfl, Or.inl first⟩
  | positive => exact ⟨_, _, rfl, by simp⟩
  | negative => exact ⟨_, _, rfl, by simp⟩

/-- A text that begins with a character with which no numeral begins is read as no integer. -/
theorem integer?_of_first {c : Char} {rest : List Char} (first : s.toList = c :: rest)
    (solid : Text.isBlank c = false) (alien : Text.isDigit c = false ∧ c ≠ '+' ∧ c ≠ '-') :
    integer? s = none := by
  refine Option.eq_none_iff_forall_ne_some.mpr fun n read => ?_
  obtain ⟨before, numeral, after, split, front, _, reads⟩ := integer?_eq_some_iff.mp read
  obtain ⟨d, more, rfl, start⟩ := reads.exists_cons
  rw [first] at split
  cases before with
  | nil =>
    obtain ⟨rfl, _⟩ := List.cons.inj split
    simp [alien] at start
  | cons b blanks =>
    obtain ⟨rfl, _⟩ := List.cons.inj split
    cases solid.symm.trans (front c (.head _))

/-- The text of a floating-point number is no numeral. -/
theorem integer?_text (x : Binary64) : integer? x.text = none := by
  have point {s : String} (member : '.' ∈ s.toList) : integer? s = none :=
    integer?_of_alien member (by decide) (by decide)
  have exponent {s : String} (member : 'e' ∈ s.toList) : integer? s = none :=
    integer?_of_alien member (by decide) (by decide)
  have letter {s : String} (member : 'n' ∈ s.toList) : integer? s = none :=
    integer?_of_alien member (by decide) (by decide)
  cases x with
  | nan => exact letter (by decide)
  | infinite negative => cases negative <;> exact letter (by decide)
  | finite negative significand exp =>
    have laid (digits : List Char) (scale : Int) :
        '.' ∈ Binary64.layout digits scale ∨ 'e' ∈ Binary64.layout digits scale := by
      simp only [Binary64.layout]
      repeat' split
      all_goals simp
    by_cases zero : significand = 0
    · exact point (by cases negative <;> simp [Binary64.text, zero])
    · rcases laid (naturalDigits (Binary64.shortest significand exp).1)
        (Binary64.shortest significand exp).2 with member | member
      · exact point (by cases negative <;> simpa [Binary64.text, zero] using member)
      · exact exponent (by cases negative <;> simpa [Binary64.text, zero] using member)

end Number

namespace Value

variable {value : Value} {n : Int}

/-- The value is the integer, or a text of it. -/
def Denotes (value : Value) (n : Int) : Prop :=
  value = .int n ∨ ∃ s, value = .text s ∧ Number.Denotes s n

/-- A value is read as an integer just where it denotes it. -/
theorem integer?_eq_some_iff : value.integer? = some n ↔ value.Denotes n := by
  cases value with
  | null | bool _ | unpaired _ => simp [integer?, Denotes]
  | int m => simp [integer?, Denotes]
  | text s => simp [integer?, display, Denotes, Number.integer?_eq_some_iff]
  | real x =>
    have none : integer? (.real x) = none := Number.integer?_text x
    simp [none, Denotes]
  | list items =>
    have none : integer? (.list items) = none := by
      refine Number.integer?_of_alien (c := '[') ?_ (by decide) (by decide)
      simp [display, literal]
    simp [none, Denotes]
  | object fields =>
    have none : integer? (.object fields) = none := by
      refine Number.integer?_of_alien (c := '\x7b') ?_ (by decide) (by decide)
      simp [display, literal]
    simp [none, Denotes]

end Value
end Signpost
