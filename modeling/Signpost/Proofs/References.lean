import Mathlib.Data.List.Forall2
import Signpost.Pattern.Template
import Signpost.Proofs.Numerals

/-!
# References in a template

A target refers to groups with a dollar sign, and it is brought into a form in which a backslash does
so. Both forms are read from left to right, so what stands behind a reference might become part of it
in the second form, or what it stands for might be read once more.

## Main result

`expand_converted_iff`: neither happens. A template without backslashes is one sequence of marks, and it
expands to what they stand for, one behind the other, unless one of them dangles.

## Proof strategy

`Reads` gives the marks of a template by a grammar, without the scanner, and `Means` what a mark stands
for. A mark that is written out is read back as the piece that it is, whatever is behind it
(`expand_plain`, `expand_bracketed`); so a step of the grammar adds to the expansion what the mark means,
or makes it fail (`Begins.settled`). The rest is induction on the reading (`allSettled_of_reads`).
-/
namespace Signpost.Pattern

variable {cs rest after digits name template text : List Char} {mark : Mark} {marks : List Mark}
  {expression : Expression} {found : Match}

/-! ### The grammar of references -/

/-- The text behind a dollar sign begins with the mark, and the rest is behind it. A second digit belongs
to a number if there is one. -/
inductive Begins : List Char → Mark → List Char → Prop
  | dollar {after : List Char} : Begins ('$' :: after) .dollar after
  | whole {after : List Char} : Begins ('&' :: after) .whole after
  | pair {c d : Char} {after : List Char} (first : 0x31 ≤ c.toNat ∧ c.toNat ≤ 0x39)
    (second : Text.isDigit d = true) : Begins (c :: d :: after) (.numbered [c, d]) after
  | single {c : Char} {after : List Char} (first : 0x31 ≤ c.toNat ∧ c.toNat ≤ 0x39)
    (alone : ∀ d ∈ after.head?, Text.isDigit d = false) : Begins (c :: after) (.numbered [c]) after
  | named {c : Char} {rest after : List Char} (first : Text.isAsciiLetter c = true ∨ c = '_')
    (word : ∀ d ∈ rest, Text.isWord d = true) :
    Begins ('<' :: c :: (rest ++ '>' :: after)) (.named (c :: rest)) after

/-- The template is the marks, one behind the other. A dollar sign is a plain character only where no
reference begins. -/
inductive Reads : List Char → List Mark → Prop
  | nil : Reads [] []
  | reference {rest after : List Char} {mark : Mark} {marks : List Mark}
    (begins : Begins rest mark after) (behind : Reads after marks) : Reads ('$' :: rest) (mark :: marks)
  | plain {c : Char} {rest : List Char} {marks : List Mark}
    (bare : c = '$' → ∀ mark after, ¬ Begins rest mark after) (behind : Reads rest marks) :
    Reads (c :: rest) (.plain c :: marks)

/-- The number that the digits of a reference denote. -/
def numberOf (digits : List Char) : Nat :=
  Number.ofDigits (digits.filterMap Text.digitValue?)

/-- What a mark stands for in a match. A group that took no part in it stands for nothing. -/
inductive Means (expression : Expression) (found : Match) : Mark → List Char → Prop
  | dollar : Means expression found .dollar ['$']
  | whole : Means expression found .whole found.matched
  | numbered {digits : List Char} (known : numberOf digits ≤ expression.groups) :
    Means expression found (.numbered digits) (found.group (numberOf digits))
  | named {name : List Char} {number : Nat} (valid : Text.isIdentifier name = true)
    (known : expression.names.lookup (String.ofList name) = some number) :
    Means expression found (.named name) (found.group number)
  | plain {c : Char} : Means expression found (.plain c) [c]

/-- The mark refers to a group that the pattern does not have, or by a name that is no identifier. -/
inductive Dangles (expression : Expression) : Mark → Prop
  | number {digits : List Char} (beyond : expression.groups < numberOf digits) :
    Dangles expression (.numbered digits)
  | unknown {name : List Char} (absent : expression.names.lookup (String.ofList name) = none) :
    Dangles expression (.named name)
  | invalid {name : List Char} (invalid : Text.isIdentifier name = false) :
    Dangles expression (.named name)

/-! ### The scanner follows the grammar -/

theorem Mark.name?_eq_some_iff : Mark.name? cs = some (name, after) ↔
    ∃ c rest, cs = '<' :: c :: (rest ++ '>' :: after) ∧ name = c :: rest ∧
      (Text.isAsciiLetter c = true ∨ c = '_') ∧ ∀ d ∈ rest, Text.isWord d = true := by
  constructor
  · intro read
    unfold Mark.name? at read
    split at read
    next c tail =>
      split at read
      next first =>
        split at read
        next behind closed =>
          cases read
          refine ⟨c, tail.takeWhile Text.isWord, ?_, rfl, by simpa using first, ?_⟩
          · rw [← closed, List.takeWhile_append_dropWhile]
          · exact List.all_eq_true.mp List.all_takeWhile
        next => cases read
      next => cases read
    next => cases read
  · rintro ⟨c, rest, rfl, rfl, first, word⟩
    have closed : Text.isWord '>' = false := by decide
    have name : (rest ++ '>' :: after).takeWhile Text.isWord = rest := by
      rw [List.takeWhile_append_of_pos word, List.takeWhile_cons_of_neg (by simp [closed]),
        List.append_nil]
    have behind : (rest ++ '>' :: after).dropWhile Text.isWord = '>' :: after := by
      rw [List.dropWhile_append_of_pos word, List.dropWhile_cons_of_neg (by simp [closed])]
    simp [Mark.name?, first, name, behind]

theorem Mark.number?_eq_some_iff : Mark.number? cs = some (digits, after) ↔
    ∃ c rest, cs = c :: rest ∧ (0x31 ≤ c.toNat ∧ c.toNat ≤ 0x39) ∧
      ((∃ d, rest = d :: after ∧ Text.isDigit d = true ∧ digits = [c, d]) ∨
        rest = after ∧ (∀ d ∈ after.head?, Text.isDigit d = false) ∧ digits = [c]) := by
  constructor
  · intro read
    unfold Mark.number? at read
    split at read
    next c rest =>
      split at read
      next first =>
        refine ⟨c, rest, rfl, by simpa using first, ?_⟩
        split at read
        next d behind =>
          split at read
          next second =>
            cases read
            exact Or.inl ⟨d, rfl, second, rfl⟩
          next alone =>
            cases read
            exact Or.inr ⟨rfl, by simpa using alone, rfl⟩
        next =>
          cases read
          exact Or.inr ⟨rfl, by simp, rfl⟩
      next => cases read
    next => cases read
  · rintro ⟨c, rest, rfl, first, ⟨d, rfl, second, rfl⟩ | ⟨rfl, alone, rfl⟩⟩
    · simp [Mark.number?, first, second]
    · cases rest with
      | nil => simp [Mark.number?, first]
      | cons d behind =>
        have other : Text.isDigit d = false := alone d rfl
        simp [Mark.number?, first, other]

theorem Mark.reference?_eq_some_iff : Mark.reference? cs = some (mark, after) ↔ Begins cs mark after := by
  constructor
  · intro read
    unfold Mark.reference? at read
    split at read
    · cases read
      exact .dollar
    · cases read
      exact .whole
    · split at read
      next digits behind numbered =>
        cases read
        obtain ⟨c, rest, rfl, first, ⟨d, rfl, second, rfl⟩ | ⟨rfl, alone, rfl⟩⟩ :=
          Mark.number?_eq_some_iff.mp numbered
        · exact .pair first second
        · exact .single first alone
      next name behind _ named =>
        cases read
        obtain ⟨c, rest, rfl, rfl, first, word⟩ := Mark.name?_eq_some_iff.mp named
        exact .named first word
      next => cases read
  · -- A digit from 1 to 9 is neither a dollar sign nor an ampersand.
    have numbered {c : Char} {rest digits : List Char} (first : 0x31 ≤ c.toNat ∧ c.toNat ≤ 0x39)
        (read : Mark.number? (c :: rest) = some (digits, after)) :
        Mark.reference? (c :: rest) = some (.numbered digits, after) := by
      rw [Mark.reference?.eq_3, read]
      all_goals
        rintro tail same
        obtain ⟨rfl, _⟩ := List.cons.inj same
        revert first
        decide
    intro begins
    cases begins with
    | dollar | whole => rfl
    | @pair c d after first second =>
      exact numbered first (Mark.number?_eq_some_iff.mpr
        ⟨c, d :: after, rfl, first, Or.inl ⟨d, rfl, second, rfl⟩⟩)
    | @single c after first alone =>
      exact numbered first (Mark.number?_eq_some_iff.mpr
        ⟨c, after, rfl, first, Or.inr ⟨rfl, alone, rfl⟩⟩)
    | @named c rest after first word =>
      have named : Mark.name? ('<' :: c :: (rest ++ '>' :: after)) = some (c :: rest, after) :=
        Mark.name?_eq_some_iff.mpr ⟨c, rest, rfl, rfl, first, word⟩
      rw [Mark.reference?.eq_3 _ (by simp) (by simp), named]
      rfl

theorem Mark.scan_eq_of_reads (reads : Reads template marks) : Mark.scan template = marks := by
  induction reads with
  | nil => rw [Mark.scan]
  | @reference rest after mark marks begins _ ih =>
    have read := Mark.reference?_eq_some_iff.mpr begins
    rw [Mark.scan, if_pos rfl]
    split
    next other behind found =>
      cases read.symm.trans found
      rw [ih]
    next absent => cases read.symm.trans absent
  | @plain c rest marks bare _ ih =>
    rw [Mark.scan]
    split
    next dollar =>
      split
      next mark after found => exact absurd (Mark.reference?_eq_some_iff.mp found) (bare dollar _ _)
      next => rw [ih]
    next => rw [ih]

theorem reads_scan (template : List Char) : Reads template (Mark.scan template) := by
  fun_induction Mark.scan template with
  | case1 => exact .nil
  | case2 rest mark after found ih => exact .reference (Mark.reference?_eq_some_iff.mp found) ih
  | case3 rest absent ih =>
    refine .plain (fun _ mark after begins => ?_) ih
    cases absent.symm.trans (Mark.reference?_eq_some_iff.mpr begins)
  | case4 c rest other ih => exact .plain (fun dollar => absurd dollar other) ih

/-! ### Written marks are read back -/

theorem Token.scan_append (cs more : List Char) (bare : '\\' ∉ cs) :
    Token.scan (cs ++ more) = cs.map Token.plain ++ Token.scan more := by
  induction cs with
  | nil => rfl
  | cons c rest ih =>
    have other : c ≠ '\\' := fun same => bare (same ▸ .head _)
    rw [List.cons_append, Token.scan.eq_4 _ _ (fun same _ => other same) (fun _ _ same _ => other same),
      ih fun member => bare (.tail _ member)]
    rfl

theorem expand_plain {c : Char} (other : c ≠ '\\') (more : List Char) :
    expand expression (c :: more) found = (expand expression more found).map (c :: ·) := by
  have tokens : Token.scan (c :: more) = .plain c :: Token.scan more :=
    Token.scan_append [c] more (by simpa using other.symm)
  rw [expand, Piece.ofText, tokens, Piece.ofTokens, expand, Piece.ofText]
  cases Piece.ofTokens expression (Token.scan more) <;> rfl

/-- A group between angle brackets is looked up, and what it matched is put in front of the rest. -/
theorem expand_bracketed (some : name ≠ []) (bare : '\\' ∉ name) (closed : '>' ∉ name)
    (more : List Char) :
    expand expression (Mark.bracketed name ++ more) found =
      (Piece.groupOf expression name).bind fun number =>
        (expand expression more found).map (found.group number ++ ·) := by
  have tokens : Token.scan (Mark.bracketed name ++ more) =
      .escaped 'g' :: .plain '<' :: (name.map Token.plain ++ .plain '>' :: Token.scan more) := by
    have behind := Token.scan_append ('<' :: name ++ ['>']) more (by simp [bare])
    simpa [Mark.bracketed, Token.scan] using behind
  have inside : ∀ token ∈ name.map Token.plain, (token != Token.plain '>') = true := by
    intro token member
    obtain ⟨c, inName, rfl⟩ := List.mem_map.mp member
    have other : c ≠ '>' := fun same => closed (same ▸ inName)
    simpa using other
  have taken : (name.map Token.plain ++ .plain '>' :: Token.scan more).takeWhile
      (· != Token.plain '>') = name.map Token.plain := by
    rw [List.takeWhile_append_of_pos inside, List.takeWhile_cons_of_neg (by simp), List.append_nil]
  have back : (name.map Token.plain).flatMap Token.text = name := by
    rw [List.flatMap_map]
    exact List.flatMap_singleton' name
  rw [expand, Piece.ofText, tokens, Piece.ofTokens.eq_4, if_pos rfl]
  simp only [taken, back]
  rw [if_pos (by simp [some])]
  cases Piece.groupOf expression name with
  | error fault => rfl
  | ok number =>
    have dropped : (name.map Token.plain ++ .plain '>' :: Token.scan more).drop
        ((name.map Token.plain).length + 1) = Token.scan more :=
      List.drop_length_add_append 1
    simp only [dropped, Except.bind, expand, Piece.ofText]
    cases Piece.ofTokens expression (Token.scan more) <;> rfl

/-! ### What a reference stands for -/

/-- A digit from 1 to 9 begins no name. -/
theorem of_firstDigit {c : Char} (first : 0x31 ≤ c.toNat ∧ c.toNat ≤ 0x39) :
    Text.isDigit c = true ∧ Text.isNameStart c = false := by
  have all : ∀ code < 128, 0x31 ≤ (Char.ofNat code).toNat ∧ (Char.ofNat code).toNat ≤ 0x39 →
      Text.isDigit (Char.ofNat code) = true ∧ Text.isNameStart (Char.ofNat code) = false := by
    decide
  have same := all c.toNat (by omega)
  rw [Char.ofNat_toNat] at same
  exact same first

/-- The first character of a name stands in front of no integer, and it ends no name. -/
theorem of_firstLetter {c : Char} (first : Text.isAsciiLetter c = true ∨ c = '_') :
    (Text.isBlank c = false ∧ Text.isDigit c = false ∧ c ≠ '+' ∧ c ≠ '-') ∧
      c ≠ '\\' ∧ c ≠ '>' := by
  have all : ∀ code < 128, Text.isAsciiLetter (Char.ofNat code) = true ∨ Char.ofNat code = '_' →
      (Text.isBlank (Char.ofNat code) = false ∧ Text.isDigit (Char.ofNat code) = false ∧
        Char.ofNat code ≠ '+' ∧ Char.ofNat code ≠ '-') ∧ Char.ofNat code ≠ '\\' ∧
        Char.ofNat code ≠ '>' := by
    decide
  have ascii : c.toNat < 128 := by
    rcases first with letter | rfl
    · simp only [Text.isAsciiLetter, Bool.or_eq_true, Bool.and_eq_true, decide_eq_true_eq] at letter
      omega
    · decide
  have same := all c.toNat ascii
  rw [Char.ofNat_toNat] at same
  exact same first

theorem groupOf_zero (expression : Expression) : Piece.groupOf expression ['0'] = .ok 0 := by
  have valid : Text.isIdentifier ['0'] = false := by decide
  have read : Number.integer? (String.ofList ['0']) = some 0 := by decide
  rw [Piece.groupOf, valid, read]
  simp

/-- Digits are no identifier, so they number a group. -/
theorem groupOf_digits {c : Char} {values : List Nat} (first : 0x31 ≤ c.toNat ∧ c.toNat ≤ 0x39)
    (run : Number.Digits (c :: rest) values) (short : values.length ≤ Number.digitLimit) :
    Piece.groupOf expression (c :: rest) =
      if Number.ofDigits values ≤ expression.groups then .ok (Number.ofDigits values)
      else .error .malformed := by
  have valid : Text.isIdentifier (c :: rest) = false := by
    rw [Text.isIdentifier, (of_firstDigit first).2, Bool.false_and]
  have read : Number.integer? (String.ofList (c :: rest)) = some (Number.ofDigits values : Int) := by
    refine Number.integer?_eq_some_iff.mpr ⟨[], c :: rest, [], ?_, ?_, ?_, .unsigned run short⟩
    · simp
    · exact List.forall_mem_nil _
    · exact List.forall_mem_nil _
  rw [Piece.groupOf, valid, read]
  simp

theorem groupOf_name {c : Char} (first : Text.isAsciiLetter c = true ∨ c = '_') :
    Piece.groupOf expression (c :: rest) =
      if Text.isIdentifier (c :: rest) then
        match expression.names.lookup (String.ofList (c :: rest)) with
        | some number => .ok number
        | none => .error .malformed
      else .error .malformed := by
  obtain ⟨⟨solid, alien⟩, _⟩ := of_firstLetter first
  have unread : Number.integer? (String.ofList (c :: rest)) = none :=
    Number.integer?_of_first String.toList_ofList solid alien
  cases valid : Text.isIdentifier (c :: rest) with
  | false => simp only [Piece.groupOf, valid, unread, Bool.false_eq_true, if_false]
  | true =>
    cases known : expression.names.lookup (String.ofList (c :: rest)) <;>
      simp only [Piece.groupOf, valid, known, if_true]

/-! ### Marks one behind the other -/

theorem Begins.exists_append (begins : Begins rest mark after) : ∃ front, rest = front ++ after := by
  cases begins with
  | dollar => exact ⟨['$'], rfl⟩
  | whole => exact ⟨['&'], rfl⟩
  | @pair c d => exact ⟨[c, d], rfl⟩
  | @single c => exact ⟨[c], rfl⟩
  | @named c rest => exact ⟨'<' :: c :: (rest ++ ['>']), by simp⟩

/-- Written out, the mark adds what it means to what is behind it, or it dangles and the whole cannot be
expanded. -/
def Mark.Settled (expression : Expression) (found : Match) (mark : Mark) : Prop :=
  (∃ meant, Means expression found mark meant ∧ ∀ more,
    expand expression (mark.written ++ more) found = (expand expression more found).map (meant ++ ·)) ∨
  Dangles expression mark ∧ ∀ more, expand expression (mark.written ++ more) found = .error .malformed

/-- A number is looked up by the value of its digits. -/
theorem settled_numbered {c : Char} {values : List Nat} (first : 0x31 ≤ c.toNat ∧ c.toNat ≤ 0x39)
    (run : Number.Digits (c :: rest) values) (short : values.length ≤ Number.digitLimit)
    (denoted : numberOf (c :: rest) = Number.ofDigits values) :
    (Mark.numbered (c :: rest)).Settled expression found := by
  have digits : ∀ d ∈ c :: rest, Text.isDigit d = true ∨ d = '_' := run.mem
  have bare : '\\' ∉ c :: rest := fun member => absurd (digits _ member) (by decide)
  have closed : '>' ∉ c :: rest := fun member => absurd (digits _ member) (by decide)
  by_cases known : Number.ofDigits values ≤ expression.groups
  · refine Or.inl ⟨_, .numbered (denoted ▸ known), fun more => ?_⟩
    rw [Mark.written, expand_bracketed (List.cons_ne_nil _ _) bare closed,
      groupOf_digits first run short, if_pos known, denoted]
    rfl
  · refine Or.inr ⟨.number (denoted ▸ Nat.not_le.mp known), fun more => ?_⟩
    rw [Mark.written, expand_bracketed (List.cons_ne_nil _ _) bare closed,
      groupOf_digits first run short, if_neg known]
    rfl

theorem settled_named {c : Char} (first : Text.isAsciiLetter c = true ∨ c = '_')
    (word : ∀ d ∈ rest, Text.isWord d = true) :
    (Mark.named (c :: rest)).Settled expression found := by
  obtain ⟨_, noBackslash, noBracket⟩ := of_firstLetter first
  have bare : '\\' ∉ c :: rest := by
    rintro (_ | ⟨_, member⟩)
    · exact noBackslash rfl
    · cases word _ member
  have closed : '>' ∉ c :: rest := by
    rintro (_ | ⟨_, member⟩)
    · exact noBracket rfl
    · cases word _ member
  cases valid : Text.isIdentifier (c :: rest) with
  | false =>
    refine Or.inr ⟨.invalid valid, fun more => ?_⟩
    rw [Mark.written, expand_bracketed (List.cons_ne_nil _ _) bare closed, groupOf_name first, valid]
    rfl
  | true =>
    cases known : expression.names.lookup (String.ofList (c :: rest)) with
    | none =>
      refine Or.inr ⟨.unknown known, fun more => ?_⟩
      rw [Mark.written, expand_bracketed (List.cons_ne_nil _ _) bare closed, groupOf_name first, valid,
        known]
      rfl
    | some number =>
      refine Or.inl ⟨_, .named valid known, fun more => ?_⟩
      rw [Mark.written, expand_bracketed (List.cons_ne_nil _ _) bare closed, groupOf_name first, valid,
        known]
      rfl

theorem Begins.settled (begins : Begins rest mark after) (expression : Expression) (found : Match) :
    mark.Settled expression found := by
  cases begins with
  | dollar => exact Or.inl ⟨_, .dollar, expand_plain (by decide)⟩
  | whole =>
    refine Or.inl ⟨_, .whole, fun more => ?_⟩
    rw [Mark.written, expand_bracketed (by simp) (by decide) (by decide), groupOf_zero]
    rfl
  | @pair c d after first second =>
    obtain ⟨m, value⟩ := Option.isSome_iff_exists.mp (of_firstDigit first).1
    obtain ⟨n, valueToo⟩ := Option.isSome_iff_exists.mp second
    refine settled_numbered first (.next value (.last valueToo)) (by decide : 2 ≤ 4300) ?_
    simp [numberOf, value, valueToo]
  | @single c after first =>
    obtain ⟨m, value⟩ := Option.isSome_iff_exists.mp (of_firstDigit first).1
    refine settled_numbered first (.last value) (by decide : 1 ≤ 4300) ?_
    simp [numberOf, value]
  | @named c rest after first word => exact settled_named first word

theorem expand_nil (expression : Expression) (found : Match) : expand expression [] found = .ok [] := by
  rw [expand, Piece.ofText, Token.scan, Piece.ofTokens]
  rfl

/-- The marks expand to what they mean, one behind the other, unless one of them dangles. -/
def AllSettled (expression : Expression) (found : Match) (marks : List Mark) : Prop :=
  (∃ texts, List.Forall₂ (Means expression found) marks texts ∧
    expand expression (marks.flatMap Mark.written) found = .ok texts.flatten) ∨
  (∃ mark ∈ marks, Dangles expression mark) ∧
    expand expression (marks.flatMap Mark.written) found = .error .malformed

theorem Mark.Settled.cons (settled : mark.Settled expression found)
    (behind : AllSettled expression found marks) : AllSettled expression found (mark :: marks) := by
  unfold AllSettled
  rw [List.flatMap_cons]
  rcases settled with ⟨meant, means, adds⟩ | ⟨dangles, fails⟩
  · rw [adds]
    rcases behind with ⟨texts, meanings, expanded⟩ | ⟨⟨other, member, dangles⟩, failed⟩
    · refine Or.inl ⟨meant :: texts, .cons means meanings, ?_⟩
      rw [expanded]
      rfl
    · refine Or.inr ⟨⟨other, .tail _ member, dangles⟩, ?_⟩
      rw [failed]
      rfl
  · exact Or.inr ⟨⟨mark, .head _, dangles⟩, fails _⟩

theorem allSettled_of_reads (reads : Reads template marks) (bare : '\\' ∉ template)
    (expression : Expression) (found : Match) : AllSettled expression found marks := by
  induction reads with
  | nil => exact Or.inl ⟨[], .nil, expand_nil expression found⟩
  | @reference rest after mark marks begins _ ih =>
    obtain ⟨front, rfl⟩ := begins.exists_append
    have behind : '\\' ∉ after := fun member => bare (.tail _ (List.mem_append_right _ member))
    exact (begins.settled expression found).cons (ih behind)
  | @plain c rest marks _ _ ih =>
    have other : c ≠ '\\' := fun same => bare (same ▸ .head _)
    have settled : (Mark.plain c).Settled expression found := Or.inl ⟨_, .plain, expand_plain other⟩
    exact settled.cons (ih fun member => bare (.tail _ member))

theorem Means.unique {meant other : List Char} (means : Means expression found mark meant)
    (meansToo : Means expression found mark other) : meant = other := by
  cases means with
  | dollar | whole | numbered | plain =>
    cases meansToo
    rfl
  | named _ known =>
    cases meansToo with
    | named _ knownToo => rw [Option.some.inj (known.symm.trans knownToo)]

theorem Means.not_dangles {meant : List Char} (means : Means expression found mark meant) :
    ¬ Dangles expression mark := by
  intro dangles
  cases dangles with
  | number beyond =>
    cases means with
    | numbered known => exact Nat.not_le.mpr beyond known
  | unknown absent =>
    cases means with
    | named _ known => cases absent.symm.trans known
  | invalid invalid =>
    cases means with
    | named valid => cases invalid.symm.trans valid

theorem not_dangles_of_means {texts : List (List Char)}
    (meanings : List.Forall₂ (Means expression found) marks texts) :
    ∀ mark ∈ marks, ¬ Dangles expression mark := by
  induction meanings with
  | nil => exact List.forall_mem_nil _
  | cons means _ ih => exact List.forall_mem_cons.mpr ⟨means.not_dangles, ih⟩

/-- A template without backslashes is one sequence of marks. What it expands to is what these mean, one
behind the other. It cannot be expanded exactly if one of them dangles, and it is malformed then. -/
theorem expand_converted_iff (expression : Expression) (found : Match) {template : List Char}
    (bare : '\\' ∉ template) :
    ∃ marks, (∀ other, Reads template other ↔ other = marks) ∧
      (∀ text, expand expression (convert template) found = .ok text ↔
        ∃ texts, List.Forall₂ (Means expression found) marks texts ∧ text = texts.flatten) ∧
      ((∃ fault, expand expression (convert template) found = .error fault) ↔
        ∃ mark ∈ marks, Dangles expression mark) ∧
      ∀ fault, expand expression (convert template) found = .error fault → fault = .malformed := by
  refine ⟨Mark.scan template, fun other => ?_, ?_⟩
  · constructor
    · intro reads
      exact (Mark.scan_eq_of_reads reads).symm
    · rintro rfl
      exact reads_scan template
  rcases allSettled_of_reads (reads_scan template) bare expression found with
    ⟨texts, meanings, expanded⟩ | ⟨dangling, failed⟩
  · simp only [convert, expanded]
    refine ⟨fun text => ?_, ?_, fun fault failed => nomatch failed⟩
    · constructor
      · intro same
        exact ⟨texts, meanings, (Except.ok.inj same).symm⟩
      · rintro ⟨others, meanToo, rfl⟩
        have same : texts = others :=
          List.right_unique_forall₂' (fun _ _ _ means => means.unique) meanings meanToo
        rw [same]
    · constructor
      · rintro ⟨fault, failed⟩
        cases failed
      · rintro ⟨mark, member, dangles⟩
        exact absurd dangles (not_dangles_of_means meanings mark member)
  · simp only [convert, failed]
    refine ⟨fun text => ?_, ?_, fun fault same => (Except.error.inj same).symm⟩
    · constructor
      · intro expanded
        cases expanded
      · rintro ⟨texts, meanings, _⟩
        obtain ⟨mark, member, dangles⟩ := dangling
        exact absurd dangles (not_dangles_of_means meanings mark member)
    · exact ⟨fun _ => dangling, fun _ => ⟨_, rfl⟩⟩

/-- The digit behind a dollar sign for itself belongs to no reference, and no more do the brackets and
the digit zero. A group with a name and one with a number are put in. -/
theorem expand_converted_of_group :
    let template := "$$1<$1>$&$<a>$0".toList
    let expression : Expression := ⟨.group 1 (.char ⟨[.code 98], false, .exact⟩), 1, [("a", 1)]⟩
    let found : Match := ⟨['/'], ['b'], ['c'], [(1, ['b'])]⟩
    '\\' ∉ template ∧
      Reads template [.dollar, .plain '1', .plain '<', .numbered ['1'], .plain '>', .whole,
        .named ['a'], .plain '$', .plain '0'] ∧
      expand expression (convert template) found = .ok "$1<b>bb$0".toList := by
  intro template expression found
  have bare : '\\' ∉ template := by decide
  obtain ⟨marks, readings, expands, _⟩ := expand_converted_iff expression found bare
  have scanned : Mark.scan template = [.dollar, .plain '1', .plain '<', .numbered ['1'], .plain '>',
      .whole, .named ['a'], .plain '$', .plain '0'] := by
    decide +kernel
  have reads := reads_scan template
  rw [scanned] at reads
  obtain rfl := (readings _).mp reads
  refine ⟨bare, reads, (expands _).mpr ⟨_, .cons .dollar (.cons .plain (.cons .plain (.cons
    (.numbered (by decide)) (.cons .plain (.cons .whole (.cons (.named (by decide) rfl) (.cons .plain
    (.cons .plain .nil)))))))), ?_⟩⟩
  decide

end Signpost.Pattern
