import Signpost.Proofs.References
import Signpost.Proofs.Usable

/-!
# Digits behind references

Where a pattern has fewer than ten groups, a number behind a dollar sign is one digit in the sheets that
targets come from, and a digit behind it is a character like any other. The scanner does not know how
many groups there are, and takes the second digit into the number.

## Main result

`matchPattern_of_digits`: a rule whose target has a digit behind a reference by number is passed over, and
every other rule gives what its target means in the sheet.

## Proof strategy

`ReadsShort` reads a target as the sheet means it. The marks that the scanner finds are these with each
digit joined to the reference in front of it (`reads_gather`). A reference that has been joined with a
digit has a number of ten or more, and dangles (`dangles_of_crowded`); without such references both
readings are one (`gather_of_not_crowded`).
-/
namespace Signpost.Pattern

/-- The text behind a dollar sign begins with the mark, where a number has one digit. -/
inductive BeginsShort : List Char → Mark → List Char → Prop
  | digit {c : Char} {after : List Char} (first : 0x31 ≤ c.toNat ∧ c.toNat ≤ 0x39) :
    BeginsShort (c :: after) (.numbered [c]) after
  | other {rest after : List Char} {mark : Mark} (begins : Begins rest mark after)
    (unnumbered : ∀ digits, mark ≠ .numbered digits) : BeginsShort rest mark after

/-- The template is the marks, one behind the other, where numbers have one digit. -/
inductive ReadsShort : List Char → List Mark → Prop
  | nil : ReadsShort [] []
  | reference {rest after : List Char} {mark : Mark} {marks : List Mark}
    (begins : BeginsShort rest mark after) (behind : ReadsShort after marks) :
    ReadsShort ('$' :: rest) (mark :: marks)
  | plain {c : Char} {rest : List Char} {marks : List Mark}
    (bare : c = '$' → ∀ mark after, ¬ BeginsShort rest mark after) (behind : ReadsShort rest marks) :
    ReadsShort (c :: rest) (.plain c :: marks)

/-- A reference by number stands directly in front of a digit. -/
def Crowded (marks : List Mark) : Prop :=
  ∃ front c d behind, marks = front ++ .numbered [c] :: .plain d :: behind ∧ Text.isDigit d = true

/-- The marks with one more in front, which takes a digit that it stands in front of. -/
def joined : Mark → List Mark → List Mark
  | .numbered [c], .plain d :: behind =>
    if Text.isDigit d then .numbered [c, d] :: behind else .numbered [c] :: .plain d :: behind
  | mark, behind => mark :: behind

/-- The marks where every reference by number has taken the digit behind it. -/
def gather (marks : List Mark) : List Mark :=
  marks.foldr joined []

variable {rest after template digits : List Char} {mark : Mark} {marks behind : List Mark}
  {expression : Expression} {found : Match}

/-! ### Two readings -/

theorem exists_readsShort (template : List Char) : ∃ marks, ReadsShort template marks := by
  -- What is behind a reference is shorter than the text in which it begins.
  induction length : template.length using Nat.strong_induction_on generalizing template with
  | _ n ih =>
    subst length
    cases template with
    | nil => exact ⟨[], .nil⟩
    | cons c rest =>
      by_cases begins : c = '$' ∧ ∃ mark after, BeginsShort rest mark after
      · obtain ⟨rfl, mark, after, begins⟩ := begins
        have shorter : after.length < ('$' :: rest).length := by
          cases begins with
          | digit first =>
            simp only [List.length_cons]
            omega
          | other begins _ =>
            obtain ⟨front, rfl⟩ := begins.exists_append
            simp only [List.length_cons, List.length_append]
            omega
        obtain ⟨marks, behind⟩ := ih after.length shorter after rfl
        exact ⟨mark :: marks, .reference begins behind⟩
      · obtain ⟨marks, behind⟩ := ih rest.length (Nat.lt_succ_self _) rest rfl
        refine ⟨.plain c :: marks, .plain (fun dollar mark after first => ?_) behind⟩
        exact begins ⟨dollar, mark, after, first⟩

theorem joined_of_unnumbered (unnumbered : ∀ digits, mark ≠ .numbered digits) (behind : List Mark) :
    joined mark behind = mark :: behind := by
  cases mark with
  | numbered digits => exact absurd rfl (unnumbered digits)
  | dollar | whole | named | plain => rfl

/-- Where one more reference begins, the scanner joins it with a digit that stands behind it. -/
theorem reads_joined (begins : BeginsShort rest mark after) (reads : Reads after behind) :
    Reads ('$' :: rest) (joined mark behind) := by
  cases begins with
  | other begins unnumbered =>
    rw [joined_of_unnumbered unnumbered]
    exact .reference begins reads
  | @digit c _ first =>
    -- The scanner looks at the next character, so the cases are those of the marks behind.
    cases reads with
    | nil => exact .reference (.single first (by simp)) .nil
    | @reference tail more mark marks begins behind =>
      have apart : joined (.numbered [c]) (mark :: marks) = .numbered [c] :: mark :: marks := by
        cases begins <;> rfl
      have alone : ∀ d ∈ ('$' :: tail).head?, Text.isDigit d = false := by
        rintro d ⟨⟩
        decide
      rw [apart]
      exact .reference (.single first alone) (.reference begins behind)
    | @plain d tail marks bare behind =>
      by_cases digit : Text.isDigit d = true
      · rw [joined, if_pos digit]
        exact .reference (.pair first digit) behind
      · have alone : ∀ e ∈ (d :: tail).head?, Text.isDigit e = false := by
          rintro e ⟨⟩
          simpa using digit
        rw [joined, if_neg digit]
        exact .reference (.single first alone) (.plain bare behind)

theorem exists_beginsShort (begins : Begins rest mark after) :
    ∃ mark after, BeginsShort rest mark after := by
  cases begins with
  | dollar => exact ⟨_, _, .other .dollar fun _ same => nomatch same⟩
  | whole => exact ⟨_, _, .other .whole fun _ same => nomatch same⟩
  | pair first _ => exact ⟨_, _, .digit first⟩
  | single first _ => exact ⟨_, _, .digit first⟩
  | named first word => exact ⟨_, _, .other (.named first word) fun _ same => nomatch same⟩

theorem reads_gather (reads : ReadsShort template marks) : Reads template (gather marks) := by
  induction reads with
  | nil => exact .nil
  | reference begins _ ih => exact reads_joined begins ih
  | @plain c rest marks bare _ ih =>
    refine .plain (fun dollar mark after begins => ?_) ih
    obtain ⟨short, more, beginsShort⟩ := exists_beginsShort begins
    exact bare dollar short more beginsShort

/-! ### Digits that are taken -/

theorem gather_of_not_crowded (apart : ¬ Crowded marks) : gather marks = marks := by
  induction marks with
  | nil => rfl
  | cons mark marks ih =>
    have others : ¬ Crowded marks := by
      rintro ⟨front, c, d, behind, rfl, digit⟩
      exact apart ⟨mark :: front, c, d, behind, rfl, digit⟩
    have same : gather (mark :: marks) = joined mark (gather marks) := rfl
    rw [same, ih others]
    unfold joined
    split
    next c d behind =>
      by_cases digit : Text.isDigit d = true
      · exact absurd ⟨[], c, d, behind, rfl, digit⟩ apart
      · rw [if_neg digit]
    next => rfl

/-- A reference with two digits takes no more, and is not taken. -/
theorem mem_joined (member : .numbered digits ∈ behind) (mark : Mark) :
    .numbered digits ∈ joined mark behind := by
  unfold joined
  split
  next c d others =>
    have there : Mark.numbered digits ∈ others := by simpa using member
    split
    · exact .tail _ there
    · exact .tail _ (.tail _ there)
  next => exact .tail _ member

theorem exists_pair_of_crowded (crowded : Crowded marks) :
    ∃ c d, .numbered [c, d] ∈ gather marks ∧ Text.isDigit d = true := by
  obtain ⟨front, c, d, behind, rfl, digit⟩ := crowded
  refine ⟨c, d, ?_, digit⟩
  -- The marks in front may be joined among themselves; the pair stays a mark of its own.
  induction front with
  | nil =>
    have taken : gather (.numbered [c] :: .plain d :: behind) = .numbered [c, d] :: gather behind :=
      if_pos digit
    rw [List.nil_append, taken]
    exact .head _
  | cons mark front ih => exact mem_joined ih mark

theorem first_of_reads {c : Char} (reads : Reads template marks)
    (member : .numbered (c :: digits) ∈ marks) : 0x31 ≤ c.toNat ∧ c.toNat ≤ 0x39 := by
  induction reads with
  | nil => cases member
  | reference begins _ ih =>
    rcases List.mem_cons.mp member with rfl | behind
    · cases begins with
      | pair first _ => exact first
      | single first _ => exact first
    · exact ih behind
  | plain _ _ ih =>
    rcases List.mem_cons.mp member with same | behind
    · cases same
    · exact ih behind

theorem ten_le_numberOf {c d : Char} (first : 0x31 ≤ c.toNat ∧ c.toNat ≤ 0x39)
    (second : Text.isDigit d = true) : 10 ≤ numberOf [c, d] := by
  have value : Text.digitValue? c = some (c.toNat - 0x30) := by
    simp only [Text.digitValue?]
    rw [if_pos (by omega), if_pos (by simp; omega)]
  obtain ⟨n, valueToo⟩ := Option.isSome_iff_exists.mp second
  simp only [numberOf, List.filterMap_cons, value, valueToo, List.filterMap_nil, Number.ofDigits,
    List.foldl_cons, List.foldl_nil]
  omega

theorem dangles_of_crowded (reads : ReadsShort template marks) (crowded : Crowded marks)
    (few : expression.groups < 10) : ∃ mark ∈ gather marks, Dangles expression mark := by
  obtain ⟨c, d, member, digit⟩ := exists_pair_of_crowded crowded
  have ten := ten_le_numberOf (first_of_reads (reads_gather reads) member) digit
  exact ⟨_, member, .number (by omega)⟩

/-- With a digit behind a reference, a target cannot be expanded; without one, it expands to what it means. -/
theorem expand_of_readsShort (reads : ReadsShort template marks) (bare : '\\' ∉ template)
    (few : expression.groups < 10) (found : Match) :
    (Crowded marks → expand expression (convert template) found = .error .malformed) ∧
      (¬ Crowded marks → ∀ texts, List.Forall₂ (Means expression found) marks texts →
        expand expression (convert template) found = .ok texts.flatten) := by
  have scanned : convert template = (gather marks).flatMap Mark.written := by
    rw [convert, Mark.scan_eq_of_reads (reads_gather reads)]
  have settled := allSettled_of_reads (reads_gather reads) bare expression found
  rw [AllSettled, ← scanned] at settled
  -- The scanner's marks either all have a meaning, or one of them dangles.
  constructor
  · intro crowded
    obtain ⟨mark, member, dangles⟩ := dangles_of_crowded reads crowded few
    rcases settled with ⟨texts, meanings, _⟩ | ⟨_, failed⟩
    · exact absurd dangles (not_dangles_of_means meanings mark member)
    · exact failed
  · intro apart texts meanings
    rw [gather_of_not_crowded apart] at settled
    rcases settled with ⟨others, meaningsToo, expanded⟩ | ⟨⟨mark, member, dangles⟩, _⟩
    · have same : others = texts :=
        List.right_unique_forall₂' (fun _ _ _ means => means.unique) meaningsToo meanings
      rw [expanded, same]
    · exact absurd dangles (not_dangles_of_means meanings mark member)

end Signpost.Pattern

namespace Signpost.Resolve

open Pattern (IsLeftmost Means ReadsShort Crowded)

section

variable [Platform] {path : String} {now : Int} {rule : Rule} {expression : Expression} {found : Match}

theorem passedOver_of_malformed (read : Expression.ofText rule.path = .ok expression)
    (leftmost : IsLeftmost expression.pattern path.toList found) (active : rule.activeAt now = true)
    (malformed : Pattern.expand expression (Pattern.convert rule.target.toList) found =
      .error .malformed) : PassedOver path now rule := by
  have searched : expression.pattern.search path.toList = some found :=
    Pattern.search_eq_some_iff.mpr leftmost
  have failed : substitute expression rule.target found = .error .malformed := by
    rw [substitute, malformed]
    rfl
  right
  simp only [applyPattern, read, searched, active, failed, Bind.bind, Except.bind, if_true]

/-- The first rule has a pattern with fewer than ten groups, which is found in the path, and is active.
With a digit behind a reference by number it is passed over in favour of the rules behind it; otherwise it
answers with what its target means. -/
theorem matchPattern_of_digits (read : Expression.ofText rule.path = .ok expression)
    (few : expression.groups < 10) (leftmost : IsLeftmost expression.pattern path.toList found)
    (active : rule.activeAt now = true) (bare : '\\' ∉ rule.target.toList) (rest : List Rule) :
    (∃ marks, ReadsShort rule.target.toList marks) ∧
      ∀ marks, ReadsShort rule.target.toList marks →
        (Crowded marks → matchPattern path now (rule :: rest) = matchPattern path now rest) ∧
        (¬ Crowded marks → ∀ texts, List.Forall₂ (Means expression found) marks texts →
          matchPattern path now (rule :: rest) = .ok (some { rule with
            target := String.ofList (found.before ++ texts.flatten ++ found.after) })) := by
  refine ⟨Pattern.exists_readsShort _, fun marks reads => ?_⟩
  obtain ⟨fails, expands⟩ := Pattern.expand_of_readsShort reads bare few found
  constructor
  · intro crowded
    exact matchPattern_of_passedOver (passedOver_of_malformed read leftmost active (fails crowded)) rest
  · intro apart texts meanings
    have puts : Puts path now rule (String.ofList (found.before ++ texts.flatten ++ found.after)) :=
      .intro read leftmost active (expands apart texts meanings)
    rw [matchPattern, applyPattern_of_puts puts]

end

attribute [local instance] Platform.usual

/-- The first target has a digit behind its reference, so the second rule answers, in whose target a
character stands between them. -/
theorem matchPattern_of_digits_second :
    let rule (target : String) : Rule := ⟨none, "/a(b)", "", 0, target, 301, none, none, none, true, none⟩
    let one (code : Nat) : Pattern := .char ⟨[.code code], false, .exact⟩
    let expression : Expression :=
      ⟨.seq (one 47) (.seq (one 97) (.seq (.group 1 (.seq (one 98) .empty)) .empty)), 1, []⟩
    let found : Match := ⟨[], ['/', 'a', 'b'], [], [(1, ['b'])]⟩
    let first : List Pattern.Mark := [.plain '/', .numbered ['1'], .plain '0']
    let second : List Pattern.Mark := [.plain '/', .numbered ['1'], .plain '-', .plain '0']
    Expression.ofText "/a(b)" = .ok expression ∧ expression.groups < 10 ∧
      IsLeftmost expression.pattern "/ab".toList found ∧ (∀ target, (rule target).activeAt 6 = true) ∧
      '\\' ∉ "/$10".toList ∧ '\\' ∉ "/$1-0".toList ∧
      ReadsShort "/$10".toList first ∧ Crowded first ∧
      ReadsShort "/$1-0".toList second ∧ ¬ Crowded second ∧
      matchPattern "/ab" 6 [rule "/$10", rule "/$1-0"] =
        .ok (some { rule "/$1-0" with target := "/b-0" }) := by
  intro rule one expression found first second
  have read : Expression.ofText "/a(b)" = .ok expression := by decide +kernel
  have few : expression.groups < 10 := by decide
  have leftmost : IsLeftmost expression.pattern "/ab".toList found :=
    Pattern.search_eq_some_iff.mp (by decide +kernel)
  have active (target : String) : (rule target).activeAt 6 = true := rfl
  have bare : '\\' ∉ "/$10".toList := by decide
  have bareToo : '\\' ∉ "/$1-0".toList := by decide
  have plain {c : Char} {rest : List Char} {marks : List Pattern.Mark} (other : c ≠ '$')
      (behind : ReadsShort rest marks) : ReadsShort (c :: rest) (.plain c :: marks) :=
    .plain (fun dollar => absurd dollar other) behind
  have reads : ReadsShort "/$10".toList first := by
    have chars : "/$10".toList = ['/', '$', '1', '0'] := by decide
    rw [chars]
    exact plain (by decide) (.reference (.digit (by decide)) (plain (by decide) .nil))
  have readsToo : ReadsShort "/$1-0".toList second := by
    have chars : "/$1-0".toList = ['/', '$', '1', '-', '0'] := by decide
    rw [chars]
    exact plain (by decide) (.reference (.digit (by decide)) (plain (by decide)
      (plain (by decide) .nil)))
  have crowded : Crowded first := ⟨[.plain '/'], '1', '0', [], rfl, by decide⟩
  have apart : ¬ Crowded second := by
    intro crowded
    obtain ⟨c, d, member, _⟩ := Pattern.exists_pair_of_crowded crowded
    have same : Pattern.gather second = second := by decide
    rw [same] at member
    simp [second] at member
  have passed := ((@matchPattern_of_digits _ "/ab" 6 (rule "/$10") expression found read few leftmost
    (active "/$10") bare [rule "/$1-0"]).2 first reads).1 crowded
  have meanings : List.Forall₂ (Means expression found) second [['/'], ['b'], ['-'], ['0']] :=
    .cons .plain (.cons (.numbered (by decide)) (.cons .plain (.cons .plain .nil)))
  have serves := ((@matchPattern_of_digits _ "/ab" 6 (rule "/$1-0") expression found read few leftmost
    (active "/$1-0") bareToo []).2 second readsToo).2 apart _ meanings
  have text : String.ofList (found.before ++ [['/'], ['b'], ['-'], ['0']].flatten ++ found.after) =
      "/b-0" := by decide
  rw [text] at serves
  exact ⟨read, few, leftmost, active, bare, bareToo, reads, crowded, readsToo, apart,
    passed.trans serves⟩

/-- The target means the text of the group and a zero behind it, but the rule does not answer. -/
theorem digit_lost :
    let rule : Rule := ⟨none, "/a(b)", "", 0, "/$10", 301, none, none, none, true, none⟩
    ∃ expression found marks texts, Expression.ofText rule.path = .ok expression ∧
      expression.groups = 1 ∧ IsLeftmost expression.pattern "/ab".toList found ∧
      ReadsShort rule.target.toList marks ∧ List.Forall₂ (Means expression found) marks texts ∧
      found.before ++ texts.flatten ++ found.after = "/b0".toList ∧
      matchPattern "/ab" 6 [rule] = .ok none := by
  intro rule
  let one (code : Nat) : Pattern := .char ⟨[.code code], false, .exact⟩
  let expression : Expression :=
    ⟨.seq (one 47) (.seq (one 97) (.seq (.group 1 (.seq (one 98) .empty)) .empty)), 1, []⟩
  have read : Expression.ofText rule.path = .ok expression := by decide +kernel
  have leftmost : IsLeftmost expression.pattern "/ab".toList ⟨[], ['/', 'a', 'b'], [], [(1, ['b'])]⟩ :=
    Pattern.search_eq_some_iff.mp (by decide +kernel)
  have reads : ReadsShort rule.target.toList [.plain '/', .numbered ['1'], .plain '0'] := by
    have chars : rule.target.toList = ['/', '$', '1', '0'] := by decide
    rw [chars]
    exact .plain (fun dollar => absurd dollar (by decide)) (.reference (.digit (by decide))
      (.plain (fun dollar => absurd dollar (by decide)) .nil))
  exact ⟨expression, _, _, _, read, rfl, leftmost, reads,
    .cons .plain (.cons (.numbered (by decide)) (.cons .plain .nil)), by decide, by decide +kernel⟩

end Signpost.Resolve
