import Signpost.Proofs.Entry
import Signpost.Proofs.Numerals

/-!
# Integers in the columns of a row

Four columns of a row hold integers. Version and status are checked before a rule is made of the row;
the bounds of its window of time are not.

## Main result

`columns_carried_iff`: the rule of a row that passes the checks has the version and the status that the
row gives. It has a bound that the row gives if and only if that denotes an integer; any other bound is
lost.

## Proof strategy

What the checks ask of a column is that it is blank or denotes an integer (`isBadInteger_eq_false_iff`).
The same reader makes the fields of the rule, so a field carries its column wherever this holds
(`carries_iff`).
-/
namespace Signpost.Sheet

variable {row normal : Row} {value : Value}

/-- The column is blank or denotes an integer. -/
def Sound (value : Value) : Prop :=
  value.isBlank = true ∨ ∃ n, value.Denotes n

/-- What the column denotes is in the field, unless the column is blank. -/
def Carries (value : Value) (field : Option Int) : Prop :=
  value.isBlank = false → ∃ n, value.Denotes n ∧ field = some n

/-- A row that has a path and a target, and whose version and status are sound. -/
structure Acceptable (row : Row) : Prop where
  path : (cell row "path").isBlank = false
  target : (cell row "redirectURL").isBlank = false
  version : Sound (cell row "version")
  status : Sound (cell row "statusCode")

theorem isBadInteger_eq_false_iff : isBadInteger value = false ↔ Sound value := by
  unfold isBadInteger Sound
  constructor
  · intro good
    cases blank : value.isBlank with
    | true => exact Or.inl rfl
    | false =>
      rw [blank] at good
      obtain ⟨n, read⟩ : ∃ n, value.integer? = some n :=
        Option.isSome_iff_exists.mp (by simpa using good)
      exact Or.inr ⟨n, Value.integer?_eq_some_iff.mp read⟩
  · rintro (blank | ⟨n, denotes⟩)
    · simp [blank]
    · simp [Value.integer?_eq_some_iff.mpr denotes]

theorem skipReason?_eq_none_iff : skipReason? row = none ↔ Acceptable row := by
  constructor
  · intro passed
    unfold skipReason? at passed
    split at passed
    · cases passed
    next path =>
      split at passed
      · cases passed
      next target =>
        split at passed
        · cases passed
        next version =>
          split at passed
          · cases passed
          next status =>
            exact ⟨Bool.eq_false_iff.mpr path, Bool.eq_false_iff.mpr target,
              isBadInteger_eq_false_iff.mp (Bool.eq_false_iff.mpr version),
              isBadInteger_eq_false_iff.mp (Bool.eq_false_iff.mpr status)⟩
  · rintro ⟨path, target, version, status⟩
    simp [skipReason?, path, target, isBadInteger_eq_false_iff.mpr version,
      isBadInteger_eq_false_iff.mpr status]

/-- A field in which the column is read as an integer carries it just where the column is sound. -/
theorem carries_iff : Carries value value.integer? ↔ Sound value := by
  constructor
  · intro carries
    cases blank : value.isBlank with
    | true => exact Or.inl blank
    | false =>
      obtain ⟨n, denotes, _⟩ := carries blank
      exact Or.inr ⟨n, denotes⟩
  · rintro (blank | ⟨n, denotes⟩) given
    · cases blank.symm.trans given
    · exact ⟨n, denotes, Value.integer?_eq_some_iff.mpr denotes⟩

theorem carries_getD (sound : Sound value) (default : Int) :
    Carries value (some (value.integer?.getD default)) := by
  intro given
  obtain ⟨n, denotes, read⟩ := carries_iff.mpr sound given
  exact ⟨n, denotes, by rw [read, Option.getD_some]⟩

theorem integer?_of_unsound (unsound : ¬ Sound value) : value.integer? = none := by
  cases read : value.integer? with
  | none => rfl
  | some n => exact absurd (Or.inr ⟨n, Value.integer?_eq_some_iff.mp read⟩) unsound

section

variable [Platform]

/-- The integers of a row that passes the checks are read into its rule, column by column. -/
theorem reads_of_rule {defaults : Defaults} {version : Int} {rule : Rule}
    (entered : entry? defaults version row = some (normal, rule)) :
    rule.version = (cell row "version").integer?.getD version ∧
      rule.status = (cell row "statusCode").integer?.getD defaults.status ∧
      rule.start = (cell row "utcStartTime").integer? ∧
      rule.stop = (cell row "utcEndTime").integer? := by
  obtain ⟨passed, normalized, made⟩ := entry?_eq_some_iff.mp entered
  obtain ⟨path, host, named, keyed⟩ := keyed_of_normalizeRow normalized
  obtain ⟨target, has⟩ := target_of_checked passed keyed
  rcases ruleOfRow_cases keyed (textual_of_rowKey named) has defaults with
    ⟨_, failed, _⟩ | ⟨_, _, failed, _⟩ | ⟨text, _, result, _⟩
  · cases made.symm.trans failed
  · cases made.symm.trans failed
  · cases made.symm.trans result
    -- Normalizing a row leaves the columns of the status and of the bounds as they are.
    refine ⟨rfl, ?_, ?_, ?_⟩
    · rw [← keyed.cell_eq "statusCode" (by decide)]
      rfl
    · rw [← keyed.cell_eq "utcStartTime" (by decide)]
      rfl
    · rw [← keyed.cell_eq "utcEndTime" (by decide)]
      rfl

/-- A row passes the checks exactly if it has a path and a target and its version and status are blank
or denote integers. Such a row has a rule if its cells are legible, and the rule carries version and
status. It carries a bound of its window exactly if that is blank or denotes an integer as well, and has
no bound in the place of another. -/
theorem columns_carried_iff (row : Row) (defaults : Defaults) (version : Int) :
    (skipReason? row = none ↔ Acceptable row) ∧
    ∀ normal, skipReason? row = none → normalizeRow row version = .ok normal →
      ((∃ rule, ruleOfRow normal defaults = .ok rule) ↔ Legible normal) ∧
      ∀ rule, ruleOfRow normal defaults = .ok rule →
        Carries (cell row "version") (some rule.version) ∧
        Carries (cell row "statusCode") (some rule.status) ∧
        (Carries (cell row "utcStartTime") rule.start ↔ Sound (cell row "utcStartTime")) ∧
        (Carries (cell row "utcEndTime") rule.stop ↔ Sound (cell row "utcEndTime")) ∧
        (¬ Sound (cell row "utcStartTime") → rule.start = none) ∧
        (¬ Sound (cell row "utcEndTime") → rule.stop = none) := by
  refine ⟨skipReason?_eq_none_iff, fun normal passed normalized =>
    ⟨IsNormal.exists_rule_iff ⟨passed, normalized⟩ defaults, fun rule made => ?_⟩⟩
  have acceptable : Acceptable row := skipReason?_eq_none_iff.mp passed
  obtain ⟨number, status, start, stop⟩ :=
    reads_of_rule (entry?_eq_some_iff.mpr ⟨passed, normalized, made⟩)
  refine ⟨?_, ?_, ?_, ?_, ?_, ?_⟩
  · rw [number]
    exact carries_getD acceptable.version version
  · rw [status]
    exact carries_getD acceptable.status defaults.status
  · rw [start]
    exact carries_iff
  · rw [stop]
    exact carries_iff
  · rw [start]
    exact integer?_of_unsound
  · rw [stop]
    exact integer?_of_unsound

end

attribute [local instance] Platform.usual

/-- Blanks, a sign and an underscore in the numeral of a version, a sign in front of a status, and a
digit of another script are read. The end of the window is no integer, and the rule has none. -/
theorem columns_carried_without_stop :
    let row : Row := [("path", .text "/a"), ("redirectURL", .text "/b"), ("version", .text " 1_0 "),
      ("statusCode", .text "+302"), ("utcStartTime", .text "٣"), ("utcEndTime", .text "soon")]
    skipReason? row = none ∧ Acceptable row ∧ ∃ normal rule, normalizeRow row 0 = .ok normal ∧
      ruleOfRow normal {} = .ok rule ∧ Carries (.text " 1_0 ") (some rule.version) ∧
      Carries (.text "+302") (some rule.status) ∧ Carries (.text "٣") rule.start ∧
      ¬ Sound (.text "soon") ∧ rule.stop = none := by
  intro row
  have passed : skipReason? row = none := by
    decide +kernel
  obtain ⟨normal, normalized⟩ : ∃ normal, normalizeRow row 0 = .ok normal :=
    ⟨_, rfl⟩
  have legible : Legible normal :=
    IsNormal.legible ⟨passed, normalized⟩ ⟨by decide +kernel, by decide +kernel, by decide +kernel⟩
  obtain ⟨accepts, carried⟩ := columns_carried_iff row {} 0
  obtain ⟨exists_rule, ofRule⟩ := carried normal passed normalized
  obtain ⟨rule, made⟩ := exists_rule.mpr legible
  obtain ⟨version, status, start, _, _, lost⟩ := ofRule rule made
  have sound : Sound (.text "٣") := isBadInteger_eq_false_iff.mp (by decide +kernel)
  have unsound : ¬ Sound (.text "soon") := by
    rw [← isBadInteger_eq_false_iff]
    decide +kernel
  exact ⟨passed, accepts.mp passed, normal, rule, normalized, made, version, status,
    start.mpr sound, unsound, lost unsound⟩

/-- A row passes the checks with an end of its window that is no integer, and its rule never ends. -/
theorem stop_lost :
    let row : Row := [("path", .text "/a"), ("redirectURL", .text "/b"), ("utcEndTime", .text "soon")]
    skipReason? row = none ∧ (cell row "utcEndTime").isBlank = false ∧
      ¬ (∃ n, (cell row "utcEndTime").Denotes n) ∧
      ∃ normal rule, normalizeRow row 0 = .ok normal ∧ ruleOfRow normal {} = .ok rule ∧
        ∀ now, rule.activeAt now = true := by
  intro row
  have passed : skipReason? row = none := by
    decide +kernel
  have unread : (cell row "utcEndTime").integer? = none := by
    decide +kernel
  obtain ⟨normal, normalized⟩ : ∃ normal, normalizeRow row 0 = .ok normal :=
    ⟨_, rfl⟩
  have legible : Legible normal :=
    IsNormal.legible ⟨passed, normalized⟩ ⟨by decide +kernel, by decide +kernel, by decide +kernel⟩
  obtain ⟨rule, made⟩ := (IsNormal.exists_rule_iff ⟨passed, normalized⟩ {}).mpr legible
  obtain ⟨_, _, start, stop⟩ := reads_of_rule (entry?_eq_some_iff.mpr ⟨passed, normalized, made⟩)
  refine ⟨passed, by decide +kernel, ?_, normal, rule, normalized, made, ?_⟩
  · rintro ⟨n, denotes⟩
    cases unread.symm.trans (Value.integer?_eq_some_iff.mpr denotes)
  · intro now
    rw [Rule.activeAt, start, stop, unread]
    rfl

end Signpost.Sheet
