import Signpost.Proofs.Query

/-!
# What is sent to a database

Criteria are sent as a text with placeholders and a list of parameters. This module says which
criteria are refused, and what the text and the parameters have to do with the values in the
criteria. `writtenOut` is the condition with its values where they belong; a database that puts the
parameters in for the placeholders from left to right gets it back.

## Main result

`values_stay_out_of_text`: criteria are refused if and only if one of them is on an attribute that
is not listed. Else each value stands in the parameters and has the placeholder of its own place in
the text, and the text would be the same for any other values.

## Proof strategy

Conditions of a group and criteria of a search are gone through in the same way (`Gathers`), and
their texts are joined in the same way (`Shows.joined`). So what holds of a condition is carried to
groups and to searches by one lemma each.
-/
namespace Signpost

open Store

/-- The conditions of a criterion. -/
def Criterion.conditions : Criterion → List Condition
  | .one condition => [condition]
  | .anyOf conditions => conditions

/-- The attributes that the conditions are on, those in groups as well. -/
def subjects (criteria : List Criterion) : List String :=
  criteria.flatMap fun criterion => criterion.conditions.map (·.subject)

/-- The failure of a result. -/
def failure? {ε α : Type} : Except ε α → Option ε
  | .ok _ => none
  | .error failure => some failure

theorem failure?_eq_some {ε α : Type} {result : Except ε α} {failure : ε} :
    failure? result = some failure ↔ result = .error failure := by
  cases result <;> simp [failure?]

theorem failure?_bind_pure {ε α β : Type} (result : Except ε α) (shape : α → β) :
    failure? (result >>= fun found => pure (shape found)) = failure? result := by
  cases result <;> rfl

namespace Sql

/-- The failure for the first of the attributes that is not listed. -/
def Whitelist.refusal? (whitelist : Whitelist) (names : List String) : Option Failure :=
  (names.find? fun name => (whitelist name).isNone).map .unknownAttribute

theorem Whitelist.refusal?_append (whitelist : Whitelist) (names more : List String) :
    whitelist.refusal? (names ++ more) =
      (whitelist.refusal? names).or (whitelist.refusal? more) := by
  rw [refusal?, List.find?_append, Option.map_or]
  rfl

theorem Whitelist.isSome_refusal?_iff {whitelist : Whitelist} {names : List String} :
    (whitelist.refusal? names).isSome = true ↔ ∃ name ∈ names, whitelist name = none := by
  simp [refusal?]

/-! ### Items one after the other -/

theorem bind_eq_ok {ε α β : Type} {found : Except ε α} {next : α → Except ε β} {result : β} :
    found >>= next = .ok result ↔ ∃ value, found = .ok value ∧ next value = .ok result := by
  cases found with
  | error failure => exact ⟨nofun, nofun⟩
  | ok value =>
    constructor
    · exact fun goes => ⟨value, rfl, goes⟩
    · rintro ⟨_, ⟨⟩, goes⟩
      exact goes

/-- The loop makes something of each item, with values for it; the first failure ends it. -/
structure Gathers {α β γ : Type} (make : α → Except Failure (β × List γ))
    (loop : List α → Except Failure (List β × List γ)) : Prop where
  nil : loop [] = .ok ([], [])
  cons : ∀ item rest, loop (item :: rest) = do
    let (made, values) ← make item
    let (others, more) ← loop rest
    return (made :: others, values ++ more)

namespace Gathers

variable {α β γ : Type} {make : α → Except Failure (β × List γ)}
  {loop : List α → Except Failure (List β × List γ)}

/-- Where each item is refused for the first of its names that is not listed, the items together are
refused for the first of theirs. -/
theorem failure?_eq (gathers : Gathers make loop) {whitelist : Whitelist}
    {names : α → List String}
    (each : ∀ item, failure? (make item) = whitelist.refusal? (names item)) (items : List α) :
    failure? (loop items) = whitelist.refusal? (items.flatMap names) := by
  induction items with
  | nil => rw [gathers.nil]; rfl
  | cons item rest ih =>
    rw [List.flatMap_cons, whitelist.refusal?_append, ← each, ← ih, gathers.cons]
    cases make item with
    | error failure => rfl
    | ok made => cases loop rest <;> rfl

/-- What the loop makes is what is made of the items in turn, and its values are theirs. -/
theorem exists_found (gathers : Gathers make loop) {items : List α} {all : List β}
    {values : List γ} (made : loop items = .ok (all, values)) :
    ∃ found, List.Forall₂ (fun item pair => make item = .ok pair) items found ∧
      all = found.map (·.1) ∧ values = found.flatMap (·.2) := by
  induction items generalizing all values with
  | nil =>
    rw [gathers.nil] at made
    cases made
    exact ⟨[], .nil, rfl, rfl⟩
  | cons item rest ih =>
    rw [gathers.cons] at made
    obtain ⟨pair, first, made⟩ := bind_eq_ok.mp made
    obtain ⟨⟨others, more⟩, later, ⟨⟩⟩ := bind_eq_ok.mp made
    obtain ⟨found, each, rfl, rfl⟩ := ih later
    exact ⟨pair :: found, .cons first each, rfl, rfl⟩

/-- What holds of all that can be made of an item holds of all that the loop makes. -/
theorem forall_made (gathers : Gathers make loop) {holds : β → Prop}
    (each : ∀ item made values, make item = .ok (made, values) → holds made) {items : List α}
    {all : List β} {values : List γ} (made : loop items = .ok (all, values)) :
    ∀ one ∈ all, holds one := by
  obtain ⟨found, parts, rfl, rfl⟩ := gathers.exists_found made
  clear made
  rw [List.forall_mem_map]
  induction parts with
  | nil => exact List.forall_mem_nil _
  | cons source _ ih => exact List.forall_mem_cons.mpr ⟨each _ _ _ source, ih⟩

theorem fst_cons (gathers : Gathers make loop) (item : α) (rest : List α) :
    (loop (item :: rest)).map (·.1) = do
      let made ← (make item).map (·.1)
      let others ← (loop rest).map (·.1)
      return made :: others := by
  rw [gathers.cons]
  cases make item with
  | error failure => rfl
  | ok made => cases loop rest <;> rfl

/-- Where the same is made of items that correspond, the same is made of all of them. -/
theorem fst_eq (gathers : Gathers make loop) {items others : List α}
    (each : List.Forall₂ (fun item other => (make item).map (·.1) = (make other).map (·.1))
      items others) : (loop items).map (·.1) = (loop others).map (·.1) := by
  induction each with
  | nil => rfl
  | cons same _ ih => rw [gathers.fst_cons, gathers.fst_cons, same, ih]

end Gathers

theorem gathers_conditions (whitelist : Whitelist) :
    Gathers (Term.ofCondition whitelist) (Term.ofConditions whitelist) :=
  ⟨rfl, fun _ _ => rfl⟩

theorem gathers_criteria (whitelist : Whitelist) :
    Gathers (Clause.ofCriterion whitelist) (Clause.ofListed whitelist) :=
  ⟨rfl, fun _ _ => rfl⟩

/-! ### What is refused -/

variable {whitelist : Whitelist}

theorem failure?_ofCondition (whitelist : Whitelist) (condition : Condition) :
    failure? (Term.ofCondition whitelist condition) =
      whitelist.refusal? [condition.subject] := by
  cases listed : whitelist condition.subject with
  | none => simp [Term.ofCondition, Whitelist.refusal?, listed, failure?]
  | some column => simp [ofCondition_eq listed, Whitelist.refusal?, listed, failure?]

theorem failure?_ofCriterion (whitelist : Whitelist) (criterion : Criterion) :
    failure? (Clause.ofCriterion whitelist criterion) =
      whitelist.refusal? (criterion.conditions.map (·.subject)) := by
  cases criterion with
  | one condition =>
    rw [Clause.ofCriterion, failure?_bind_pure, failure?_ofCondition]
    rfl
  | anyOf conditions =>
    rw [Clause.ofCriterion, failure?_bind_pure,
      (gathers_conditions whitelist).failure?_eq (failure?_ofCondition whitelist),
      ← List.map_eq_flatMap]
    rfl

/-- Criteria are refused for the first attribute that is not listed, and for nothing else. -/
theorem failure?_ofListed (whitelist : Whitelist) (criteria : List Criterion) :
    failure? (Clause.ofListed whitelist criteria) = whitelist.refusal? (subjects criteria) :=
  (gathers_criteria whitelist).failure?_eq (failure?_ofCriterion whitelist) criteria

theorem ofListed_error_iff {criteria : List Criterion} {failure : Failure} :
    Clause.ofListed whitelist criteria = .error failure ↔
      whitelist.refusal? (subjects criteria) = some failure := by
  rw [← failure?_eq_some, failure?_ofListed]

theorem exists_name_of_refusal? {names : List String} {failure : Failure}
    (refused : whitelist.refusal? names = some failure) :
    ∃ name, failure = .unknownAttribute name := by
  obtain ⟨name, _, rfl⟩ := Option.map_eq_some_iff.mp refused
  exact ⟨name, rfl⟩

/-! ### Values in their places -/

/-- A sign of a condition that is written out: a character, or a value in its place. -/
inductive Sign
  | char (c : Char)
  | value (v : Value)

/-- The character in the text of the condition. -/
def Sign.shown : Sign → Char
  | char c => c
  | value _ => '?'

/-- The value, which is sent as a parameter. -/
def Sign.value? : Sign → Option Value
  | char _ => none
  | value v => some v

/-- The sign is a character that looks like a placeholder. -/
def Sign.isStray : Sign → Bool
  | char c => c == '?'
  | value _ => false

/-- The signs of a text without values. -/
def signs (text : String) : List Sign :=
  text.toList.map .char

/-- What a test asks of a column, written out. -/
def writtenTest : Test → List Sign
  | .equals .null => signs " IS NULL"
  | .equals value => signs " = " ++ [.value (asNumber value)]
  | .above value => signs " > " ++ [.value (asNumber value)]
  | .between low high =>
    signs " BETWEEN " ++ [.value (asNumber low)] ++
      (signs " AND " ++ [.value (asNumber high)])

/-- The name of the column that an attribute stands for. -/
def Whitelist.columnName (whitelist : Whitelist) (name : String) : String :=
  ((whitelist name).map (·.name)).getD ""

/-- A condition written out. -/
def writtenCondition (whitelist : Whitelist) (condition : Condition) : List Sign :=
  signs (whitelist.columnName condition.subject) ++ writtenTest condition.test

/-- A criterion written out. -/
def writtenCriterion (whitelist : Whitelist) : Criterion → List Sign
  | .one condition => writtenCondition whitelist condition
  | .anyOf [] => signs "0"
  | .anyOf conditions =>
    signs "(" ++ (signs " OR ").intercalate (conditions.map (writtenCondition whitelist)) ++
      signs ")"

/-- The condition of a search written out. -/
def writtenOut (whitelist : Whitelist) : List Criterion → List Sign
  | [] => []
  | criteria =>
    signs " WHERE " ++ (signs " AND ").intercalate (criteria.map (writtenCriterion whitelist))

/-- The text shows the signs with a placeholder for each value, and the parameters are the values,
the first of them for the first placeholder. -/
structure Shows (text : String) (parameters : List Value) (written : List Sign) : Prop where
  text : text.toList = written.map Sign.shown
  parameters : parameters = written.filterMap Sign.value?

theorem shows_signs (text : String) : Shows text [] (signs text) where
  text := by simp [signs, Function.comp_def, Sign.shown]
  parameters := by simp [signs, List.filterMap_map, Function.comp_def, Sign.value?]

theorem Shows.append {text more : String} {parameters others : List Value}
    {written rest : List Sign} (first : Shows text parameters written)
    (second : Shows more others rest) :
    Shows (text ++ more) (parameters ++ others) (written ++ rest) where
  text := by rw [String.toList_append, first.text, second.text, List.map_append]
  parameters := by rw [first.parameters, second.parameters, List.filterMap_append]

/-- Texts with a separator between show what they show, with the separator between. -/
theorem Shows.joined {α β : Type} {render : β → String} {write : α → List Sign} {items : List α}
    {found : List (β × List Value)}
    (each : List.Forall₂ (fun item pair => Shows (render pair.1) pair.2 (write item)) items found)
    (separator : String) :
    Shows (separator.intercalate ((found.map (·.1)).map render)) (found.flatMap (·.2))
      ((signs separator).intercalate (items.map write)) := by
  induction each with
  | nil => exact ⟨rfl, rfl⟩
  | cons first others ih =>
    cases others with
    | nil => simpa using first
    | cons second others =>
      -- The separator stands behind every text but the last.
      have separated := (first.append (shows_signs separator)).append ih
      rw [List.append_nil] at separated
      simpa only [List.map_cons, List.flatMap_cons, String.intercalate_cons_cons,
        List.intercalate_cons_cons] using separated

theorem shows_test (test : Test) :
    Shows (comparisonOf test).1.text (comparisonOf test).2 (writtenTest test) := by
  have asked (sign : String) (value : Value) :
      Shows (sign ++ "?") [asNumber value] (signs sign ++ [.value (asNumber value)]) :=
    (shows_signs sign).append ⟨rfl, rfl⟩
  cases test with
  | equals value =>
    cases value with
    | null => exact shows_signs " IS NULL"
    | _ => exact asked " = " _
  | above value => exact asked " > " value
  | between low high => exact (asked " BETWEEN " low).append (asked " AND " high)

theorem shows_condition {condition : Condition} {pair : Term × List Value}
    (made : Term.ofCondition whitelist condition = .ok pair) :
    Shows pair.1.render pair.2 (writtenCondition whitelist condition) := by
  cases listed : whitelist condition.subject with
  | none => simp [Term.ofCondition, listed] at made
  | some column =>
    rw [ofCondition_eq listed] at made
    cases made
    have named : whitelist.columnName condition.subject = column.name := by
      simp [Whitelist.columnName, listed]
    rw [writtenCondition, named]
    exact (shows_signs column.name).append (shows_test condition.test)

theorem shows_criterion {criterion : Criterion} {pair : Clause × List Value}
    (made : Clause.ofCriterion whitelist criterion = .ok pair) :
    Shows pair.1.render pair.2 (writtenCriterion whitelist criterion) := by
  cases criterion with
  | one condition =>
    obtain ⟨found, one, ⟨⟩⟩ := bind_eq_ok.mp made
    exact shows_condition one
  | anyOf conditions =>
    obtain ⟨⟨terms, values⟩, all, ⟨⟩⟩ := bind_eq_ok.mp made
    obtain ⟨found, each, rfl, rfl⟩ := (gathers_conditions whitelist).exists_found all
    have joined := Shows.joined (each.imp fun _ _ => shows_condition) " OR "
    cases each with
    | nil => exact shows_signs "0"
    | cons first others =>
      have bracketed := ((shows_signs "(").append joined).append (shows_signs ")")
      rw [List.nil_append, List.append_nil] at bracketed
      exact bracketed

/-- The text of criteria and the values for it show the criteria written out. -/
theorem shows_criteria {criteria : List Criterion} {clauses : List Clause} {values : List Value}
    (made : Clause.ofListed whitelist criteria = .ok (clauses, values)) :
    Shows (renderAll clauses) values (writtenOut whitelist criteria) := by
  obtain ⟨found, each, rfl, rfl⟩ := (gathers_criteria whitelist).exists_found made
  have joined := Shows.joined (each.imp fun _ _ => shows_criterion) " AND "
  cases each with
  | nil => exact ⟨rfl, rfl⟩
  | cons first others => exact (shows_signs " WHERE ").append joined

/-! ### Placeholders -/

/-- The parameters put in for the question marks of a text from left to right; there has to be one
for each. -/
def fillIn : List Char → List Value → Option (List Sign)
  | [], parameters => if parameters.isEmpty then some [] else none
  | c :: rest, parameters =>
    if c = '?' then do
      let value ← parameters.head?
      return .value value :: (← fillIn rest parameters.tail)
    else do return .char c :: (← fillIn rest parameters)

/-- The names of the columns for attributes, one behind the other. -/
def Whitelist.names (whitelist : Whitelist) (attributes : List String) : List Char :=
  attributes.flatMap fun name => (whitelist.columnName name).toList

theorem Shows.count {text : String} {parameters : List Value} {written : List Sign}
    (shows : Shows text parameters written) :
    text.toList.count '?' = parameters.length + written.countP Sign.isStray := by
  -- Text and parameters are those of the signs, so the induction is on the signs alone.
  rw [shows.text, shows.parameters]
  clear shows
  induction written with
  | nil => rfl
  | cons sign rest ih =>
    rw [List.map_cons, List.count_cons, ih, List.countP_cons]
    cases sign with
    | char c => exact Nat.add_assoc _ _ _
    | value v => exact Nat.add_right_comm _ _ 1

theorem Shows.fillIn_eq {text : String} {parameters : List Value} {written : List Sign}
    (shows : Shows text parameters written) (plain : written.countP Sign.isStray = 0) :
    fillIn text.toList parameters = some written := by
  rw [shows.text, shows.parameters]
  clear shows
  induction written with
  | nil => rfl
  | cons sign rest ih =>
    rw [List.countP_cons, Nat.add_eq_zero_iff] at plain
    obtain ⟨others, first⟩ := plain
    have filled := ih others
    cases sign with
    | char c =>
      -- A question mark here would take a parameter that belongs further behind.
      have other : c ≠ '?' := by
        rintro rfl
        cases first
      rw [List.map_cons, Sign.shown, List.filterMap_cons_none rfl, fillIn, if_neg other, filled]
      rfl
    | value v =>
      rw [List.map_cons, Sign.shown, List.filterMap_cons, Sign.value?, fillIn, if_pos rfl,
        List.tail_cons, filled]
      rfl

theorem countP_signs (text : String) :
    (signs text).countP Sign.isStray = text.toList.count '?' := by
  rw [signs, List.countP_map]
  rfl

theorem countP_writtenTest (test : Test) : (writtenTest test).countP Sign.isStray = 0 := by
  cases test with
  | equals value => cases value <;> rfl
  | above value => rfl
  | between low high => rfl

/-- Of items with a separator between, only the names of columns have question marks in them. -/
theorem countP_joined {α : Type} {write : α → List Sign} {attributes : α → List String}
    (each : ∀ item, (write item).countP Sign.isStray =
      (whitelist.names (attributes item)).count '?')
    (separator : String) (plain : separator.toList.count '?' = 0) (items : List α) :
    ((signs separator).intercalate (items.map write)).countP Sign.isStray =
      (whitelist.names (items.flatMap attributes)).count '?' := by
  induction items with
  | nil => rfl
  | cons item rest ih =>
    have names : whitelist.names ((item :: rest).flatMap attributes) =
        whitelist.names (attributes item) ++ whitelist.names (rest.flatMap attributes) := by
      simp only [Whitelist.names, List.flatMap_cons, List.flatMap_append]
    rw [names, List.count_append, ← each, ← ih]
    cases rest with
    | nil => simp
    | cons second others =>
      rw [List.map_cons, List.map_cons, List.intercalate_cons_cons, ← List.map_cons,
        List.countP_append, List.countP_append, countP_signs, plain, Nat.add_zero]

theorem countP_writtenCondition (whitelist : Whitelist) (condition : Condition) :
    (writtenCondition whitelist condition).countP Sign.isStray =
      (whitelist.names [condition.subject]).count '?' := by
  rw [writtenCondition, List.countP_append, countP_signs, countP_writtenTest, Nat.add_zero,
    Whitelist.names, List.flatMap_singleton]

theorem countP_writtenCriterion (whitelist : Whitelist) (criterion : Criterion) :
    (writtenCriterion whitelist criterion).countP Sign.isStray =
      (whitelist.names (criterion.conditions.map (·.subject))).count '?' := by
  cases criterion with
  | one condition => exact countP_writtenCondition whitelist condition
  | anyOf conditions =>
    cases conditions with
    | nil => rfl
    | cons first others =>
      have joined := countP_joined (countP_writtenCondition whitelist) " OR " rfl (first :: others)
      rw [← List.map_eq_flatMap] at joined
      rw [writtenCriterion, List.countP_append, List.countP_append, joined, countP_signs,
        countP_signs]
      · exact Nat.zero_add _
      · exact List.cons_ne_nil _ _

theorem countP_writtenOut (whitelist : Whitelist) (criteria : List Criterion) :
    (writtenOut whitelist criteria).countP Sign.isStray =
      (whitelist.names (subjects criteria)).count '?' := by
  cases criteria with
  | nil => rfl
  | cons first others =>
    have joined := countP_joined (countP_writtenCriterion whitelist) " AND " rfl (first :: others)
    rw [writtenOut, List.countP_append, joined, countP_signs]
    · exact Nat.zero_add _
    · exact List.cons_ne_nil _ _

end Sql

/-! ### Other values -/

/-- The tests differ in their values only, and either both ask for the null value or none does. -/
inductive Test.Alike : Test → Test → Prop
  | equals {value other : Value} (null : value = .null ↔ other = .null) :
    Alike (.equals value) (.equals other)
  | above (value other : Value) : Alike (.above value) (.above other)
  | between (low high other another : Value) : Alike (.between low high) (.between other another)

/-- The conditions are on the same attribute and differ in their values only. -/
structure Condition.Alike (condition other : Condition) : Prop where
  subject : condition.subject = other.subject
  test : condition.test.Alike other.test

/-- The criteria differ in values only. -/
inductive Criterion.Alike : Criterion → Criterion → Prop
  | one {condition other : Condition} (alike : condition.Alike other) :
    Alike (.one condition) (.one other)
  | anyOf {conditions others : List Condition}
    (alike : List.Forall₂ Condition.Alike conditions others) :
    Alike (.anyOf conditions) (.anyOf others)

namespace Sql

theorem comparisonOf_equals {value : Value} (present : value ≠ .null) :
    (comparisonOf (.equals value)).1 = .equals := by
  cases value with
  | null => contradiction
  | _ => rfl

theorem comparisonOf_alike {test other : Test} (alike : test.Alike other) :
    (comparisonOf test).1 = (comparisonOf other).1 := by
  cases alike with
  | @equals value other null =>
    by_cases absent : value = .null
    · rw [absent, null.mp absent]
    · rw [comparisonOf_equals absent, comparisonOf_equals fun gone => absent (null.mpr gone)]
  | above value other => rfl
  | between low high other another => rfl

theorem ofCondition_alike {condition other : Condition} (alike : condition.Alike other) :
    (Term.ofCondition whitelist condition).map (·.1) =
      (Term.ofCondition whitelist other).map (·.1) := by
  have same := alike.subject
  cases listed : whitelist condition.subject with
  | none => simp only [Term.ofCondition, ← same, listed]
  | some column =>
    rw [ofCondition_eq listed, ofCondition_eq (same ▸ listed)]
    simp only [Except.map, comparisonOf_alike alike.test]

theorem ofCriterion_alike {criterion other : Criterion} (alike : criterion.Alike other) :
    (Clause.ofCriterion whitelist criterion).map (·.1) =
      (Clause.ofCriterion whitelist other).map (·.1) := by
  have shaped {α β : Type} (found : Except Failure (α × List Value)) (shape : α → β) :
      (found >>= fun made => pure (shape made.1, made.2)).map (·.1) =
        (found.map (·.1)).map shape := by
    cases found <;> rfl
  cases alike with
  | one alike =>
    rw [Clause.ofCriterion, Clause.ofCriterion, shaped, shaped, ofCondition_alike alike]
  | anyOf alike =>
    have terms := (gathers_conditions whitelist).fst_eq (alike.imp fun _ _ => ofCondition_alike)
    rw [Clause.ofCriterion, Clause.ofCriterion, shaped, shaped, terms]

/-- The text does not depend on the values. -/
theorem ofListed_alike {criteria others : List Criterion}
    (alike : List.Forall₂ Criterion.Alike criteria others) :
    (Clause.ofListed whitelist criteria).map (·.1) =
      (Clause.ofListed whitelist others).map (·.1) :=
  (gathers_criteria whitelist).fst_eq (alike.imp fun _ _ => ofCriterion_alike)

/-- Criteria are refused if and only if one of them is on an attribute that is not listed, and for
the first such attribute. Else every value is sent as a parameter, and the text has a placeholder
where it belongs: besides the question marks that may be in the names of columns, there is one for
each parameter, and the parameters put in for them in turn give the condition with its values. The
text is the same whatever the values are. -/
theorem values_stay_out_of_text (whitelist : Whitelist) (criteria : List Criterion) :
    ((∃ failure, Clause.ofListed whitelist criteria = .error failure ∧ failure.kind = .store) ↔
      ∃ name ∈ subjects criteria, whitelist name = none) ∧
    (∀ failure, Clause.ofListed whitelist criteria = .error failure →
      whitelist.refusal? (subjects criteria) = some failure) ∧
    (∀ clauses values, Clause.ofListed whitelist criteria = .ok (clauses, values) →
      Shows (renderAll clauses) values (writtenOut whitelist criteria) ∧
      (renderAll clauses).toList.count '?' =
        values.length + (whitelist.names (subjects criteria)).count '?' ∧
      ((whitelist.names (subjects criteria)).count '?' = 0 →
        fillIn (renderAll clauses).toList values = some (writtenOut whitelist criteria))) ∧
    ∀ others, List.Forall₂ Criterion.Alike criteria others →
      (Clause.ofListed whitelist others).map (fun made => renderAll made.1) =
        (Clause.ofListed whitelist criteria).map fun made => renderAll made.1 := by
  refine ⟨?_, fun failure => ofListed_error_iff.mp, fun clauses values made => ?_,
    fun others alike => ?_⟩
  · rw [← Whitelist.isSome_refusal?_iff, Option.isSome_iff_exists]
    simp only [ofListed_error_iff]
    constructor
    · rintro ⟨failure, refused, _⟩
      exact ⟨failure, refused⟩
    · rintro ⟨failure, refused⟩
      obtain ⟨name, rfl⟩ := exists_name_of_refusal? refused
      exact ⟨_, refused, rfl⟩
  · have shows := shows_criteria made
    have stray := countP_writtenOut whitelist criteria
    refine ⟨shows, ?_, fun plain => shows.fillIn_eq (stray.trans plain)⟩
    rw [shows.count, stray]
  · have rendered (result : Except Failure (List Clause × List Value)) :
        result.map (fun made => renderAll made.1) = (result.map (·.1)).map renderAll := by
      cases result <;> rfl
    rw [rendered, rendered, ofListed_alike alike]

/-- A question mark among the values stays a value. -/
theorem values_stay_out_of_text_of_mark :
    let start : Column := ⟨"utc_start_time", .integer, false⟩
    let path : Column := ⟨"path", .text, true⟩
    let whitelist : Whitelist := fun name => [("since", start), ("path", path)].lookup name
    let criteria (low high : Int) (text : String) : List Criterion :=
      [.one ⟨"since", .between (.int low) (.int high)⟩,
        .anyOf [⟨"path", .equals (.text text)⟩, ⟨"since", .equals .null⟩], .anyOf []]
    let clauses : List Clause :=
      [.term ⟨start, .between⟩, .anyOf [⟨path, .equals⟩, ⟨start, .isNull⟩], .anyOf []]
    let values : List Value := [.int 1, .int 9, .text "?"]
    let text :=
      " WHERE utc_start_time BETWEEN ? AND ? AND (path = ? OR utc_start_time IS NULL) AND 0"
    Clause.ofListed whitelist (criteria 1 9 "?") = .ok (clauses, values) ∧
      renderAll clauses = text ∧
      fillIn text.toList values = some (writtenOut whitelist (criteria 1 9 "?")) ∧
      (Clause.ofListed whitelist (criteria 5 6 "/a")).map (fun made => renderAll made.1) =
        .ok text := by
  intro start path whitelist criteria clauses values text
  obtain ⟨_, _, shown, same⟩ := values_stay_out_of_text whitelist (criteria 1 9 "?")
  have made : Clause.ofListed whitelist (criteria 1 9 "?") = .ok (clauses, values) := rfl
  have rendered : renderAll clauses = text := by decide
  obtain ⟨_, _, filled⟩ := shown clauses values made
  have alike : List.Forall₂ Criterion.Alike (criteria 1 9 "?") (criteria 5 6 "/a") :=
    .cons (.one ⟨rfl, .between ..⟩) (.cons (.anyOf (.cons ⟨rfl, .equals (by simp)⟩
      (.cons ⟨rfl, .equals (by simp)⟩ .nil))) (.cons (.anyOf .nil) .nil))
  refine ⟨made, rendered, rendered ▸ filled (by decide), (same _ alike).trans ?_⟩
  rw [made, Except.map, rendered]

end Sql
end Signpost
