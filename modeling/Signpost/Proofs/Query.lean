import Mathlib.Data.List.Forall2
import Mathlib.Data.String.Basic
import Signpost.Sql.Database

/-!
# Queries and conditions

Criteria hold of a record by its attributes, or of the row that the record is stored as by the
clauses made of the criteria. Where every value is of the kind that its column prefers, the two
agree.

## Main result

`select_rowOf`: the rows of records that a query selects are the rows of the records that satisfy
the criteria.

## Proof strategy

A term takes its parameters from the front of those that are left. So the agreement is proved
condition by condition with arbitrary parameters behind its own, and lists of conditions and of
criteria follow by induction.
-/
namespace Signpost

open Sql

/-! ### Values, cells and columns -/

/-- The value is of the kind that the column prefers; truth values count as numbers. -/
def Sql.Affinity.prefers : Affinity → Value → Bool
  | .text, .text _ => true
  | .integer, .int _ | .integer, .bool _ => true
  | _, _ => false

/-- The cell that holds a plain value. -/
def Sql.cellOf : Value → Cell
  | .bool b => .integer (if b then 1 else 0)
  | .int n => .integer n
  | .real x => .real x
  | .text s => .text s
  | .null | .unpaired _ | .list _ | .object _ => .null

/-- The row of a record with the attributes. -/
def Sql.rowOf (attributes : List (String × Value)) : Row :=
  attributes.map fun (name, value) => (name, cellOf value)

/-- The value is null or of the kind that the column prefers. -/
def Sql.Column.Takes (column : Column) (value : Value) : Prop :=
  value = .null ∨ column.affinity.prefers value = true

/-- Each field is one of a column, which takes its value. -/
def Sql.Taken (columns : List Column) (fields : List (String × Value)) : Prop :=
  ∀ field ∈ fields, ∃ column ∈ columns, field.1 = column.name ∧ column.Takes field.2

/-- The attributes are those of the columns, in order, and each column takes its own. -/
structure Sql.Conforms (columns : List Column) (attributes : List (String × Value)) : Prop where
  taken : List.Forall₂ (fun column field => field.1 = column.name ∧ column.Takes field.2)
    columns attributes
  distinct : columns.Pairwise (·.name ≠ ·.name)

/-- The values of a test are of the kind; equality may also be asked with the null value. -/
def Test.suits (affinity : Affinity) : Test → Bool
  | .equals .null => true
  | .equals value => affinity.prefers value
  | .above value => affinity.prefers value
  | .between low high => affinity.prefers low && affinity.prefers high

/-- The condition is on a column, with values of its kind. -/
def Condition.suits (columns : List Column) (condition : Condition) : Bool :=
  (columns.find? (·.name = condition.subject)).any fun column =>
    condition.test.suits column.affinity

/-- All conditions of the criterion are on columns, with values of their kinds. -/
def Criterion.suits (columns : List Column) : Criterion → Bool
  | .one condition => condition.suits columns
  | .anyOf conditions => conditions.all (·.suits columns)

theorem Sql.lookup_rowOf (fields : List (String × Value)) (name : String) :
    (rowOf fields).lookup name = (fields.lookup name).map cellOf := by
  induction fields with
  | nil => rfl
  | cons field rest ih =>
    obtain ⟨other, value⟩ := field
    simp only [rowOf, List.map_cons, List.lookup_cons] at ih ⊢
    cases name == other with
    | true => rfl
    | false => exact ih

theorem Sql.cell_rowOf (attributes : List (String × Value)) (name : String) :
    (rowOf attributes).cell name = cellOf ((attributes.lookup name).getD .null) := by
  rw [Row.cell, lookup_rowOf]
  cases attributes.lookup name <;> rfl

theorem Sql.cellOf_asNumber (value : Value) : cellOf (asNumber value) = cellOf value := by
  cases value <;> rfl

/-- The value is a number that is worth the integer. -/
def Value.Worth (value : Value) (n : Int) : Prop :=
  value.isNumber = true ∧ value.position? = some (Number.Binary64.integerPosition n)

theorem Sql.worth_of_prefers {value : Value} (pref : Affinity.integer.prefers value = true) :
    ∃ n : Int, cellOf value = .integer n ∧ value.Worth n := by
  cases value with
  | bool b => exact ⟨if b then 1 else 0, rfl, rfl, rfl⟩
  | int n => exact ⟨n, rfl, rfl, rfl⟩
  | _ => simp [Affinity.prefers] at pref

theorem Sql.text_of_prefers {value : Value} (pref : Affinity.text.prefers value = true) :
    ∃ s, value = .text s := by
  cases value with
  | text s => exact ⟨s, rfl⟩
  | _ => simp [Affinity.prefers] at pref

theorem Sql.stored_cellOf {affinity : Affinity} {value : Value}
    (pref : affinity.prefers value = true) : affinity.stored (cellOf value) = cellOf value := by
  cases affinity <;> cases value <;> simp_all [Affinity.prefers, Affinity.stored, cellOf]

/-! ### Comparisons -/

/-- What the tests find of two values that compare as the ordering says. -/
structure Sql.Compared (a b : Value) (ordering : Ordering) : Prop where
  same : a.same b = (ordering == .eq)
  above : a.above b = .ok (ordering == .gt)
  atMost : a.atMost b = .ok (ordering != .gt)
  atLeast : b.atMost a = .ok (ordering != .lt)

theorem Sql.powerOfTwo_pos (exponent : Nat) : (0 : Int) < Number.powerOfTwo exponent :=
  Int.natCast_pos.mpr (Nat.pow_pos (by decide))

theorem Sql.before_integerPosition (m n : Int) :
    Value.before (Number.Binary64.integerPosition m) (Number.Binary64.integerPosition n) =
      decide (m < n) := by
  have scaled : m * Number.powerOfTwo 1074 < n * Number.powerOfTwo 1074 ↔ m < n :=
    Int.mul_lt_mul_right (powerOfTwo_pos 1074)
  apply Bool.eq_iff_iff.mpr
  simp only [Value.before, Number.Binary64.integerPosition, scaled, Bool.or_eq_true,
    Bool.and_eq_true, beq_self_eq_true, true_and, decide_eq_true_eq, Int.lt_irrefl, false_or]

theorem Sql.integerPosition_beq (m n : Int) :
    (Number.Binary64.integerPosition m == Number.Binary64.integerPosition n) = decide (m = n) := by
  have scaled : m * Number.powerOfTwo 1074 = n * Number.powerOfTwo 1074 ↔ m = n :=
    Int.mul_eq_mul_right_iff (powerOfTwo_pos 1074).ne'
  apply Bool.eq_iff_iff.mpr
  simp only [Number.Binary64.integerPosition, beq_iff_eq, Prod.mk.injEq, true_and, scaled,
    decide_eq_true_eq]

theorem Sql.compared_text (s t : String) :
    Compared (.text s) (.text t) ((Cell.text s).compare (.text t)) := by
  rcases lt_trichotomy s t with less | rfl | more
  · have compares : (Cell.text s).compare (.text t) = .lt := if_pos less
    have later : ¬ t < s := less.not_gt
    rw [compares]
    constructor <;>
      simp [Value.same, Value.above, Value.atMost, Value.ordered, less, later, less.ne,
        -String.lt_iff_ltb]
  · have compares : (Cell.text s).compare (.text s) = .eq := by simp [Cell.compare]
    rw [compares]
    constructor <;> simp [Value.same, Value.above, Value.atMost, Value.ordered]
  · have later : ¬ s < t := more.not_gt
    have compares : (Cell.text s).compare (.text t) = .gt := by
      simp [Cell.compare, later, more.ne', -String.lt_iff_ltb]
    rw [compares]
    constructor <;>
      simp [Value.same, Value.above, Value.atMost, Value.ordered, more, later, more.ne',
        -String.lt_iff_ltb]

theorem Sql.ordered_of_worth {a b : Value} {m n : Int} (left : a.Worth m) (right : b.Worth n)
    (sign : String) (numbers : Int × Int → Int × Int → Bool) (texts : String → String → Bool)
    (codes : List Nat → List Nat → Bool) :
    Value.ordered sign numbers texts codes a b =
      .ok (numbers (Number.Binary64.integerPosition m) (Number.Binary64.integerPosition n)) := by
  obtain ⟨numberA, atM⟩ := left
  obtain ⟨numberB, atN⟩ := right
  cases a <;> cases b <;> simp_all [Value.ordered, Value.isNumber]

theorem Sql.same_of_worth {a b : Value} {m n : Int} (left : a.Worth m) (right : b.Worth n) :
    a.same b = decide (m = n) := by
  obtain ⟨numberA, atM⟩ := left
  obtain ⟨numberB, atN⟩ := right
  cases a <;> cases b <;> simp_all [Value.same, Value.isNumber, integerPosition_beq]

theorem Sql.compared_worth {a b : Value} {m n : Int} (left : a.Worth m) (right : b.Worth n) :
    Compared a b ((Cell.integer m).compare (.integer n)) := by
  have compares : (Cell.integer m).compare (.integer n) =
      if m < n then .lt else if n < m then .gt else .eq := by
    simp [Cell.compare, Cell.position?, before_integerPosition]
  have found : Compared a b (if m < n then .lt else if n < m then .gt else .eq) := by
    rcases lt_trichotomy m n with less | rfl | more
    · have later : ¬ n < m := less.not_gt
      constructor <;>
        simp [same_of_worth left right, Value.above, Value.atMost, ordered_of_worth left right,
          ordered_of_worth right left, before_integerPosition, less, later, less.ne]
    · constructor <;>
        simp [same_of_worth left right, Value.above, Value.atMost, ordered_of_worth left right,
          ordered_of_worth right left, before_integerPosition]
    · have later : ¬ m < n := more.not_gt
      constructor <;>
        simp [same_of_worth left right, Value.above, Value.atMost, ordered_of_worth left right,
          ordered_of_worth right left, before_integerPosition, more, later, more.ne']
  rw [compares]
  exact found

/-- A cell of a column and a parameter compare as the values that they hold. -/
theorem Sql.compared_cellOf {affinity : Affinity} {a b : Value}
    (left : affinity.prefers a = true) (right : affinity.prefers b = true) :
    ∃ ordering, affinity.compare (cellOf a) (cellOf b) = some ordering ∧ Compared a b ordering := by
  cases affinity with
  | text =>
    obtain ⟨s, rfl⟩ := text_of_prefers left
    obtain ⟨t, rfl⟩ := text_of_prefers right
    exact ⟨_, rfl, compared_text s t⟩
  | integer =>
    obtain ⟨m, cellA, worthA⟩ := worth_of_prefers left
    obtain ⟨n, cellB, worthB⟩ := worth_of_prefers right
    rw [cellA, cellB]
    exact ⟨_, rfl, compared_worth worthA worthB⟩

/-! ### Terms, clauses and criteria -/

/-- No value, an integer or a text. -/
def Value.isPlain : Value → Bool
  | .null | .int _ | .text _ => true
  | _ => false

/-- The values fill the placeholders of a query, and with them the query is true of the rows of
those records that are decided to be wanted; every record with an attribute for each column is
decided. -/
structure Sql.Asks (columns : List Column) (values : List Value) (arity : Nat)
    (query : Row → List Cell → Option Bool)
    (wanted : List (String × Value) → Except Undecided Bool) : Prop where
  arity : values.length = arity
  plain : ∀ value ∈ values, value.isPlain = true
  decided : ∀ attributes, Conforms columns attributes → ∃ holds, wanted attributes = .ok holds
  agrees : ∀ attributes, Conforms columns attributes → ∀ more,
    query (rowOf attributes) (values.map cellOf ++ more) = some true ↔
      wanted attributes = .ok true

theorem Sql.either_eq_true (a b : Option Bool) :
    either a b = some true ↔ a = some true ∨ b = some true := by
  rcases a with _ | _ | _ <;> rcases b with _ | _ | _ <;> simp [either]

theorem Sql.both_eq_true (a b : Option Bool) :
    both a b = some true ↔ a = some true ∧ b = some true := by
  rcases a with _ | _ | _ <;> rcases b with _ | _ | _ <;> simp [both]

namespace Sql.Asks

variable {columns : List Column} {values more : List Value} {arity later : Nat}
  {query rest : Row → List Cell → Option Bool}
  {wanted others : List (String × Value) → Except Undecided Bool}

/-- Two queries in one: the first takes its parameters and leaves the rest to the second. What is
wanted of a record has to follow from what each of them wants. -/
theorem joined (first : Asks columns values arity query wanted)
    (second : Asks columns more later rest others)
    {join : Option Bool → Option Bool → Option Bool}
    {together : List (String × Value) → Except Undecided Bool}
    (decided : ∀ attributes a b, wanted attributes = .ok a → others attributes = .ok b →
      ∃ holds, together attributes = .ok holds)
    (agrees : ∀ attributes a b, wanted attributes = .ok a → others attributes = .ok b →
      ∀ x y, (x = some true ↔ a = true) → (y = some true ↔ b = true) →
        (join x y = some true ↔ together attributes = .ok true)) :
    Asks columns (values ++ more) (arity + later)
      (fun row parameters => join (query row parameters) (rest row (parameters.drop arity)))
      together where
  arity := by rw [List.length_append, first.arity, second.arity]
  plain value member := by
    rcases List.mem_append.mp member with here | there
    · exact first.plain value here
    · exact second.plain value there
  decided attributes conforms := by
    obtain ⟨a, eqA⟩ := first.decided attributes conforms
    obtain ⟨b, eqB⟩ := second.decided attributes conforms
    exact decided attributes a b eqA eqB
  agrees attributes conforms tail := by
    obtain ⟨a, eqA⟩ := first.decided attributes conforms
    obtain ⟨b, eqB⟩ := second.decided attributes conforms
    -- For the first query the parameters of the second are more behind its own.
    have left := first.agrees attributes conforms (more.map cellOf ++ tail)
    have right := second.agrees attributes conforms tail
    rw [eqA, Except.ok.injEq] at left
    rw [eqB, Except.ok.injEq] at right
    have dropped : (values.map cellOf ++ (more.map cellOf ++ tail)).drop arity =
        more.map cellOf ++ tail :=
      List.drop_left' (by rw [List.length_map, first.arity])
    rw [List.map_append, List.append_assoc, dropped]
    exact agrees attributes a b eqA eqB _ _ left right

/-- Alternatives, of which the later ones are looked at only if the first fails. -/
theorem either (first : Asks columns values arity query wanted)
    (second : Asks columns more later rest others) :
    Asks columns (values ++ more) (arity + later)
      (fun row parameters => Sql.either (query row parameters) (rest row (parameters.drop arity)))
      (fun attributes => match wanted attributes with
        | .ok false => others attributes
        | decided => decided) := by
  refine first.joined second (fun attributes a b eqA eqB => ?_)
    (fun attributes a b eqA eqB x y left right => ?_)
  · cases a <;> simp [eqA, eqB]
  · rw [either_eq_true, left, right]
    cases a <;> simp [eqA, eqB]

/-- Demands, of which the later ones are looked at only if the first is met. -/
theorem both (first : Asks columns values arity query wanted)
    (second : Asks columns more later rest others) :
    Asks columns (values ++ more) (arity + later)
      (fun row parameters => Sql.both (query row parameters) (rest row (parameters.drop arity)))
      (fun attributes => match wanted attributes with
        | .ok true => others attributes
        | decided => decided) := by
  refine first.joined second (fun attributes a b eqA eqB => ?_)
    (fun attributes a b eqA eqB x y left right => ?_)
  · cases a <;> simp [eqA, eqB]
  · rw [both_eq_true, left, right]
    cases a <;> simp [eqA, eqB]

end Sql.Asks

namespace Sql

variable {columns : List Column}

theorem isPlain_asNumber {affinity : Affinity} {value : Value}
    (pref : affinity.prefers value = true) : (asNumber value).isPlain = true := by
  cases affinity <;> cases value <;> simp_all [Affinity.prefers, asNumber, Value.isPlain]

theorem column_of_taken {attributes : List (String × Value)} {field : String × Value}
    (taken : List.Forall₂ (fun column field => field.1 = column.name ∧ column.Takes field.2)
      columns attributes)
    (member : field ∈ attributes) :
    ∃ column ∈ columns, field.1 = column.name ∧ column.Takes field.2 := by
  induction taken with
  | nil => cases member
  | cons takes _ ih =>
    rcases List.mem_cons.mp member with rfl | later
    · exact ⟨_, .head _, takes⟩
    · obtain ⟨column, present, takes⟩ := ih later
      exact ⟨column, .tail _ present, takes⟩

theorem find?_of_mem {column : Column} (distinct : columns.Pairwise (·.name ≠ ·.name))
    (member : column ∈ columns) : columns.find? (·.name = column.name) = some column := by
  induction distinct with
  | nil => cases member
  | cons apart _ ih =>
    rcases List.mem_cons.mp member with rfl | later
    · simp
    · rw [List.find?_cons_of_neg (by simpa using apart column later)]
      exact ih later

theorem lookup_of_taken {attributes : List (String × Value)} {column : Column}
    (taken : List.Forall₂ (fun column field => field.1 = column.name ∧ column.Takes field.2)
      columns attributes)
    (distinct : columns.Pairwise (·.name ≠ ·.name)) (member : column ∈ columns) :
    ∃ value, attributes.lookup column.name = some value ∧ column.Takes value := by
  induction taken with
  | nil => cases member
  | @cons first field columns fields takes _ ih =>
    obtain ⟨named, takes⟩ := takes
    obtain ⟨apart, others⟩ := List.pairwise_cons.mp distinct
    rcases List.mem_cons.mp member with rfl | later
    · exact ⟨field.2, by rw [List.lookup_cons, named, beq_self_eq_true], takes⟩
    · have passed : (column.name == field.1) = false := by
        rw [named]
        exact beq_eq_false_iff_ne.mpr (apart column later).symm
      obtain ⟨value, found, takes⟩ := ih others later
      exact ⟨value, by rw [List.lookup_cons, passed]; exact found, takes⟩

/-- The attribute that a column stands for, and its cell in the row of the record. -/
theorem Conforms.attribute {attributes : List (String × Value)}
    (conforms : Conforms columns attributes) {column : Column} (member : column ∈ columns) :
    ∃ value, attributes.lookup column.name = some value ∧
      (rowOf attributes).cell column.name = cellOf value ∧ column.Takes value := by
  obtain ⟨value, found, takes⟩ := lookup_of_taken conforms.taken conforms.distinct member
  refine ⟨value, found, ?_, takes⟩
  rw [cell_rowOf, found, Option.getD_some]

theorem stored_of_takes {column : Column} {value : Value} (takes : column.Takes value) :
    column.affinity.stored (cellOf value) = cellOf value := by
  rcases takes with rfl | pref
  · cases column.affinity <;> rfl
  · exact stored_cellOf pref

theorem Conforms.fields {attributes : List (String × Value)}
    (conforms : Conforms columns attributes) : Taken columns attributes :=
  fun _ member => column_of_taken conforms.taken member

/-- What columns take is stored as it is. -/
theorem stored_of_taken {fields : List (String × Value)} (taken : Taken columns fields)
    (distinct : columns.Pairwise (·.name ≠ ·.name)) :
    Database.stored columns (rowOf fields) = rowOf fields := by
  simp only [Database.stored, rowOf, List.map_map]
  refine List.map_congr_left fun field member => ?_
  obtain ⟨column, present, named, takes⟩ := taken field member
  have found := find?_of_mem distinct present
  simp only [Function.comp_apply, named, found, stored_of_takes takes]

/-- The columns store the row of a record as it is. -/
theorem Conforms.stored {attributes : List (String × Value)}
    (conforms : Conforms columns attributes) :
    Database.stored columns (rowOf attributes) = rowOf attributes :=
  stored_of_taken conforms.fields conforms.distinct

theorem plain_of_taken {fields : List (String × Value)} (taken : Taken columns fields) :
    ∀ value ∈ fields.map (fun field => asNumber field.2), value.isPlain = true := by
  intro value member
  obtain ⟨field, present, rfl⟩ := List.mem_map.mp member
  obtain ⟨column, _, _, null | pref⟩ := taken field present
  · rw [null]
    rfl
  · exact isPlain_asNumber pref

/-- Names with the cells that their values are bound to. -/
theorem zip_cells (fields : List (String × Value)) :
    (fields.map (·.1)).zip ((fields.map fun field => asNumber field.2).map cellOf) =
      rowOf fields := by
  simp only [List.map_map, List.zip_map', rowOf]
  exact List.map_congr_left fun field _ => by simp [cellOf_asNumber]

/-- The null cell compares with nothing; any other compares as its value does. -/
theorem compare_cellOf {affinity : Affinity} {value parameter : Value}
    (kind : value = .null ∨ affinity.prefers value = true)
    (pref : affinity.prefers parameter = true) :
    (value = .null ∧ affinity.compare (cellOf value) (cellOf (asNumber parameter)) = none) ∨
      (value ≠ .null ∧ ∃ ordering, Compared value parameter ordering ∧
        affinity.compare (cellOf value) (cellOf (asNumber parameter)) = some ordering) := by
  rw [cellOf_asNumber]
  rcases kind with rfl | kind
  · exact Or.inl ⟨rfl, rfl⟩
  · obtain ⟨ordering, compares, compared⟩ := compared_cellOf kind pref
    have present : value ≠ .null := by rintro rfl; cases affinity <;> simp [Affinity.prefers] at kind
    exact Or.inr ⟨present, ordering, compared, compares⟩

theorem holds_above {actual : Value} (present : actual ≠ .null) (value : Value) :
    (Test.above value).holds actual = (actual.above value).mapError .unordered := by
  cases actual <;> first | rfl | contradiction

theorem holds_between {low high actual : Value} (present : actual ≠ .null) {above below : Bool}
    (atLeast : low.atMost actual = .ok above) (atMost : actual.atMost high = .ok below) :
    (Test.between low high).holds actual = .ok (above && below) := by
  cases actual <;> first | contradiction | cases above <;> simp [Test.holds, *, Except.mapError]

/-- The comparison of a test and the values for its placeholders. -/
def comparisonOf : Test → Comparison × List Value
  | .equals .null => (.isNull, [])
  | .equals value => (.equals, [asNumber value])
  | .above value => (.above, [asNumber value])
  | .between low high => (.between, [asNumber low, asNumber high])

theorem ofCondition_eq {whitelist : Whitelist} {condition : Condition} {column : Column}
    (found : whitelist condition.subject = some column) :
    Term.ofCondition whitelist condition =
      .ok (⟨column, (comparisonOf condition.test).1⟩, (comparisonOf condition.test).2) := by
  obtain ⟨subject, test⟩ := condition
  simp only [Term.ofCondition, found]
  rcases test with ⟨value⟩ | value | ⟨low, high⟩
  · cases value <;> rfl
  · rfl
  · rfl

theorem prefers_null (affinity : Affinity) : affinity.prefers .null = false := by
  cases affinity <;> rfl

theorem same_null_iff {affinity : Affinity} {value : Value}
    (kind : value = .null ∨ affinity.prefers value = true) :
    cellOf value = .null ↔ value.same .null = true := by
  rcases kind with rfl | kind
  · simp [cellOf, Value.same]
  · cases affinity <;> cases value <;>
      simp_all [Affinity.prefers, cellOf, Value.same, Value.position?]

theorem null_same {affinity : Affinity} {value : Value} (pref : affinity.prefers value = true) :
    Value.same .null value = false := by
  cases value with
  | null => rw [prefers_null] at pref; contradiction
  | _ => rfl

/-- The term for a test of an attribute agrees with the test. -/
theorem term_agrees {column : Column} {value : Value} {row : Row} {test : Test}
    (cell : row.cell column.name = cellOf value)
    (kind : column.Takes value)
    (suits : test.suits column.affinity = true) (more : List Cell) :
    (∃ holds, test.holds value = .ok holds) ∧
      ((⟨column, (comparisonOf test).1⟩ : Term).holds row
          ((comparisonOf test).2.map cellOf ++ more) = some true ↔ test.holds value = .ok true) := by
  cases test with
  | equals parameter =>
    -- Equality with the null value becomes a term of its own, without a parameter.
    refine ⟨⟨_, rfl⟩, ?_⟩
    cases shape : comparisonOf (.equals parameter) with
    | mk comparison values =>
    cases parameter with
    | null =>
      cases shape
      simp [Term.holds, cell, Test.holds, same_null_iff kind]
    | _ =>
      cases shape
      simp only [Test.suits] at suits
      rcases compare_cellOf kind suits with ⟨rfl, unknown⟩ | ⟨_, ordering, compared, known⟩
      · simp [Term.holds, cell, unknown, Test.holds, null_same suits]
      · simp [Term.holds, cell, known, Test.holds, compared.same]
  | above parameter =>
    rcases compare_cellOf kind suits with ⟨rfl, unknown⟩ | ⟨present, ordering, compared, known⟩
    · refine ⟨⟨false, rfl⟩, ?_⟩
      simp [comparisonOf, Term.holds, cell, unknown, Test.holds]
    · rw [holds_above present, compared.above]
      refine ⟨⟨_, rfl⟩, ?_⟩
      simp [comparisonOf, Term.holds, cell, known, Except.mapError]
  | between low high =>
    simp only [Test.suits, Bool.and_eq_true] at suits
    obtain ⟨suitsLow, suitsHigh⟩ := suits
    -- A null cell fails at the lower bound already, so the upper one is compared with a value.
    rcases compare_cellOf kind suitsLow with ⟨rfl, unknown⟩ | ⟨present, ordering, compared, known⟩
    · refine ⟨⟨false, rfl⟩, ?_⟩
      simp [comparisonOf, Term.holds, cell, unknown, Test.holds, both_eq_true]
    · rcases compare_cellOf kind suitsHigh with ⟨absent, _⟩ | ⟨_, upper, comparedHigh, knownHigh⟩
      · contradiction
      · rw [holds_between present compared.atLeast comparedHigh.atMost]
        refine ⟨⟨_, rfl⟩, ?_⟩
        simp [comparisonOf, Term.holds, cell, known, knownHigh, both_eq_true]

theorem comparisonOf_arity (test : Test) :
    (comparisonOf test).2.length = (comparisonOf test).1.arity := by
  rcases test with value | value | ⟨low, high⟩
  · cases value <;> rfl
  · rfl
  · rfl

theorem comparisonOf_plain {affinity : Affinity} {test : Test} (suits : test.suits affinity = true) :
    ∀ value ∈ (comparisonOf test).2, value.isPlain = true := by
  intro value member
  cases test with
  | equals parameter =>
    cases parameter with
    | null => cases member
    | _ =>
      simp only [comparisonOf, List.mem_singleton] at member
      exact member ▸ isPlain_asNumber suits
  | above parameter =>
    simp only [comparisonOf, List.mem_singleton] at member
    exact member ▸ isPlain_asNumber suits
  | between low high =>
    simp only [Test.suits, Bool.and_eq_true] at suits
    simp only [comparisonOf, List.mem_cons, List.not_mem_nil, or_false] at member
    rcases member with rfl | rfl
    · exact isPlain_asNumber suits.1
    · exact isPlain_asNumber suits.2

theorem asks_condition {condition : Condition} (suits : condition.suits columns = true) :
    ∃ term values, Term.ofCondition (.of columns) condition = .ok (term, values) ∧ ∀ others,
      Asks columns values term.comparison.arity term.holds (condition.holds others) := by
  obtain ⟨column, found, suits⟩ := (Option.any_eq_true _ _).mp suits
  have named : column.name = condition.subject := by simpa using List.find?_some found
  refine ⟨_, _, ofCondition_eq found, fun others =>
    ⟨comparisonOf_arity _, comparisonOf_plain suits, ?_, ?_⟩⟩
  -- Both goals ask the test of the one attribute that the column stands for.
  all_goals
    intro attributes conforms
    obtain ⟨value, has, cell, kind⟩ := conforms.attribute (List.mem_of_find?_eq_some found)
    have asked : condition.holds others attributes = condition.test.holds value := by
      rw [named] at has
      simp only [Condition.holds, has]
    rw [asked]
  · exact (term_agrees cell kind suits []).1
  · exact fun more => (term_agrees cell kind suits more).2

theorem asks_conditions {conditions : List Condition}
    (suits : ∀ condition ∈ conditions, condition.suits columns = true) :
    ∃ terms values, Term.ofConditions (.of columns) conditions = .ok (terms, values) ∧ ∀ others,
      Asks columns values ((terms.map (·.comparison.arity)).foldr (· + ·) 0)
        (fun row => anyTermHolds row terms)
        (fun attributes => anyHolds others attributes conditions) := by
  induction conditions with
  | nil =>
    exact ⟨[], [], rfl, fun _ => ⟨rfl, (fun _ member => nomatch member), fun _ _ => ⟨false, rfl⟩,
      fun _ _ _ => by simp [anyTermHolds, anyHolds]⟩⟩
  | cons condition rest ih =>
    obtain ⟨term, values, made, first⟩ := asks_condition (suits condition (.head _))
    obtain ⟨terms, more, madeRest, others⟩ := ih fun c member => suits c (.tail _ member)
    refine ⟨term :: terms, values ++ more, ?_, fun records => (first records).either (others records)⟩
    simp only [Term.ofConditions, made, madeRest]
    rfl

theorem asks_criterion {criterion : Criterion} (suits : criterion.suits columns = true) :
    ∃ clause values, Clause.ofCriterion (.of columns) criterion = .ok (clause, values) ∧ ∀ others,
      Asks columns values clause.arity clause.holds (criterion.holds others) := by
  cases criterion with
  | one condition =>
    obtain ⟨term, values, made, asks⟩ := asks_condition suits
    exact ⟨.term term, values, by simp only [Clause.ofCriterion, made]; rfl, asks⟩
  | anyOf conditions =>
    obtain ⟨terms, values, made, asks⟩ := asks_conditions (List.all_eq_true.mp suits)
    exact ⟨.anyOf terms, values, by simp only [Clause.ofCriterion, made]; rfl, asks⟩

/-- Criteria on columns with values of their kinds have clauses that ask the same. -/
theorem asks_criteria {criteria : List Criterion}
    (suits : ∀ criterion ∈ criteria, criterion.suits columns = true) :
    ∃ clauses values, Clause.ofCriteria columns criteria = .ok (clauses, values) ∧ ∀ others,
      Asks columns values ((clauses.map (·.arity)).foldr (· + ·) 0) (fun row => allHold row clauses)
        (fun attributes => recordMatches others attributes criteria) := by
  induction criteria with
  | nil =>
    exact ⟨[], [], rfl, fun _ => ⟨rfl, (fun _ member => nomatch member), fun _ _ => ⟨true, rfl⟩,
      fun _ _ _ => by simp [allHold, recordMatches]⟩⟩
  | cons criterion rest ih =>
    obtain ⟨clause, values, made, first⟩ := asks_criterion (suits criterion (.head _))
    obtain ⟨clauses, more, madeRest, others⟩ := ih fun c member => suits c (.tail _ member)
    refine ⟨clause :: clauses, values ++ more, ?_, fun records => (first records).both (others records)⟩
    rw [Clause.ofCriteria] at madeRest ⊢
    simp only [Clause.ofListed, made, madeRest]
    rfl

/-! ### Selection -/

end Sql

/-- A plain value fits in a cell, unless it is an integer that is too large. -/
def Value.fits : Value → Bool
  | .int n => Sql.fits n
  | _ => true

namespace Sql

theorem bind_of_plain {value : Value} (plain : value.isPlain = true) (place : Nat) :
    bind place value = if value.fits then .ok (cellOf value) else .error .integerTooLarge := by
  cases value with
  | int n => rfl
  | null | text s => rfl
  | _ => simp [Value.isPlain] at plain

/-- Plain values are bound as they are, if all of them fit. -/
theorem bindAll_eq {values : List Value} (plain : ∀ value ∈ values, value.isPlain = true)
    (place : Nat) : bindAll place values =
      if values.all (·.fits) then .ok (values.map cellOf) else .error .integerTooLarge := by
  induction values generalizing place with
  | nil => rfl
  | cons value rest ih =>
    have head := bind_of_plain (plain value (.head _)) place
    have tail := ih (fun v member => plain v (.tail _ member)) (place + 1)
    simp only [bindAll, head, tail, List.all_cons, List.map_cons]
    cases value.fits <;> cases rest.all (·.fits) <;> rfl

theorem bindAll_of_plain {values : List Value} (plain : ∀ value ∈ values, value.isPlain = true)
    {place : Nat} {cells : List Cell} (bound : bindAll place values = .ok cells) :
    cells = values.map cellOf := by
  rw [bindAll_eq plain] at bound
  split at bound
  · exact (Except.ok.inj bound).symm
  · cases bound

end Sql

/-- The criteria hold of a record by its attributes. -/
def satisfies (criteria : List Criterion) (attributes : List (String × Value)) : Bool :=
  match recordMatches .none attributes criteria with
  | .ok holds => holds
  | .error _ => false

theorem recordMatches_eq_true {others : Others} {attributes : List (String × Value)}
    {criteria : List Criterion} : recordMatches others attributes criteria = .ok true ↔
      ∀ criterion ∈ criteria, criterion.holds others attributes = .ok true := by
  induction criteria with
  | nil => simp [recordMatches]
  | cons criterion rest ih =>
    rw [List.forall_mem_cons, ← ih]
    cases holds : criterion.holds others attributes with
    | error why => simp [recordMatches, holds]
    | ok decided => cases decided <;> simp [recordMatches, holds]

theorem satisfies_iff {attributes : List (String × Value)} {criteria : List Criterion} :
    satisfies criteria attributes = true ↔
      ∀ criterion ∈ criteria, criterion.holds .none attributes = .ok true := by
  rw [← recordMatches_eq_true]
  cases decided : recordMatches .none attributes criteria <;> simp [satisfies, decided]

/-- Records on which the criteria are decided, by their attributes, are searched by filtering. -/
theorem select_eq_filter {others : Others} {attributes : α → List (String × Value)}
    {criteria : List Criterion} {records : List α}
    (decided : ∀ record ∈ records, recordMatches others (attributes record) criteria =
      .ok (satisfies criteria (attributes record))) :
    select others attributes criteria records =
      .ok (records.filter fun record => satisfies criteria (attributes record)) := by
  induction records with
  | nil => rfl
  | cons record rest ih =>
    have others := ih fun r member => decided r (.tail _ member)
    rw [List.filter_cons]
    simp only [select, decided record (.head _), others]

/-- The cells for the placeholders of a query, if a database takes its condition. -/
def Sql.Database.parameters (database : Database) (clauses : List Clause) (values : List Value) :
    Except Store.Failure (List Cell) := do
  (database.limits.check clauses).mapError database.limits.failure
  bindAll 1 values

theorem Sql.Database.parameters_of_small (database : Database) {clauses : List Clause}
    (small : sizeOfAll clauses ≤ 4) (values : List Value) :
    database.parameters clauses values = bindAll 1 values := by
  rw [parameters, Limits.check_of_small small]
  rfl

section

variable {attributes : α → List (String × Value)} {columns : List Column}
  {criteria : List Criterion} {records : List α} {database : Database} {name : String}

/-- Records with an attribute for each column are searched by filtering, whatever else they answer
to. -/
theorem select_of_suits (suits : ∀ criterion ∈ criteria, criterion.suits columns = true)
    (conforms : ∀ record ∈ records, Conforms columns (attributes record)) (others : Others) :
    select others attributes criteria records =
      .ok (records.filter fun record => satisfies criteria (attributes record)) := by
  obtain ⟨clauses, values, _, asks⟩ := asks_criteria suits
  refine select_eq_filter fun record member => ?_
  have conform := conforms record member
  obtain ⟨holds, decided⟩ := (asks others).decided _ conform
  -- The clauses cannot see what else the record answers to.
  have same := ((asks others).agrees _ conform []).symm.trans ((asks .none).agrees _ conform [])
  rw [decided, recordMatches_eq_true, ← satisfies_iff] at same
  have found : holds = satisfies criteria (attributes record) :=
    Bool.eq_iff_iff.mpr (by simpa using same)
  rw [decided, found]

/-- A table of records is searched as the records are; the search fails only where the condition is
too large or a value for the placeholders cannot be bound. -/
theorem select_rowOf (suits : ∀ criterion ∈ criteria, criterion.suits columns = true)
    (conforms : ∀ record ∈ records, Conforms columns (attributes record))
    (held : database.rows name = .ok (records.map fun record => rowOf (attributes record))) :
    ∃ clauses values, Clause.ofCriteria columns criteria = .ok (clauses, values) ∧
      database.select name columns criteria = (database.parameters clauses values).map fun _ =>
        (records.filter fun record => satisfies criteria (attributes record)).map
          fun record => rowOf (attributes record) := by
  obtain ⟨clauses, values, made, asks⟩ := asks_criteria suits
  refine ⟨clauses, values, made, ?_⟩
  simp only [Database.select, Database.parameters, made, held, Bind.bind, Except.bind, Pure.pure,
    Except.pure]
  cases (database.limits.check clauses).mapError database.limits.failure with
  | error failure => rfl
  | ok _ =>
    cases bound : bindAll 1 values with
    | error failure => simp [Except.map]
    | ok cells =>
      -- The query has no parameters but those of the criteria.
      have cellsEq := bindAll_of_plain (asks .none).plain bound
      have kept : ∀ record ∈ records,
          (allHold (rowOf (attributes record)) clauses cells == some true) =
            satisfies criteria (attributes record) := by
        intro record member
        have agrees := (asks .none).agrees _ (conforms record member) []
        rw [List.append_nil, ← cellsEq, recordMatches_eq_true, ← satisfies_iff] at agrees
        exact Bool.eq_iff_iff.mpr (beq_iff_eq.trans agrees)
      simp only [Except.map, Except.ok.injEq]
      rw [List.filter_map]
      exact congrArg _ (List.filter_congr kept)

end

end Signpost
