import Signpost.Sql.Cell

/-!
# Search clauses

The criteria of a search as the condition of a query: a text with a placeholder for every value, and
the values in the order of the placeholders. `Clause.render` writes the text and `Clause.holds`
decides the condition on a row, true, false or unknown. No value is ever part of the text.
-/
namespace Signpost.Sql

/-- A column of a table: its name, its affinity, and whether it refuses null cells. -/
structure Column where
  name : String
  affinity : Affinity
  required : Bool

/-- The cells of a row by the names of their columns. -/
abbrev Row := List (String × Cell)

/-- The cell of a column; null where the row has none. -/
def Row.cell (row : Row) (name : String) : Cell :=
  (row.lookup name).getD .null

/-- A comparison of a column, with a placeholder for each value. -/
inductive Comparison
  | isNull
  | equals
  | above
  | between
  deriving DecidableEq, Repr

/-- A comparison of a column. -/
structure Term where
  column : Column
  comparison : Comparison

/-- A term, or alternatives in brackets. -/
inductive Clause
  | term (single : Term)
  | anyOf (terms : List Term)

/-- The number of placeholders. -/
def Comparison.arity : Comparison → Nat
  | isNull => 0
  | equals => 1
  | above => 1
  | between => 2

/-- The text of a comparison after its column. -/
def Comparison.text : Comparison → String
  | isNull => " IS NULL"
  | equals => " = ?"
  | above => " > ?"
  | between => " BETWEEN ? AND ?"

/-- The text of a term. -/
def Term.render (term : Term) : String :=
  term.column.name ++ term.comparison.text

/-- The text of a clause; alternatives of nothing are false. -/
def Clause.render : Clause → String
  | .term single => single.render
  | .anyOf [] => "0"
  | .anyOf terms => "(" ++ " OR ".intercalate (terms.map Term.render) ++ ")"

/-- The text of the whole condition, or none if there is nothing to ask. -/
def renderAll : List Clause → String
  | [] => ""
  | clauses => " WHERE " ++ " AND ".intercalate (clauses.map Clause.render)

/-- The number of placeholders of a clause. -/
def Clause.arity : Clause → Nat
  | .term single => single.comparison.arity
  | .anyOf terms => (terms.map (·.comparison.arity)).foldr (· + ·) 0

/-- The value with a truth value as a number. -/
def asNumber : Value → Value
  | .bool b => .int (if b then 1 else 0)
  | value => value

/-- The columns that a search may ask for, by the attributes that stand for them. -/
abbrev Whitelist := String → Option Column

/-- Columns by their own names. -/
def Whitelist.of (columns : List Column) : Whitelist :=
  fun name => columns.find? (·.name = name)

/-- The term of a condition on one of the columns, with the values for its placeholders. -/
def Term.ofCondition (whitelist : Whitelist) (condition : Condition) :
    Except Store.Failure (Term × List Value) :=
  match whitelist condition.subject with
  | none => .error (.unknownAttribute condition.subject)
  | some column =>
    match condition.test with
    | .equals .null => .ok (⟨column, .isNull⟩, [])
    | .equals value => .ok (⟨column, .equals⟩, [asNumber value])
    | .above value => .ok (⟨column, .above⟩, [asNumber value])
    | .between low high => .ok (⟨column, .between⟩, [asNumber low, asNumber high])

/-- The terms of conditions, with the values for their placeholders. -/
def Term.ofConditions (whitelist : Whitelist) :
    List Condition → Except Store.Failure (List Term × List Value)
  | [] => .ok ([], [])
  | condition :: rest => do
    let (term, values) ← Term.ofCondition whitelist condition
    let (terms, more) ← Term.ofConditions whitelist rest
    return (term :: terms, values ++ more)

/-- The clause of a criterion, with the values for its placeholders. -/
def Clause.ofCriterion (whitelist : Whitelist) :
    Criterion → Except Store.Failure (Clause × List Value)
  | .one condition => do
    let found ← Term.ofCondition whitelist condition
    return (.term found.1, found.2)
  | .anyOf conditions => do
    let found ← Term.ofConditions whitelist conditions
    return (.anyOf found.1, found.2)

/-- The clauses of criteria on listed columns, with the values for their placeholders. -/
def Clause.ofListed (whitelist : Whitelist) :
    List Criterion → Except Store.Failure (List Clause × List Value)
  | [] => .ok ([], [])
  | criterion :: rest => do
    let (clause, values) ← Clause.ofCriterion whitelist criterion
    let (clauses, more) ← Clause.ofListed whitelist rest
    return (clause :: clauses, values ++ more)

/-- The clauses of criteria on columns by their own names, with the values for the placeholders. -/
def Clause.ofCriteria (columns : List Column) (criteria : List Criterion) :
    Except Store.Failure (List Clause × List Value) :=
  Clause.ofListed (.of columns) criteria

/-- Both are true; unknown if one is unknown and none is false. -/
def both : Option Bool → Option Bool → Option Bool
  | some false, _ | _, some false => some false
  | some true, some true => some true
  | _, _ => none

/-- One is true; unknown if one is unknown and none is true. -/
def either : Option Bool → Option Bool → Option Bool
  | some true, _ | _, some true => some true
  | some false, some false => some false
  | _, _ => none

/-- The truth of a term on a row, with the parameters for its placeholders. -/
def Term.holds (term : Term) (row : Row) (parameters : List Cell) : Option Bool :=
  let cell := row.cell term.column.name
  let compare := term.column.affinity.compare cell
  match term.comparison, parameters with
  | .isNull, _ => some (cell = .null)
  | .equals, value :: _ => (compare value).map (· == .eq)
  | .above, value :: _ => (compare value).map (· == .gt)
  | .between, low :: high :: _ =>
    both ((compare low).map (· != .lt)) ((compare high).map (· != .gt))
  | _, _ => none

/-- The truth of alternatives; each takes its parameters from those left. -/
def anyTermHolds (row : Row) : List Term → List Cell → Option Bool
  | [], _ => some false
  | term :: rest, parameters =>
    either (term.holds row parameters)
      (anyTermHolds row rest (parameters.drop term.comparison.arity))

/-- The truth of a clause on a row. -/
def Clause.holds (clause : Clause) (row : Row) (parameters : List Cell) : Option Bool :=
  match clause with
  | .term single => single.holds row parameters
  | .anyOf terms => anyTermHolds row terms parameters

/-- The truth of all clauses on a row; each takes its parameters from those left. -/
def allHold (row : Row) : List Clause → List Cell → Option Bool
  | [], _ => some true
  | clause :: rest, parameters =>
    both (clause.holds row parameters) (allHold row rest (parameters.drop clause.arity))

end Signpost.Sql
