import Signpost.Sql.Script
import Signpost.Text.Encoding

/-!
# Conditions as text

The condition of a query is sent as a text with placeholders. `Formula.ofText` reads it by the rules
of the query language: `AND` binds its sides closer than `OR`, brackets go first, and the `AND` of a
range belongs to the range. `truthOf` decides the text on a row. The parameters are taken for the
placeholders from left to right, and texts compare by their bytes.
-/
namespace Signpost.Sql

/-- A condition of a query. -/
inductive Formula
  | always
  | never
  | term (single : Term)
  | and (left right : Formula)
  | or (left right : Formula)

/-! ### Reading -/

/-- A comparison of one of the columns, and what follows it. -/
def Term.read (columns : List Column) : List String → Option (Term × List String)
  | [] => none
  | name :: words => do
    let column ← columns.find? (·.name = name)
    match words with
    | "IS" :: "NULL" :: rest => return (⟨column, .isNull⟩, rest)
    | "=" :: "?" :: rest => return (⟨column, .equals⟩, rest)
    | ">" :: "?" :: rest => return (⟨column, .above⟩, rest)
    | "BETWEEN" :: "?" :: "AND" :: "?" :: rest => return (⟨column, .between⟩, rest)
    | _ => none

mutual

/-- Alternatives with `OR` between them, and what follows. The fuel bounds the words left. -/
def Formula.readAny (columns : List Column) :
    Nat → List String → Option (Formula × List String)
  | 0, _ => none
  | fuel + 1, words => do
    let (first, rest) ← Formula.readEvery columns fuel words
    match rest with
    | "OR" :: rest =>
      let (others, rest) ← Formula.readAny columns fuel rest
      return (.or first others, rest)
    | _ => return (first, rest)

/-- Demands with `AND` between them, and what follows. -/
def Formula.readEvery (columns : List Column) :
    Nat → List String → Option (Formula × List String)
  | 0, _ => none
  | fuel + 1, words => do
    let (first, rest) ← Formula.readOne columns fuel words
    match rest with
    | "AND" :: rest =>
      let (others, rest) ← Formula.readEvery columns fuel rest
      return (.and first others, rest)
    | _ => return (first, rest)

/-- A formula in brackets, the number zero, or a comparison, and what follows. -/
def Formula.readOne (columns : List Column) :
    Nat → List String → Option (Formula × List String)
  | 0, _ => none
  | fuel + 1, words =>
    match words with
    | "(" :: rest => do
      let (inner, rest) ← Formula.readAny columns fuel rest
      match rest with
      | ")" :: rest => return (inner, rest)
      | _ => none
    | "0" :: rest => return (.never, rest)
    | words => (Term.read columns words).map fun (single, rest) => (.term single, rest)

end

/-- The words of a text. -/
def wordsOf (cs : List Char) : List String :=
  words (cs.length + 1) cs

/-- The condition that a text puts on the rows of a table; an empty text asks for nothing. -/
def Formula.ofText (columns : List Column) (text : String) : Option Formula :=
  match wordsOf text.toList with
  | [] => some .always
  | "WHERE" :: words =>
    match Formula.readAny columns (words.length + 2) words with
    | some (formula, []) => some formula
    | _ => none
  | _ => none

/-! ### Truth -/

/-- The order of two cells that are not null; texts by their bytes. -/
def Cell.compareBytes (a b : Cell) : Ordering :=
  match a, b with
  | .text s, .text t =>
    let left := Text.encodeUtf8 s.toList
    let right := Text.encodeUtf8 t.toList
    if left < right then .lt else if right < left then .gt else .eq
  | _, _ => a.compare b

/-- The order of the cell of a column and a parameter; none where one of them is null. -/
def Affinity.compareBytes (affinity : Affinity) (cell parameter : Cell) : Option Ordering :=
  match cell, affinity.stored parameter with
  | .null, _ | _, .null => none
  | a, b => some (a.compareBytes b)

/-- The truth of a comparison on a row, and the parameters that it leaves for others. -/
def Term.truth (single : Term) (row : Row) (parameters : List Cell) :
    Option (Option Bool × List Cell) :=
  let cell := row.cell single.column.name
  let order := single.column.affinity.compareBytes cell
  match single.comparison, parameters with
  | .isNull, rest => some (some (cell = .null), rest)
  | .equals, value :: rest => some ((order value).map (· == .eq), rest)
  | .above, value :: rest => some ((order value).map (· == .gt), rest)
  | .between, low :: high :: rest =>
    some (both ((order low).map (· != .lt)) ((order high).map (· != .gt)), rest)
  | _, _ => none

/-- The truth of a formula on a row, and the parameters that it leaves for others. -/
def Formula.truth (row : Row) : Formula → List Cell → Option (Option Bool × List Cell)
  | always, parameters => some (some true, parameters)
  | never, parameters => some (some false, parameters)
  | term single, parameters => single.truth row parameters
  | and left right, parameters => do
    let (first, parameters) ← left.truth row parameters
    let (second, parameters) ← right.truth row parameters
    return (both first second, parameters)
  | or left right, parameters => do
    let (first, parameters) ← left.truth row parameters
    let (second, parameters) ← right.truth row parameters
    return (either first second, parameters)

/-- The truth of the text of a condition on a row, if it is one and has a placeholder for each of
the parameters. -/
def truthOf (columns : List Column) (text : String) (row : Row) (parameters : List Cell) :
    Option (Option Bool) := do
  let formula ← Formula.ofText columns text
  match ← formula.truth row parameters with
  | (truth, []) => return truth
  | _ => none

end Signpost.Sql
