import Signpost.Json.Reader
import Signpost.Json.Writer
import Signpost.Store.Folder

/-!
# Images of databases

A database is kept in a file as a JSON document: an object with a field for each table, and in it a
list of rows. `write` gives the document and `read?` takes it back.
-/
namespace Signpost.Store.Image

open Sql (Cell Database Row Table)

/-- The cell of a value. -/
def cell? : Value → Option Cell
  | .null => some .null
  | .int n => some (.integer n)
  | .real x => some (.real x)
  | .text s => some (.text s)
  | _ => none

/-- A row as an object. -/
def rowValue (row : Row) : Value :=
  .object (row.map fun (name, cell) => (name, cell.toValue))

/-- The row of an object. -/
def row? : Value → Option Row
  | .object fields => fields.mapM fun (name, value) => (cell? value).map (name, ·)
  | _ => none

/-- The table of a field. -/
def table? : String × Value → Option Table
  | (name, .list items) => (items.mapM row?).map (⟨name, ·⟩)
  | _ => none

/-- The document of a database. -/
def write (database : Database) : String :=
  Json.writeIndented (.object (database.tables.map fun table =>
    (table.name, .list (table.rows.map rowValue))))

/-- The database of a document, which is three levels deep. -/
def read? (text : String) : Option Database :=
  match Json.read 3 text.toList with
  | .ok (.object fields) => (fields.mapM table?).map fun tables => { tables }
  | _ => none

/-- What a file with the text holds. -/
def content (text : String) : Content :=
  match read? text with
  | some database => .database database
  | none => .text text

/-- The text of what a file holds. -/
def textOf : Content → String
  | .text s => s
  | .database database => write database

/-- The number in an id that the service has given out. -/
def issuedNumber? (id : String) : Option Nat :=
  match id.toList with
  | 'i' :: 'd' :: '-' :: digits => Number.natural? digits
  | _ => none

/-- The largest number in the ids of a database. -/
def issued (database : Database) : Nat :=
  let rows := (database.table? "rules").map (·.rows)
  (rows.getD []).foldl (fun most row =>
    match row.cell "id" with
    | .text id => max most ((issuedNumber? id).getD 0)
    | _ => most) 0

theorem cell?_toValue (cell : Cell) : cell? cell.toValue = some cell := by
  cases cell <;> rfl

theorem row?_rowValue (row : Row) : row? (rowValue row) = some row := by
  induction row with
  | nil => rfl
  | cons head rest ih =>
    obtain ⟨name, cell⟩ := head
    simp only [row?, rowValue, List.map_cons, List.mapM_cons] at ih ⊢
    simp [ih, cell?_toValue]

end Signpost.Store.Image
