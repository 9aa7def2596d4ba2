import Signpost.Json.Reader
import Signpost.Platform
import Signpost.Sheet.Csv

/-!
# Rows

A sheet of rules is a list of rows, each with values for some columns. It comes as comma-separated
text, whose first record names the columns, or as JSON. What comes of a payload with a name in it that
is no text of characters, is not told.
-/
namespace Signpost.Sheet

/-- A row: its values by column. -/
abbrev Row := List (String × Value)

/-- The row of a record. Of columns with one name the last counts; a record that is too short
leaves the other columns without a value, and fields without a column are dropped. -/
def rowOf (columns : List String) (record : Csv.Record) : Row :=
  let filled := (columns.zip record).foldl
    (fun row (column, field) => Value.setField row column (.text field)) []
  (columns.drop record.length).foldl (fun row column => Value.setField row column .null) filled

/-- Every value of the row is blank. -/
def isBlankRow (row : Row) : Bool :=
  row.all fun field => field.2.isBlank

/-- The rows of records, of which the first names the columns. Empty records and blank rows are
passed over. -/
def rowsOfRecords : List Csv.Record → List Row
  | [] => []
  | columns :: records =>
    ((records.filter (!·.isEmpty)).map (rowOf columns)).filter (!isBlankRow ·)

/-- The rows of comma-separated text, which may begin with byte order marks. -/
def rowsOfCsv (text : String) : Except Csv.Fault (List Row) :=
  (Csv.read (text.toList.dropWhile fun c => c.toNat == 0xFEFF)).map rowsOfRecords

/-- A sheet as it comes: as text or bytes of JSON, or as a value. -/
inductive Payload
  | text (text : String)
  | bytes (bytes : List Nat)
  | value (value : Value)

/-- Why a payload has no rows. -/
inductive PayloadFault
  | undecodable (u : Text.Undecodable)
  | json (text : List Char) (error : Json.Error)
  | notRows
  deriving Repr

/-- What is said of a payload without rows. -/
def PayloadFault.message : PayloadFault → String
  | undecodable u => u.message
  | json text error =>
    match error with
    | .fault _ _ => "Invalid JSON payload: " ++ error.message text
    | _ => error.message text
  | notRows => "Expected a JSON array of row objects"

/-- The nesting is too deep to be read; this is not reported as a fault of the payload. -/
def PayloadFault.isTooDeep : PayloadFault → Bool
  | json _ .deepList | json _ .deepObject => true
  | _ => false

/-- A name in the payload is none of characters. -/
def PayloadFault.isUnspoken : PayloadFault → Bool
  | json _ .unpairedName => true
  | _ => false

/-- The rows that a list holds; all items have to be objects. -/
def rowsOfItems : List Value → Except PayloadFault (List Row)
  | [] => .ok []
  | .object fields :: rest => (rowsOfItems rest).map (fields :: ·)
  | _ => .error .notRows

/-- The rows of a value: a list of objects, or an object with such a list as its data. -/
def rowsOfValue (value : Value) : Except PayloadFault (List Row) :=
  let data :=
    match value with
    | .object fields => (fields.lookup "data").getD .null
    | _ => value
  match data with
  | .list items => rowsOfItems items
  | _ => .error .notRows

/-- The document of rows: an object with their list as its data. -/
def documentOf (rows : List Row) : Value :=
  .object [("data", .list (rows.map .object))]

variable [Platform]

/-- The value of a JSON text. -/
def valueOfCodes (codes : List Nat) : Except PayloadFault Value :=
  (Json.readCodes Platform.documentDepth codes).mapError (.json (Text.standIns codes))

/-- The rows of a payload. -/
def rowsOfPayload (payload : Payload) : Except PayloadFault (List Row) := do
  match payload with
  | .value (.text text) => rowsOfValue (← valueOfCodes (Text.codesOf text))
  | .value (.unpaired u) => rowsOfValue (← valueOfCodes u.codes)
  | .value value => rowsOfValue value
  | .text text => rowsOfValue (← valueOfCodes (Text.codesOf text))
  | .bytes bytes =>
    let codes ← (Text.decodeDetected bytes).mapError .undecodable
    rowsOfValue (← valueOfCodes codes)

end Signpost.Sheet
