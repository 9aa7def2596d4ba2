import Signpost.Rule
import Signpost.Sheet.Rows
import Signpost.Url.Location

/-!
# Entries of a sheet

A row becomes a rule in three steps: `skipReason?` refuses rows without a path or a target and rows
whose version or status is no integer; `normalizeRow` brings path, host and version into the form
in which rules are keyed; `ruleOfRow` builds the rule. The texts of the cells are needed on the way,
and not every cell has one. A cell with a text that is none of characters goes through as it is where
it is only handed on; what comes of it where it is taken apart is not told.
-/
namespace Signpost.Sheet

/-- What holds where a row does not say. -/
structure Defaults where
  version : Int := 0
  status : Int := 301
  deriving DecidableEq, Repr, Inhabited

/-- The value of a column; a column that is not there has none. -/
def cell (row : Row) (column : String) : Value :=
  (row.lookup column).getD .null

/-- Why a row is skipped before it is looked up. -/
inductive SkipReason
  | missingPath
  | missingTarget
  | versionNotInteger
  | statusNotInteger
  deriving DecidableEq, Repr, Inhabited

/-- What is said of a row that is skipped. -/
def SkipReason.message : SkipReason → String
  | missingPath => "missing path"
  | missingTarget => "missing redirectURL"
  | versionNotInteger => "version must be an integer"
  | statusNotInteger => "statusCode must be an integer"

/-- The value is given and is no integer. -/
def isBadInteger (value : Value) : Bool :=
  !value.isBlank && value.integer?.isNone

/-- Why the row cannot become a rule. -/
def skipReason? (row : Row) : Option SkipReason :=
  if (cell row "path").isBlank then some .missingPath
  else if (cell row "redirectURL").isBlank then some .missingTarget
  else if isBadInteger (cell row "version") then some .versionNotInteger
  else if isBadInteger (cell row "statusCode") then some .statusNotInteger
  else none

/-- The row is for a pattern rule: its flag is true, or the text 1. -/
def isPatternRow (row : Row) : Bool :=
  match cell row "isRegex" with
  | .bool b => b
  | .null => false
  | value => Text.strip value.display == "1"

/-- Why a row has no rule. With `unpaired` the fields of one are there, but a text among them is none
of characters; with `unspoken` not even these are told. -/
inductive RowFault
  | noColumn (name : String)
  | url (malformed : Url.Malformed)
  | unshown (why : Value.Unshown)
  | invalid (problems : List Schema.Problem)
  | unpaired (fields : List (String × Value))
  | unspoken
  deriving Repr

/-- The value of a column that has to be there. -/
def needed (row : Row) (column : String) : Except RowFault Value :=
  match row.lookup column with
  | some value => .ok value
  | none => .error (.noColumn column)

/-- The text of a value without blanks around it. -/
def trimmed (value : Value) : String :=
  Text.strip value.display

/-- The value as a text without blanks around it. -/
def trimmedText : Value → Value
  | .unpaired u => .unpaired u.strip
  | value => .text (trimmed value)

/-- The value as a text. -/
def asText : Value → Value
  | .unpaired u => .unpaired u
  | value => .text value.display

/-- The host that a row names. -/
def rowHost (row : Row) : String :=
  if (cell row "host").isBlank then "" else trimmed (cell row "host")

/-- The operations of a row as a text; blank ones are none. -/
def operationsOf (row : Row) : Value :=
  if (cell row "operations").isBlank then .null else trimmedText (cell row "operations")

/-- The fields of the rule that is made of a row, with its path, host, version and target. -/
def fieldsOfRow (row : Row) (defaults : Defaults) (path host version target : Value) :
    List (String × Value) :=
  [("path", path), ("host", host), ("version", version), ("redirect_url", trimmedText target),
    ("status_code", .int ((cell row "statusCode").integer?.getD defaults.status)),
    ("utc_start_time", .ofOption .int (cell row "utcStartTime").integer?),
    ("utc_end_time", .ofOption .int (cell row "utcEndTime").integer?),
    ("operations", operationsOf row),
    ("regex", .bool (isPatternRow row))]

section

variable [Platform]

/-- Why a value has no text where the service runs, if it has none. -/
def unshown? (value : Value) : Option Value.Unshown :=
  value.unshown? Platform.valueDepth

/-- The values have texts. -/
def checkShown : List Value → Except RowFault Unit
  | [] => .ok ()
  | value :: rest =>
    match unshown? value with
    | some why => .error (.unshown why)
    | none => checkShown rest

/-- The value is nested too deep to be asked for an integer. -/
def isTooDeep (value : Value) : Bool :=
  unshown? value == some .tooDeep

/-- The values can be asked for integers. -/
def checkNesting (values : List Value) : Except RowFault Unit :=
  if values.any isTooDeep then .error (.unshown .tooDeep) else .ok ()

/-- Path and host of a row: those of the URL in its path, or, for a pattern, as they are. -/
def rowKey (row : Row) : Except RowFault (Value × String) := do
  checkShown [cell row "host", cell row "isRegex", cell row "path"]
  let path ← needed row "path"
  if (cell row "host").isUnpaired then throw .unspoken
  if isPatternRow row then return (asText path, rowHost row)
  else if path.isUnpaired then throw .unspoken
  else
    let location ← (Url.Location.ofText (trimmed path)).mapError .url
    return (.text location.pathWithQuery,
      if location.host == "" then rowHost row else location.host)

/-- The row with the path, host and version by which its rule is keyed. -/
def normalizeRow (row : Row) (defaultVersion : Int) : Except RowFault Row := do
  let (path, host) ← rowKey row
  checkNesting [cell row "version"]
  let version := (cell row "version").integer?.getD defaultVersion
  let row := Value.setField (Value.setField row "path" path) "host" (.text host)
  return Value.setField row "version" (.int version)

/-- The rule of its fields. -/
def ruleOfFields (fields : List (String × Value)) : Except RowFault Rule :=
  match Rule.ofFields fields with
  | .ok rule => .ok rule
  | .error problems =>
    if (Schema.proper problems).isEmpty then .error (.unpaired fields)
    else .error (.invalid (Schema.proper problems))

/-- The rule of a normalized row. -/
def ruleOfRow (row : Row) (defaults : Defaults) : Except RowFault Rule := do
  checkNesting [cell row "statusCode"]
  let path ← needed row "path"
  let host ← needed row "host"
  let version ← needed row "version"
  let target ← needed row "redirectURL"
  checkShown [target]
  checkNesting [cell row "utcStartTime", cell row "utcEndTime"]
  checkShown [cell row "operations", cell row "isRegex"]
  ruleOfFields (fieldsOfRow row defaults path host version target)

end

end Signpost.Sheet
