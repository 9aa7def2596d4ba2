import Signpost.Resolve.Request
import Signpost.Sheet.Entry

/-!
# Importing sheets

The rows of a sheet are taken in order. A row is skipped, with a reason, if it cannot become a rule,
if a rule with its path, host and version is stored already, or if the store refuses it; else its
rule is inserted. A store that cannot be searched ends the import, and so does a cell whose text is
needed and cannot be had; what was inserted stays.
-/
namespace Signpost.Sheet

open Store (Failure)

/-- A row that was not inserted, with the reason. -/
structure Skip where
  reason : String
  item : Row
  deriving Repr, Inhabited

/-- What came of a sheet: the number of rules inserted and the rows skipped, in order. -/
structure Report where
  inserted : Nat := 0
  skipped : List Skip := []
  deriving Repr, Inhabited

/-- What came of a row. -/
inductive Outcome
  | inserted
  | skipped (skip : Skip)
  deriving Repr, Inhabited

/-- The report with what came of one more row. -/
def Report.add (report : Report) : Outcome → Report
  | .inserted => { report with inserted := report.inserted + 1 }
  | .skipped skip => { report with skipped := report.skipped ++ [skip] }

/-- What is said at the end of an import. -/
def Report.message (report : Report) : String :=
  "Successfully loaded " ++ Number.decimal report.inserted ++ " redirects."

/-- Why a row that passed the checks has no place in the store. -/
def RowFault.message : RowFault → String
  | noColumn name => Text.quoted name
  | url malformed => malformed.message
  | unshown why => why.message
  | invalid _ => "the row is no rule"
  | unpaired _ | unspoken => Failure.unspoken.message

/-- The failure by which a row ends the import before its key is known. A cell that has no text for the
number of its digits is taken for a path that is none. -/
def RowFault.beforeKey? : RowFault → Option Failure
  | unshown .tooDeep => some (.unshown .tooDeep)
  | unspoken => some .unspoken
  | _ => none

/-- The failure by which a row ends the import once its key is known. -/
def RowFault.behindKey? : RowFault → Option Failure
  | unshown why => some (.unshown why)
  | _ => none

/-- The cell that is asked for an integer before the row is skipped. -/
def SkipReason.asked (row : Row) : SkipReason → Value
  | versionNotInteger => cell row "version"
  | statusNotInteger => cell row "statusCode"
  | _ => .null

/-- The criteria by which a row's key is searched. -/
def keyCriteria (row : Row) : List Criterion :=
  ["path", "host", "version"].map fun name => .one (.equals name (cell row name))

/-- What came of a row whose rule is to be inserted, with its failure. -/
def settled (row : Row) : RuleBase × Except Failure α → RuleBase × Except Failure Outcome
  | (base, .ok _) => (base, .ok .inserted)
  | (base, .error failure) =>
    if failure.isOwn then (base, .ok (.skipped ⟨failure.message, row⟩)) else (base, .error failure)

section

variable [Platform]

/-- A row whose rule is inserted, unless its key is stored already or the store refuses it. -/
def importNormalized (base : RuleBase) (defaults : Defaults) (row : Row) :
    RuleBase × Except Failure Outcome :=
  match base.search (keyCriteria row) with
  | .error failure => (base, .error failure)
  | .ok (_ :: _) => (base, .ok (.skipped ⟨"Duplicate record", row⟩))
  | .ok [] =>
    match ruleOfRow row defaults with
    | .ok rule => settled row (base.insert rule)
    | .error (.unpaired fields) => settled row (base.insertFields fields)
    | .error fault =>
      match fault.behindKey? with
      | some failure => (base, .error failure)
      | none => (base, .ok (.skipped ⟨fault.message, row⟩))

/-- A row that is checked and normalized first. -/
def importRow (base : RuleBase) (defaults : Defaults) (version : Int) (row : Row) :
    RuleBase × Except Failure Outcome :=
  match skipReason? row with
  | some reason =>
    if isTooDeep (reason.asked row) then (base, .error (.unshown .tooDeep))
    else (base, .ok (.skipped ⟨reason.message, row⟩))
  | none =>
    match normalizeRow row version with
    | .ok normal => importNormalized base defaults normal
    | .error fault =>
      match fault.beforeKey? with
      | some failure => (base, .error failure)
      | none => (base, .ok (.skipped ⟨"invalid path: " ++ fault.message, row⟩))

/-- The rows after those of the report. -/
def importAfter (defaults : Defaults) (version : Int) (report : Report) (base : RuleBase) :
    List Row → RuleBase × Except Failure Report
  | [] => (base, .ok report)
  | row :: rest =>
    match importRow base defaults version row with
    | (base, .error failure) => (base, .error failure)
    | (base, .ok outcome) => importAfter defaults version (report.add outcome) base rest

/-- The rows of a sheet. Rows without a version get the active one, looked up once. -/
def importRows (base : RuleBase) (defaults : Defaults) (rows : List Row) :
    RuleBase × Except Failure Report :=
  match Resolve.resolveVersion base.stores .null defaults.version with
  | .error failure => (base, .error failure)
  | .ok version => importAfter defaults version {} base rows

end

/-- Why an import gives no report. -/
inductive Refusal
  | csv (fault : Csv.Fault)
  | payload (fault : PayloadFault)
  | store (failure : Failure)
  deriving Repr

/-- A report, with what was wrong with the sheet as a whole. -/
structure Summary where
  report : Report := {}
  errors : List String := []
  deriving Repr, Inhabited

variable [Platform]

/-- Rows that have been read. -/
def importRead (base : RuleBase) (defaults : Defaults) (rows : List Row) :
    RuleBase × Except Refusal Summary :=
  match importRows base defaults rows with
  | (base, .ok report) => (base, .ok { report })
  | (base, .error failure) => (base, .error (.store failure))

/-- A sheet in comma-separated text. -/
def importCsv (base : RuleBase) (defaults : Defaults) (text : String) :
    RuleBase × Except Refusal Summary :=
  match rowsOfCsv text with
  | .error fault => (base, .error (.csv fault))
  | .ok rows => importRead base defaults rows

/-- A sheet in JSON. What is wrong with it is reported, but for nesting too deep to be read. -/
def importPayload (base : RuleBase) (defaults : Defaults) (payload : Payload) :
    RuleBase × Except Refusal Summary :=
  match rowsOfPayload payload with
  | .error fault =>
    if fault.isTooDeep || fault.isUnspoken then (base, .error (.payload fault))
    else (base, .ok { errors := [fault.message] })
  | .ok rows => importRead base defaults rows

end Signpost.Sheet
