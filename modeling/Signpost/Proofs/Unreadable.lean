import Mathlib.Data.List.Chain
import Signpost.Proofs.Course
import Signpost.Proofs.Depth

/-!
# Sheets that cannot be read

A payload that has no rows is reported, as long as its nesting is not too deep to be read, and nothing
is imported. Comma-separated text that cannot be read is not reported: its import ends in an error.
How deep is too deep, the platform says. Of payloads with texts that are none of characters nothing is
said here.

## Main result

`import_reports_iff`: an import into memory that can be searched gives a report if and only if the
text can be read or the fault of the payload is not its depth. Without rows, the rule base stays as it
was. Text of at most 131072 characters in which every carriage return stands before a line break or
at the end can always be read.

## Proof strategy

Rows that have been read are imported into memory with a report, since no row ends the import there
(`importRead_reports`). The reader of comma-separated text is taken along the text: where it stands
at a line break, the next symbol is one that it takes, and its field has no more characters than were
read (`read_of_tidy`).
-/
namespace Signpost.Sheet

open Store (Memory)

/-! ### Comma-separated text -/

namespace Csv

/-- The character breaks a line. -/
def BreaksLine (c : Char) : Prop :=
  c = '\n' ∨ c = '\r'

instance (c : Char) : Decidable (BreaksLine c) :=
  inferInstanceAs (Decidable (_ ∨ _))

/-- Every carriage return stands before a line break or at the end. -/
def Tidy (text : List Char) : Prop :=
  text.IsChain fun c next => c = '\r' → BreaksLine next

namespace State

variable {state : State} {c : Char}

/-- The field so far has room for more characters. -/
def HasRoom (state : State) (count : Nat) : Prop :=
  state.size + count ≤ fieldLimit

/-- A character that comes next is taken: where the state stands at a line break, it breaks a line. -/
def Takes (state : State) (c : Char) : Prop :=
  state.position = .lineBreak → BreaksLine c

/-- What a character leaves behind: at most one more character in the field, and a line break only
where it is one. -/
structure Leaves (state : State) (c : Char) (next : State) : Prop where
  size : next.size ≤ state.size + 1
  broken : next.position = .lineBreak → BreaksLine c

theorem HasRoom.mono {more fewer : Nat} (room : state.HasRoom more) (le : fewer ≤ more) :
    state.HasRoom fewer :=
  (Nat.add_le_add_left le _).trans room

theorem HasRoom.of_size_le {next : State} {count : Nat} (room : state.HasRoom count)
    (size : next.size ≤ state.size) : next.HasRoom count :=
  (Nat.add_le_add_right size _).trans room

theorem HasRoom.after {next : State} {count : Nat} (room : state.HasRoom (count + 1))
    (leaves : state.Leaves c next) : next.HasRoom count := by
  have size := leaves.size
  unfold HasRoom at room ⊢
  omega

theorem leaves_endField (position : Position) (broken : position = .lineBreak → BreaksLine c) :
    state.Leaves c (state.endField position) :=
  ⟨Nat.zero_le _, broken⟩

theorem exists_push {position : Position} (room : state.HasRoom 1) (c : Char)
    (inside : position ≠ .lineBreak) :
    ∃ next, state.push c position = .ok next ∧ state.Leaves c next :=
  ⟨_, if_pos room, Nat.le_refl _, fun broken => absurd broken inside⟩

theorem exists_begin (room : state.HasRoom 1) (c : Char) :
    ∃ next, state.begin (.char c) = .ok next ∧ state.Leaves c next := by
  simp only [begin]
  split
  next breaks => exact ⟨_, rfl, leaves_endField _ fun _ => breaks⟩
  · split
    · exact ⟨_, rfl, Nat.le_succ _, Position.noConfusion⟩
    · split
      · exact ⟨_, rfl, leaves_endField _ Position.noConfusion⟩
      · exact exists_push room c Position.noConfusion

/-- A character that may come next is read, as long as there is room for it. -/
theorem exists_step (room : state.HasRoom 1) (takes : state.Takes c) :
    ∃ next, state.step (.char c) = .ok next ∧ state.Leaves c next := by
  cases place : state.position with
  | recordStart =>
    simp only [step, place]
    split
    next breaks => exact ⟨_, rfl, Nat.le_succ _, fun _ => breaks⟩
    next => exact exists_begin room c
  | fieldStart =>
    simp only [step, place]
    exact exists_begin room c
  | plain =>
    simp only [step, place]
    split
    next breaks => exact ⟨_, rfl, leaves_endField _ fun _ => breaks⟩
    · split
      · exact ⟨_, rfl, leaves_endField _ Position.noConfusion⟩
      · exact exists_push room c Position.noConfusion
  | quoted =>
    simp only [step, place]
    split
    · exact ⟨_, rfl, Nat.le_succ _, Position.noConfusion⟩
    · exact exists_push room c Position.noConfusion
  | afterQuote =>
    simp only [step, place]
    split
    · exact exists_push room c Position.noConfusion
    · split
      · exact ⟨_, rfl, leaves_endField _ Position.noConfusion⟩
      · split
        next breaks => exact ⟨_, rfl, leaves_endField _ fun _ => breaks⟩
        next => exact exists_push room c Position.noConfusion
  | lineBreak =>
    have breaks : c = '\n' ∨ c = '\r' := takes place
    simp only [step, place, if_pos breaks]
    exact ⟨state, rfl, Nat.le_succ _, fun _ => breaks⟩

/-- The end of a line is always read; it puts no character into the field. -/
theorem exists_step_lineEnd (state : State) :
    ∃ next, state.step .lineEnd = .ok next ∧ next.size ≤ state.size ∧
      next.position ≠ .lineBreak := by
  cases place : state.position with
  | recordStart | lineBreak =>
    simp only [step, place]
    exact ⟨_, rfl, Nat.le_refl _, Position.noConfusion⟩
  | fieldStart | plain | afterQuote =>
    simp only [step, place]
    exact ⟨_, rfl, Nat.zero_le _, Position.noConfusion⟩
  | quoted =>
    simp only [step, place]
    exact ⟨_, rfl, Nat.le_refl _, by rw [place]; exact Position.noConfusion⟩

/-- Tidy text is read to its end, if its first character may come next and there is room for all of
it. -/
theorem exists_foldlM (text : List Char) (tidy : Tidy text) (room : state.HasRoom text.length)
    (takes : ∀ c ∈ text.head?, state.Takes c) :
    ∃ after, (symbols text).foldlM step state = .ok after := by
  fun_induction symbols text generalizing state with
  | case1 => exact ⟨state, rfl⟩
  | case2 c =>
    obtain ⟨mid, read, _⟩ := exists_step room (takes c rfl)
    obtain ⟨after, ended, _⟩ := mid.exists_step_lineEnd
    exact ⟨after, by simp only [List.foldlM_cons, read, ended, Bind.bind, Except.bind]; rfl⟩
  | case3 rest nonempty ih =>
    obtain ⟨mid, read, leaves⟩ := exists_step (room.mono (by simp)) (takes _ rfl)
    obtain ⟨next, ended, size, inside⟩ := mid.exists_step_lineEnd
    have left : next.HasRoom rest.length := (room.after leaves).of_size_le size
    obtain ⟨after, readAll⟩ :=
      ih (List.isChain_cons.mp tidy).2 left fun c _ broken => absurd broken inside
    exact ⟨after, by simp only [List.foldlM_cons, read, ended, Bind.bind, Except.bind, readAll]⟩
  | case4 c rest nonempty other ih =>
    obtain ⟨mid, read, leaves⟩ := exists_step (room.mono (by simp)) (takes _ rfl)
    obtain ⟨follows, tidy⟩ := List.isChain_cons.mp tidy
    -- A line break that is no line feed is a carriage return, which another line break follows.
    have takes : ∀ d ∈ rest.head?, mid.Takes d := fun d first broken =>
      follows d first ((leaves.broken broken).resolve_left other)
    obtain ⟨after, readAll⟩ := ih tidy (room.after leaves) takes
    exact ⟨after, by simp only [List.foldlM_cons, read, Bind.bind, Except.bind, readAll]⟩

end State

/-- Tidy text that is no longer than a field may be can be read. -/
theorem read_of_tidy {text : List Char} (tidy : Tidy text) (short : text.length ≤ fieldLimit) :
    ∃ records, read text = .ok records := by
  have room : ({} : State).HasRoom text.length := by simpa [State.HasRoom] using short
  obtain ⟨after, done⟩ := State.exists_foldlM text tidy room fun c _ => Position.noConfusion
  exact ⟨after.finish, by rw [read, done]; rfl⟩

end Csv

/-! ### Imports into memory -/

section

variable [Platform] {base : RuleBase} {m : Memory}

/-- The import gives a report. -/
def Reports (imported : RuleBase × Except Refusal Summary) : Prop :=
  ∃ after summary, imported = (after, .ok summary)

/-- Readable rows are imported into memory with a report. -/
theorem importRead_reports (stored : base.stores = .memory m)
    (searchable : base.allow .search = .ok ()) (defaults : Defaults) {rows : List Row}
    (readable : ∀ row ∈ rows, Readable row) : Reports (importRead base defaults rows) := by
  have held : base.stores.Holds ⟨m.rules, m.hosts, m.versions⟩ := stored ▸ .memory m
  have resolved := Resolve.resolveVersion_of_holds held .null defaults.version
  simp only [importRead, importRows, resolved]
  rcases importAfter_cases defaults _ {} base rows with
    ⟨fates, after, _, done⟩ | ⟨_, row, _, fates, mid, failure, _, rfl, course, breaks, _⟩
  · rw [done]
    exact ⟨after, _, rfl⟩
  · -- What the rows before it left in memory can still be searched.
    have allowed : mid.allow .search = .ok () := by
      rw [RuleBase.allow, course.faults]
      exact searchable
    exact absurd breaks
      (not_breaks_memory (course.memory stored) allowed (readable row (by simp)))

/-! ### The depth of a payload -/

/-- The code points of a payload that is read as a document. -/
def Payload.document? : Payload → Option (List Nat)
  | .text string | .value (.text string) => some (Text.codesOf string)
  | .value (.unpaired u) => some u.codes
  | .bytes encoded => (Text.decodeDetected encoded).toOption
  | .value _ => none

omit [Platform] in
theorem not_tooDeep_of_rowsOfItems {items : List Value} {fault : PayloadFault}
    (failed : rowsOfItems items = .error fault) : fault.isTooDeep = false := by
  fun_induction rowsOfItems items with
  | case1 => cases failed
  | case2 fields rest ih =>
    cases read : rowsOfItems rest with
    | ok rows =>
      rw [read] at failed
      cases failed
    | error other =>
      rw [read] at failed
      cases failed
      exact ih read
  | case3 =>
    cases failed
    rfl

omit [Platform] in
/-- A value that has no rows is of another kind, and not too deep. -/
theorem not_tooDeep_of_rowsOfValue {value : Value} {fault : PayloadFault}
    (failed : rowsOfValue value = .error fault) : fault.isTooDeep = false := by
  simp only [rowsOfValue] at failed
  split at failed
  · exact not_tooDeep_of_rowsOfItems failed
  · cases failed
    rfl

theorem not_tooDeep_of_document {codes : List Nat} {fault : PayloadFault}
    (few : Json.openings (Text.standIns codes) ≤ Platform.documentDepth)
    (failed : valueOfCodes codes >>= rowsOfValue = .error fault) : fault.isTooDeep = false := by
  cases read : Json.readCodes Platform.documentDepth codes with
  | ok value =>
    simp only [valueOfCodes, read] at failed
    exact not_tooDeep_of_rowsOfValue failed
  | error error =>
    simp only [valueOfCodes, read] at failed
    cases failed
    have shallow := Json.not_deep_of_openings few read
    cases error with
    | fault | longNumeral | unpairedName => rfl
    | deepList | deepObject => cases shallow

/-- A payload with no more opening brackets than there are levels that are read is not too deep. -/
theorem not_tooDeep_of_openings {payload : Payload} {fault : PayloadFault}
    (few : ∀ codes, payload.document? = some codes →
      Json.openings (Text.standIns codes) ≤ Platform.documentDepth)
    (failed : rowsOfPayload payload = .error fault) : fault.isTooDeep = false := by
  unfold rowsOfPayload at failed
  split at failed
  · exact not_tooDeep_of_document (few _ rfl) failed
  · exact not_tooDeep_of_document (few _ rfl) failed
  · exact not_tooDeep_of_rowsOfValue failed
  · exact not_tooDeep_of_document (few _ rfl) failed
  next bytes =>
    cases decoded : Text.decodeDetected bytes with
    | ok codes =>
      simp only [decoded] at failed
      have document : (Payload.bytes bytes).document? = some codes := by
        rw [Payload.document?, decoded]
        rfl
      exact not_tooDeep_of_document (few codes document) failed
    | error undecodable =>
      simp only [decoded] at failed
      cases failed
      rfl

/-! ### Imports with and without a report -/

theorem importCsv_reports_iff (stored : base.stores = .memory m)
    (searchable : base.allow .search = .ok ()) (defaults : Defaults) (text : String) :
    Reports (importCsv base defaults text) ↔ ∃ rows, rowsOfCsv text = .ok rows := by
  unfold importCsv
  cases read : rowsOfCsv text with
  | ok rows =>
    exact iff_of_true (importRead_reports stored searchable defaults fun _ => readable_of_csv read)
      ⟨rows, rfl⟩
  | error fault =>
    refine iff_of_false ?_ ?_
    · rintro ⟨after, summary, imported⟩
      cases imported
    · rintro ⟨rows, read⟩
      cases read

/-- What is told of a payload without rows is reported, unless it is too deep. -/
theorem importPayload_of_fault {payload : Payload} {fault : PayloadFault}
    (failed : rowsOfPayload payload = .error fault) (told : fault.isUnspoken = false)
    (base : RuleBase) (defaults : Defaults) :
    importPayload base defaults payload =
      (base, if fault.isTooDeep then .error (.payload fault)
        else .ok { errors := [fault.message] }) := by
  unfold importPayload
  rw [failed]
  simp only [told, Bool.or_false]
  split <;> rfl

theorem importPayload_reports_iff (stored : base.stores = .memory m)
    (searchable : base.allow .search = .ok ()) (defaults : Defaults) {payload : Payload}
    (written : payload.IsWritten) (paired : ArePaired (rowsOfPayload payload)) :
    Reports (importPayload base defaults payload) ↔
      ∀ fault, rowsOfPayload payload = .error fault → fault.isTooDeep = false := by
  cases read : rowsOfPayload payload with
  | ok rows =>
    rw [read] at paired
    have readable (row : Row) (member : row ∈ rows) : Readable row :=
      ⟨shown_of_rowsOfPayload written read member, paired row member⟩
    refine iff_of_true ?_ fun fault failed => by cases failed
    rw [importPayload, read]
    exact importRead_reports stored searchable defaults readable
  | error fault =>
    rw [read] at paired
    rw [importPayload_of_fault read paired]
    cases deep : fault.isTooDeep with
    | true =>
      refine iff_of_false ?_ fun shallow => ?_
      · rintro ⟨after, summary, imported⟩
        cases imported
      · cases deep.symm.trans (shallow fault rfl)
    | false =>
      refine iff_of_true ⟨base, { errors := [fault.message] }, rfl⟩ fun other same => ?_
      cases same
      exact deep

theorem importCsv_of_tidy (stored : base.stores = .memory m)
    (searchable : base.allow .search = .ok ()) (defaults : Defaults) {text : String}
    (tidy : Csv.Tidy text.toList) (short : text.toList.length ≤ Csv.fieldLimit) :
    Reports (importCsv base defaults text) := by
  have suffix := List.dropWhile_suffix (l := text.toList) fun c => c.toNat == 0xFEFF
  obtain ⟨records, read⟩ := Csv.read_of_tidy (tidy.suffix suffix) (suffix.length_le.trans short)
  refine (importCsv_reports_iff stored searchable defaults text).mpr ⟨rowsOfRecords records, ?_⟩
  rw [rowsOfCsv, read]
  rfl

/-- An import into memory that can be searched gives a report exactly if the comma-separated text can
be read, or the fault of the payload is not its depth. Where there are no rows, nothing is stored, and
a report says that something was wrong with the payload as a whole. Text in which every carriage return
stands before a line break or at the end, no longer than a field may be, leads to a report, and so does
a payload with no more opening brackets than there are levels that are read. -/
theorem import_reports_iff (stored : base.stores = .memory m)
    (searchable : base.allow .search = .ok ()) (defaults : Defaults) (text : String)
    {payload : Payload} (written : payload.IsWritten) (paired : ArePaired (rowsOfPayload payload)) :
    (Reports (importCsv base defaults text) ↔ ∃ rows, rowsOfCsv text = .ok rows) ∧
    (Reports (importPayload base defaults payload) ↔
      ∀ fault, rowsOfPayload payload = .error fault → fault.isTooDeep = false) ∧
    (∀ fault, rowsOfCsv text = .error fault → (importCsv base defaults text).1 = base) ∧
    (∀ fault, rowsOfPayload payload = .error fault →
      (importPayload base defaults payload).1 = base ∧
      ∀ summary, (importPayload base defaults payload).2 = .ok summary →
        summary.report.inserted = 0 ∧ summary.report.skipped = [] ∧ summary.errors ≠ []) ∧
    (Csv.Tidy text.toList → text.toList.length ≤ Csv.fieldLimit →
      Reports (importCsv base defaults text)) ∧
    ((∀ document, payload.document? = some document →
        Json.openings (Text.standIns document) ≤ Platform.documentDepth) →
      Reports (importPayload base defaults payload)) := by
  have reported := importPayload_reports_iff stored searchable defaults written paired
  refine ⟨importCsv_reports_iff stored searchable defaults text, reported, fun fault failed => ?_,
    fun fault failed => ?_, importCsv_of_tidy stored searchable defaults, fun few => ?_⟩
  · rw [importCsv, failed]
  · rw [failed] at paired
    rw [importPayload_of_fault failed paired]
    refine ⟨rfl, fun summary given => ?_⟩
    split at given <;> cases given
    exact ⟨rfl, rfl, List.cons_ne_nil _ _⟩
  · exact reported.mpr fun fault failed => not_tooDeep_of_openings few failed

end

attribute [local instance] Platform.usual

/-- A carriage return within a field ends the import of comma-separated text in an error. -/
theorem importCsv_breaks_on_carriage_return :
    let base : RuleBase := { stores := .memory {} }
    importCsv base {} "path,redirectURL\n/a\rb,/c\n" = (base, .error (.csv .strayLineBreak)) ∧
      ¬ Reports (importCsv base {} "path,redirectURL\n/a\rb,/c\n") := by
  intro base
  have failed : importCsv base {} "path,redirectURL\n/a\rb,/c\n" =
      (base, .error (.csv .strayLineBreak)) := by rfl
  refine ⟨failed, ?_⟩
  rintro ⟨after, summary, imported⟩
  cases failed.symm.trans imported

/-- Rows for a store in memory that holds a rule of the same key, and an object without rows. -/
theorem import_reports_on_duplicate :
    let old : Rule := ⟨some "a", "/a", "", 0, "/to", 301, none, none, none, false, none⟩
    let base : RuleBase := { stores := .memory { rules := [old] } }
    base.stores = .memory { rules := [old] } ∧ base.allow .search = .ok () ∧
      Payload.IsWritten (.text "[[[\x7b") ∧ ArePaired (rowsOfPayload (.text "[[[\x7b")) ∧
      Reports (importCsv base {} "path,redirectURL\r\n/a,\"/\rb\"\n") ∧
      Reports (importPayload base {} (.text "[[[\x7b")) := by
  intro old base
  have stored : base.stores = .memory { rules := [old] } := rfl
  have searchable : base.allow .search = .ok () := rfl
  have written : Payload.IsWritten (.text "[[[\x7b") := trivial
  have paired : ArePaired (rowsOfPayload (.text "[[[\x7b")) := by decide +kernel
  obtain ⟨csv, _, _, _, _, json⟩ := import_reports_iff stored searchable {}
    "path,redirectURL\r\n/a,\"/\rb\"\n" written paired
  refine ⟨stored, searchable, written, paired, csv.mpr ⟨_, rfl⟩, json fun document same => ?_⟩
  cases same
  decide

end Signpost.Sheet
