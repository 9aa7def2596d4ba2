import Signpost.Proofs.Shown
import Signpost.Sheet.Import

/-!
# Sheets converted to JSON

Comma-separated text is converted by writing its rows as a document.

## Main result

`importPayload_converted`: whatever can be read of comma-separated text is read from its document as
well, so that to import the document is to import the text.

## Proof strategy

The rows of a text have different columns with texts or nothing in them (`Tabular`), and a document
of such rows is one that is read back.
-/
namespace Signpost.Sheet

variable {row : Row} {rows : List Row} {text : String}

/-! ### Rows of comma-separated text -/

/-- A row as comma-separated text has it: its columns differ, and each holds a text or nothing. -/
structure Tabular (row : Row) : Prop where
  distinct : (row.map (·.1)).Nodup
  plain : ∀ field ∈ row, field.2 = .null ∨ ∃ text, field.2 = .text text

theorem Tabular.set (tabular : Tabular row) (column : String) {value : Value}
    (plain : value = .null ∨ ∃ text, value = .text text) :
    Tabular (Value.setField row column value) where
  distinct := by
    rw [Value.setField_eq_put]
    exact Operations.distinct_put tabular.distinct column value
  plain := by
    intro field member
    rw [Value.setField_eq_put] at member
    rcases Operations.mem_put member with kept | rfl
    · exact tabular.plain field kept
    · exact plain

theorem tabular_rowOf (columns : List String) (record : Csv.Record) :
    Tabular (rowOf columns record) := by
  have empty : Tabular [] := ⟨List.nodup_nil, fun _ member => absurd member List.not_mem_nil⟩
  have filled := List.foldlRecOn (columns.zip record) _ empty fun _ tabular named _ =>
    tabular.set named.1 (Or.inr ⟨named.2, rfl⟩)
  exact List.foldlRecOn _ _ filled fun _ tabular column _ => tabular.set column (Or.inl rfl)

theorem tabular_of_rowsOfCsv (read : rowsOfCsv text = .ok rows) : ∀ row ∈ rows, Tabular row := by
  unfold rowsOfCsv at read
  cases result : Csv.read (text.toList.dropWhile fun c => c.toNat == 0xFEFF) with
  | error fault =>
    rw [result] at read
    cases read
  | ok records =>
    rw [result] at read
    cases read
    intro row member
    cases records with
    | nil => cases member
    | cons columns records =>
      obtain ⟨record, _, rfl⟩ := List.mem_map.mp (List.mem_of_mem_filter member)
      exact tabular_rowOf columns record

/-! ### Their document -/

theorem Tabular.of_cons {field : String × Value} (tabular : Tabular (field :: row)) :
    Tabular row where
  distinct := (List.nodup_cons.mp tabular.distinct).2
  plain := fun other member => tabular.plain other (.tail _ member)

theorem Tabular.fieldsAreRegular (tabular : Tabular row) : Json.fieldsAreRegular row = true := by
  induction row with
  | nil => rfl
  | cons field row ih =>
    obtain ⟨name, value⟩ := field
    have new : name ∉ row.map (·.1) := (List.nodup_cons.mp tabular.distinct).1
    have regular : Json.isRegular value = true := by
      rcases tabular.plain (name, value) (.head _) with empty | ⟨text, same⟩
      · exact congrArg Json.isRegular empty
      · exact congrArg Json.isRegular same
    simp [Json.fieldsAreRegular, new, regular, ih tabular.of_cons]

theorem Tabular.nesting (tabular : Tabular row) : Json.nestingOfFields row = 0 := by
  induction row with
  | nil => rfl
  | cons field row ih =>
    obtain ⟨name, value⟩ := field
    have flat : Json.nesting value = 0 := by
      rcases tabular.plain (name, value) (.head _) with empty | ⟨text, same⟩
      · exact congrArg Json.nesting empty
      · exact congrArg Json.nesting same
    simp [Json.nestingOfFields, flat, ih tabular.of_cons]

theorem areRegular_rows (tabular : ∀ row ∈ rows, Tabular row) :
    Json.areRegular (rows.map .object) = true := by
  induction rows with
  | nil => rfl
  | cons row rows ih =>
    have first : Json.isRegular (.object row) = true := (tabular row (.head _)).fieldsAreRegular
    have others := ih fun other member => tabular other (.tail _ member)
    rw [List.map_cons, Json.areRegular, first, others, Bool.and_self]

theorem nesting_rows (tabular : ∀ row ∈ rows, Tabular row) :
    Json.nestingOfItems (rows.map .object) ≤ 1 := by
  induction rows with
  | nil => exact Nat.zero_le _
  | cons row rows ih =>
    have first : Json.nesting (.object row) = 1 := by
      rw [Json.nesting, (tabular row (.head _)).nesting]
    have others := ih fun other member => tabular other (.tail _ member)
    rw [List.map_cons, Json.nestingOfItems, first]
    omega

section

variable [Platform]

/-- The document of rows with different columns that hold texts or nothing has these rows. -/
theorem rowsOfPayload_document (tabular : ∀ row ∈ rows, Tabular row) :
    rowsOfPayload (.text (Json.writeIndented (documentOf rows))) = .ok rows := by
  have regular : Json.isRegular (documentOf rows) = true := by
    have items := areRegular_rows tabular
    simp [documentOf, Json.isRegular, Json.fieldsAreRegular, items]
  have shallow : Json.nesting (documentOf rows) ≤ Platform.documentDepth := by
    have items := nesting_rows tabular
    have takes := Platform.takes_rows
    simp only [documentOf, Json.nesting, Json.nestingOfFields]
    omega
  exact rowsOfPayload_written regular shallow

/-- The rows of comma-separated text are those of its document, and so both are imported alike into
every rule base. -/
theorem importPayload_converted (read : rowsOfCsv text = .ok rows) :
    rowsOfPayload (.text (Json.writeIndented (documentOf rows))) = .ok rows ∧
      ∀ base defaults, importPayload base defaults (.text (Json.writeIndented (documentOf rows))) =
        importCsv base defaults text := by
  have same := rowsOfPayload_document (tabular_of_rowsOfCsv read)
  refine ⟨same, fun base defaults => ?_⟩
  simp only [importPayload, importCsv, same, read]

end

attribute [local instance] Platform.usual

/-- Quotes, a backslash, a character above sixteen bits and a column without a value come back from
the document. -/
theorem importPayload_converted_of_quotes :
    let rows : List Row :=
      [[("path", .text "/a"), ("redirectURL", .text "say \"hi\" \\ 🚀"), ("note", .null)]]
    rowsOfCsv "path,redirectURL,note\n/a,\"say \"\"hi\"\" \\ 🚀\"\n" = .ok rows ∧
      rowsOfPayload (.text (Json.writeIndented (documentOf rows))) = .ok rows ∧
      ∀ base defaults, importPayload base defaults (.text (Json.writeIndented (documentOf rows))) =
        importCsv base defaults "path,redirectURL,note\n/a,\"say \"\"hi\"\" \\ 🚀\"\n" := by
  intro rows
  have records : Csv.read ("path,redirectURL,note\n/a,\"say \"\"hi\"\" \\ 🚀\"\n".toList.dropWhile
      fun c => c.toNat == 0xFEFF) =
    .ok [["path", "redirectURL", "note"], ["/a", "say \"hi\" \\ 🚀"]] := by rfl
  have read : rowsOfCsv "path,redirectURL,note\n/a,\"say \"\"hi\"\" \\ 🚀\"\n" = .ok rows := by
    rw [rowsOfCsv, records]
    rfl
  exact ⟨read, importPayload_converted read⟩

end Signpost.Sheet
