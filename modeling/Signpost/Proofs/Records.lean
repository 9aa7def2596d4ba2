import Mathlib.Data.List.Forall2
import Signpost.Proofs.Fields
import Signpost.Sheet.Rows

/-!
# Sheets that are written and read

A sheet is written with its names in quotes and one line for each record. A field that would be cut or
end its line is put in quotes, and any other may be. Lines end with a line feed, with or without a
carriage return in front of it.

## Main result

`rowsOfCsv_of_written`: however a sheet is written in this way, its rows are read from it: one for each
record with a field under some name that is not blank, in order.

## Proof strategy

The end of a line is no character of the text. It is taken together with the line feed in front of it
(`State.take`), so that the reader runs over the characters alone, and over pieces of the text one after
the other (`Runs`). A field leads from its start to where it may be ended (`runs_field`), a line from the
start of a record to the next (`runs_line`). Only a line without characters is read in another way than
it was written: an empty field alone in its record is read as no field. Either record has no row.
-/
namespace Signpost.Sheet.Csv

/-! ### Writing -/

/-- The characters of a field as they stand between quotes. -/
def doubled (field : List Char) : List Char :=
  field.flatMap fun c => if c = '"' then ['"', '"'] else [c]

def quoted (field : String) : List Char :=
  '"' :: (doubled field.toList ++ ['"'])

/-- A character that a field has only in quotes. -/
def NeedsQuotes (c : Char) : Prop :=
  c = ',' ∨ c = '"' ∨ c = '\n' ∨ c = '\r'

instance : DecidablePred NeedsQuotes :=
  fun c => inferInstanceAs (Decidable (c = ',' ∨ c = '"' ∨ c = '\n' ∨ c = '\r'))

inductive WritesField (field : String) : List Char → Prop
  | quoted : WritesField field (quoted field)
  | bare (plain : ∀ c ∈ field.toList, ¬ NeedsQuotes c) : WritesField field field.toList

inductive EndsLine : List Char → Prop
  | feed : EndsLine ['\n']
  | returnAndFeed : EndsLine ['\r', '\n']

inductive WritesRecord : Record → List Char → Prop
  | intro {record : Record} {parts : List (List Char)} {ending : List Char}
    (fields : List.Forall₂ WritesField record parts) (ends : EndsLine ending) :
    WritesRecord record (Text.join ',' parts ++ ending)

/-- A line with the names, all of them in quotes, and a line for each record. -/
inductive WritesSheet (names : List String) (records : List Record) : List Char → Prop
  | intro {ending : List Char} {lines : List (List Char)} (ends : EndsLine ending)
    (behind : List.Forall₂ WritesRecord records lines) :
    WritesSheet names records (Text.join ',' (names.map quoted) ++ ending ++ lines.flatten)

variable {c : Char} {field : String} {chars text ending : List Char} {record fields : List String}
  {parts lines : List (List Char)} {records before : List Record} {position : Position}

/-- Only the empty field is written without characters. -/
theorem WritesField.eq_empty (writes : WritesField field []) : field = "" := by
  generalize empty : ([] : List Char) = text at writes
  cases writes with
  | quoted => cases empty
  | bare => exact String.toList_eq_nil_iff.mp empty.symm

theorem WritesField.head (writes : WritesField field text) :
    ∀ c ∈ text.head?, c ≠ '\n' ∧ c ≠ '\r' := by
  intro c first
  cases writes with
  | quoted =>
    obtain rfl : '"' = c := Option.some.inj first
    decide
  | bare plain =>
    have free := plain c (List.mem_of_mem_head? first)
    simp only [NeedsQuotes, not_or] at free
    exact free.2.2

theorem head_join (written : List.Forall₂ WritesField record parts) :
    ∀ c ∈ (Text.join ',' parts).head?, c ≠ '\n' ∧ c ≠ '\r' := by
  cases written with
  | nil => simp [Text.join]
  | @cons field part record parts writes behind =>
    cases behind with
    | nil => exact writes.head
    | cons =>
      cases part with
      | nil => simp [Text.join]
      | cons c rest => simpa [Text.join] using writes.head

/-! ### Reading, a character at a time -/

/-- Where the field may be ended that the reader is in. -/
def Position.endsField : Position → Bool
  | .fieldStart | .plain | .afterQuote => true
  | .recordStart | .quoted | .lineBreak => false

namespace State

/-- A character, and the end of its line if it ends one. -/
def take (state : State) (c : Char) : Except Fault State :=
  (state.step (.char c)).bind fun next => if c = '\n' then next.step .lineEnd else .ok next

/-- The reader in a field of which it has read the characters, the last one first. -/
def inField (position : Position) (chars : List Char) (fields : List String)
    (records : List Record) : State :=
  { position, chars, size := chars.length, fields, records }

end State

open State

/-- The reader takes the text, and it gets from the one state to the other. -/
inductive Runs : State → List Char → State → Prop
  | nil (state : State) : Runs state [] state
  | cons {state next last : State} {c : Char} {rest : List Char} (first : state.take c = .ok next)
    (behind : Runs next rest last) : Runs state (c :: rest) last

variable {state next last : State}

theorem Runs.append {more : List Char} (runs : Runs state text next)
    (behind : Runs next more last) : Runs state (text ++ more) last := by
  induction runs with
  | nil => exact behind
  | cons first _ ih => exact .cons first (ih behind)

theorem Runs.concat (runs : Runs state text next) (closing : next.take c = .ok last) :
    Runs state (text ++ [c]) last :=
  runs.append (.cons closing (.nil last))

theorem foldlM_symbols_cons (goesOn : c = '\n' ∨ text ≠ []) (state : State) :
    (symbols (c :: text)).foldlM step state =
      (state.take c).bind fun next => (symbols text).foldlM step next := by
  have split : symbols (c :: text) =
      .char c :: if c = '\n' then .lineEnd :: symbols text else symbols text := by
    cases text with
    | nil =>
      obtain rfl : c = '\n' := goesOn.resolve_right fun some => some rfl
      rfl
    | cons d rest =>
      rw [symbols.eq_3 c (d :: rest) (by simp)]
      by_cases ends : c = '\n' <;> simp [ends]
  rw [split, List.foldlM_cons, take]
  cases state.step (.char c) with
  | error fault => rfl
  | ok next => by_cases ends : c = '\n' <;> simp [ends, Bind.bind, Except.bind]

/-- Whole lines lead the reader on to what is behind them. -/
theorem Runs.foldlM_symbols (runs : Runs state text next)
    (ends : text = [] ∨ text.getLast? = some '\n') (rest : List Char) :
    (symbols (text ++ rest)).foldlM step state = (symbols rest).foldlM step next := by
  induction runs with
  | nil => rfl
  | @cons state next last c behind first runs ih =>
    have last : (c :: behind).getLast? = some '\n' := ends.resolve_left (List.cons_ne_nil _ _)
    cases behind with
    | nil =>
      obtain rfl : c = '\n' := Option.some.inj last
      rw [List.cons_append, foldlM_symbols_cons (Or.inl rfl), first]
      exact ih (Or.inl rfl)
    | cons d more =>
      rw [List.getLast?_cons_cons] at last
      rw [List.cons_append, foldlM_symbols_cons (Or.inr (by simp)), first]
      exact ih (Or.inr last)

/-! ### Fields -/

theorem push_inField (position next : Position) (short : chars.length < fieldLimit) :
    (inField position chars fields records).push c next =
      .ok (inField next (c :: chars) fields records) :=
  if_pos short

theorem take_quoted (other : c ≠ '"') (short : chars.length < fieldLimit) :
    (inField .quoted chars fields records).take c =
      .ok (inField .quoted (c :: chars) fields records) := by
  have pushed : (inField .quoted chars fields records).step (.char c) =
      .ok (inField .quoted (c :: chars) fields records) := by
    simp only [step, inField, other, if_false]
    exact push_inField .quoted .quoted short
  rw [take, pushed]
  -- A line may end in quotes, and the field goes on.
  by_cases ends : c = '\n' <;> simp [ends, Except.bind, step, inField]

theorem take_secondQuote (short : chars.length < fieldLimit) :
    (inField .afterQuote chars fields records).take '"' =
      .ok (inField .quoted ('"' :: chars) fields records) := by
  have pushed : (inField .afterQuote chars fields records).step (.char '"') =
      .ok (inField .quoted ('"' :: chars) fields records) :=
    push_inField .afterQuote .quoted short
  rw [take, pushed]
  rfl

theorem take_plain (plain : ¬ NeedsQuotes c) (short : chars.length < fieldLimit)
    (here : position = .plain ∨ position = .fieldStart) :
    (inField position chars fields records).take c =
      .ok (inField .plain (c :: chars) fields records) := by
  simp only [NeedsQuotes, not_or] at plain
  have pushed : (inField position chars fields records).step (.char c) =
      .ok (inField .plain (c :: chars) fields records) := by
    rw [← push_inField position .plain short]
    rcases here with rfl | rfl
    · simp [step, inField, plain]
    · simp [step, begin, inField, plain]
  rw [take, pushed]
  exact if_neg plain.2.2.1

theorem runs_doubled (short : chars.length + text.length ≤ fieldLimit) :
    Runs (inField .quoted chars fields records) (doubled text)
      (inField .quoted (text.reverse ++ chars) fields records) := by
  induction text generalizing chars with
  | nil => exact .nil _
  | cons c rest ih =>
    rw [List.length_cons] at short
    have here : chars.length < fieldLimit := by omega
    have behind := @ih (c :: chars) (by rw [List.length_cons]; omega)
    rw [List.reverse_cons, List.append_assoc, List.singleton_append, doubled, List.flatMap_cons]
    by_cases quote : c = '"'
    · subst quote
      have first : (inField .quoted chars fields records).take '"' =
          .ok (inField .afterQuote chars fields records) := rfl
      exact .cons first (.cons (take_secondQuote here) behind)
    · rw [if_neg quote]
      exact .cons (take_quoted quote here) behind

theorem runs_plain (plain : ∀ c ∈ text, ¬ NeedsQuotes c)
    (short : chars.length + text.length ≤ fieldLimit) :
    Runs (inField .plain chars fields records) text
      (inField .plain (text.reverse ++ chars) fields records) := by
  induction text generalizing chars with
  | nil => exact .nil _
  | cons c rest ih =>
    rw [List.length_cons] at short
    obtain ⟨first, others⟩ := List.forall_mem_cons.mp plain
    have behind := @ih (c :: chars) others (by rw [List.length_cons]; omega)
    rw [List.reverse_cons, List.append_assoc, List.singleton_append]
    exact .cons (take_plain first (by omega) (Or.inl rfl)) behind

/-- A field that is written in either way leads from its start to where it may be ended. -/
theorem runs_field (writes : WritesField field text) (short : field.length ≤ fieldLimit)
    (fields : List String) (records : List Record) :
    ∃ position, position.endsField = true ∧
      Runs (inField .fieldStart [] fields records) text
        (inField position field.toList.reverse fields records) := by
  have counted : field.toList.length ≤ fieldLimit := short
  cases writes with
  | quoted =>
    have inside : Runs (inField .quoted [] fields records) (doubled field.toList)
        (inField .quoted field.toList.reverse fields records) := by
      have runs := @runs_doubled [] field.toList fields records (by simpa using counted)
      rwa [List.append_nil] at runs
    exact ⟨.afterQuote, rfl, .cons rfl (inside.concat rfl)⟩
  | bare plain =>
    cases chars : field.toList with
    | nil => exact ⟨.fieldStart, rfl, .nil _⟩
    | cons c rest =>
      rw [chars, List.length_cons] at counted
      rw [chars] at plain
      obtain ⟨first, others⟩ := List.forall_mem_cons.mp plain
      have behind := @runs_plain [c] rest fields records others (by simpa [Nat.add_comm] using counted)
      rw [List.reverse_cons]
      exact ⟨.plain, rfl, .cons (take_plain first (by decide) (Or.inr rfl)) behind⟩

theorem take_comma (here : position.endsField = true) :
    (inField position chars fields records).take ',' =
      .ok (inField .fieldStart [] (String.ofList chars.reverse :: fields) records) := by
  cases position <;> first | rfl | cases here

theorem runs_ending (here : state.position.endsField = true) (ends : EndsLine ending) :
    Runs state ending (state.endField .recordStart).endRecord := by
  obtain ⟨position, chars, size, fields, records⟩ := state
  cases ends with
  | feed => cases position <;> first | exact .cons rfl (.nil _) | cases here
  | returnAndFeed => cases position <;> first | exact .cons rfl (.cons rfl (.nil _)) | cases here

/-! ### Lines -/

/-- The fields of a line from its second on are read behind those that came before. -/
theorem runs_fields (written : List.Forall₂ WritesField record parts) (some : record ≠ [])
    (short : ∀ field ∈ record, field.length ≤ fieldLimit) (ends : EndsLine ending)
    (fields : List String) (records : List Record) :
    Runs (inField .fieldStart [] fields records) (Text.join ',' parts ++ ending)
      (inField .recordStart [] [] ((fields.reverse ++ record) :: records)) := by
  induction written generalizing fields with
  | nil => exact absurd rfl some
  | @cons field part record parts writes behind ih =>
    obtain ⟨shortFirst, shortOthers⟩ := List.forall_mem_cons.mp short
    obtain ⟨position, here, runs⟩ := runs_field writes shortFirst fields records
    cases behind with
    | nil =>
      have last := runs.append (runs_ending here ends)
      simpa [Text.join, endField, endRecord, inField] using last
    | @cons second next others more =>
      have comma := runs.concat (take_comma here)
      rw [List.reverse_reverse, String.ofList_toList] at comma
      have rest := ih (List.cons_ne_nil _ _) shortOthers (field :: fields)
      simpa [Text.join] using comma.append rest

theorem runs_emptyLine (ends : EndsLine ending) (records : List Record) :
    Runs (inField .recordStart [] [] records) ending
      (inField .recordStart [] [] ([] :: records)) := by
  cases ends with
  | feed => exact .cons rfl (.nil _)
  | returnAndFeed => exact .cons rfl (.cons rfl (.nil _))

/-- Only the end of a line is taken at the start of a record in another way than at that of a field. -/
theorem take_recordStart (here : state.position = .recordStart) (solid : c ≠ '\n' ∧ c ≠ '\r') :
    state.take c = { state with position := .fieldStart : State }.take c := by
  have same : state.step (.char c) = { state with position := .fieldStart : State }.step (.char c) := by
    simp only [step, begin, here, solid, or_self, if_false]
    rfl
  rw [take, take, same]

/-- The record is read as it was written, unless it is one empty field, which may be read as none. -/
def ReadAs (record read : Record) : Prop :=
  read = record ∨ record = [""] ∧ read = []

theorem runs_someLine (written : List.Forall₂ WritesField record parts)
    (some : Text.join ',' parts ≠ []) (short : ∀ field ∈ record, field.length ≤ fieldLimit)
    (ends : EndsLine ending) (records : List Record) :
    Runs (inField .recordStart [] [] records) (Text.join ',' parts ++ ending)
      (inField .recordStart [] [] (record :: records)) := by
  have fields : record ≠ [] := by
    rintro rfl
    cases written
    exact some rfl
  have line := runs_fields written fields short ends [] records
  have solid := head_join written
  obtain ⟨c, rest, joined⟩ := List.exists_cons_of_ne_nil some
  rw [joined] at line solid ⊢
  cases line with
  | cons first behind => exact .cons ((take_recordStart rfl (solid c rfl)).trans first) behind

theorem runs_line (writes : WritesRecord record text)
    (short : ∀ field ∈ record, field.length ≤ fieldLimit) (records : List Record) :
    ∃ read, ReadAs record read ∧
      Runs (inField .recordStart [] [] records) text
        (inField .recordStart [] [] (read :: records)) := by
  obtain @⟨parts, ending, written, ends⟩ := writes
  by_cases empty : Text.join ',' parts = []
  · rw [empty]
    refine ⟨[], ?_, runs_emptyLine ends records⟩
    cases written with
    | nil => exact Or.inl rfl
    | @cons field part record parts writes behind =>
      cases behind with
      | nil =>
        obtain rfl : part = [] := empty
        exact Or.inr ⟨by rw [writes.eq_empty], rfl⟩
      | cons => simp [Text.join] at empty
  · exact ⟨record, Or.inl rfl, runs_someLine written empty short ends records⟩

theorem getLast?_of_endsLine (ends : EndsLine ending) (front : List Char) :
    (front ++ ending).getLast? = some '\n' := by
  cases ends <;> simp

theorem WritesRecord.getLast? (writes : WritesRecord record text) : text.getLast? = some '\n' := by
  obtain @⟨parts, ending, _, ends⟩ := writes
  exact getLast?_of_endsLine ends _

theorem foldlM_lines (written : List.Forall₂ WritesRecord records lines)
    (short : ∀ record ∈ records, ∀ field ∈ record, field.length ≤ fieldLimit)
    (before : List Record) :
    ∃ reads, List.Forall₂ ReadAs records reads ∧
      (symbols lines.flatten).foldlM step (inField .recordStart [] [] before) =
        .ok (inField .recordStart [] [] (reads.reverse ++ before)) := by
  induction written generalizing before with
  | nil => exact ⟨[], .nil, rfl⟩
  | @cons record line records lines writes _ ih =>
    obtain ⟨shortFirst, shortOthers⟩ := List.forall_mem_cons.mp short
    obtain ⟨read, same, runs⟩ := runs_line writes shortFirst before
    obtain ⟨reads, sameBehind, folded⟩ := ih shortOthers (read :: before)
    refine ⟨read :: reads, .cons same sameBehind, ?_⟩
    rw [List.flatten_cons, runs.foldlM_symbols (Or.inr writes.getLast?), folded]
    simp

theorem WritesSheet.exists_cons {names : List String} (writes : WritesSheet names records text)
    (some : names ≠ []) : ∃ rest, text = '"' :: rest := by
  obtain @⟨ending, lines, _, _⟩ := writes
  cases names with
  | nil => exact absurd rfl some
  | cons name rest => cases rest <;> exact ⟨_, rfl⟩

theorem runs_names {names : List String} (some : names ≠ [])
    (short : ∀ name ∈ names, name.length ≤ fieldLimit) (ends : EndsLine ending) :
    Runs (inField .recordStart [] [] []) (Text.join ',' (names.map quoted) ++ ending)
      (inField .recordStart [] [] [names]) := by
  have written (names : List String) : List.Forall₂ WritesField names (names.map quoted) := by
    induction names with
    | nil => exact .nil
    | cons name rest ih => exact .cons .quoted ih
  refine runs_someLine (written names) ?_ short ends []
  -- There are quotes in the line, so it is read as it stands.
  cases names with
  | nil => exact absurd rfl some
  | cons name rest => cases rest <;> simp [Text.join, quoted]

/-- The names are read as they are, and each record as it was written or as none. -/
theorem read_of_written {names : List String} (some : names ≠ [])
    (short : ∀ record ∈ names :: records, ∀ field ∈ record, field.length ≤ fieldLimit)
    (writes : WritesSheet names records text) :
    ∃ reads, List.Forall₂ ReadAs records reads ∧ read text = .ok (names :: reads) := by
  obtain @⟨ending, lines, ends, behind⟩ := writes
  obtain ⟨shortNames, shortRecords⟩ := List.forall_mem_cons.mp short
  have header := runs_names some shortNames ends
  obtain ⟨reads, same, folded⟩ := foldlM_lines behind shortRecords [names]
  refine ⟨reads, same, ?_⟩
  have start : ({} : State) = inField .recordStart [] [] [] := rfl
  rw [read, start, header.foldlM_symbols (Or.inr (getLast?_of_endsLine ends _)), folded]
  simp [Except.map, finish, inField]

end Signpost.Sheet.Csv

namespace Signpost.Sheet

open Csv (Record)

variable {names : List String} {record : Record} {records : List Record}

/-- The record has a field under some name, and that is not blank. -/
def hasContent (names : List String) (record : Record) : Bool :=
  (record.take names.length).any fun field => !Text.isBlankText field

/-- The fields of a record under the names; where it is too short, there is no value. -/
def mapping (names : List String) (record : Record) : Row :=
  names.mapIdx fun place name => (name, .ofOption .text record[place]?)

theorem mapping_cons (name : String) (names : List String) (record : Record) :
    mapping (name :: names) record =
      (name, .ofOption .text record.head?) :: mapping names record.tail := by
  cases record <;> simp [mapping, List.mapIdx_cons]

theorem names_mapping (names : List String) (record : Record) :
    (mapping names record).map (·.1) = names := by
  induction names generalizing record with
  | nil => rfl
  | cons name names ih => rw [mapping_cons, List.map_cons, ih]

theorem foldl_mapping (names : List String) (record : Record) (row : Row) :
    (names.drop record.length).foldl (fun row column => Value.setField row column .null)
        ((names.zip record).foldl (fun row (column, field) => Value.setField row column (.text field))
          row) =
      (mapping names record).foldl (fun row entry => Value.setField row entry.1 entry.2) row := by
  induction names generalizing record row with
  | nil => simp [mapping]
  | cons name names ih =>
    rw [mapping_cons, List.foldl_cons, ← ih]
    cases record <;> simp [Value.ofOption]

/-- Names that differ are in the row of a record one behind the other. -/
theorem rowOf_eq_mapping (distinct : names.Nodup) (record : Record) :
    rowOf names record = mapping names record := by
  have entries := Operations.foldl_of_appends [] (mapping names record)
    (by rwa [List.nil_append, names_mapping])
    (fun entry _ row new => (Value.setField_eq_put row entry.1 entry.2).trans
      (Operations.put_of_new new entry.2))
  rw [rowOf, foldl_mapping, entries, List.nil_append]

theorem isBlankRow_mapping (names : List String) (record : Record) :
    isBlankRow (mapping names record) = !hasContent names record := by
  induction names generalizing record with
  | nil => simp [mapping, isBlankRow, hasContent]
  | cons name names ih =>
    have behind := ih record.tail
    rw [mapping_cons]
    cases record with
    | nil => simpa [isBlankRow, hasContent, Value.ofOption, Value.isBlank] using behind
    | cons field rest =>
      simp only [isBlankRow, List.all_cons] at behind ⊢
      rw [List.tail_cons] at behind ⊢
      rw [behind]
      simp [hasContent, Value.ofOption, Value.isBlank]

/-- Records that are read as they were written, or as none if that has no content, have the rows of the
records with content. -/
theorem rowsOfRecords_of_readAs {reads : List Record} (distinct : names.Nodup)
    (same : List.Forall₂ Csv.ReadAs records reads) :
    rowsOfRecords (names :: reads) = (records.filter (hasContent names)).map (mapping names) := by
  have none : hasContent names [] = false := by simp [hasContent]
  have empty : hasContent names [""] = false := by
    cases names <;> simp [hasContent, Text.isBlankText]
  rw [rowsOfRecords]
  induction same with
  | nil => rfl
  | @cons record read records reads readAs _ ih =>
    rcases readAs with rfl | ⟨rfl, rfl⟩
    · cases read with
      | nil => simpa [none] using ih
      | cons field rest =>
        have blank := isBlankRow_mapping names (field :: rest)
        rw [List.filter_cons_of_pos (by simp), List.map_cons, rowOf_eq_mapping distinct]
        cases content : hasContent names (field :: rest) with
        | false =>
          rw [List.filter_cons_of_neg (by simp [blank, content]),
            List.filter_cons_of_neg (by simp [content]), ih]
        | true =>
          rw [List.filter_cons_of_pos (by simp [blank, content]),
            List.filter_cons_of_pos (by simp [content]), ih, List.map_cons]
    · simpa [empty] using ih

/-- Written in any of these ways, a sheet with names that differ and no field over the limit has one row
for each record that has content, in order. -/
theorem rowsOfCsv_of_written {text : String} (some : names ≠ []) (distinct : names.Nodup)
    (short : ∀ record ∈ names :: records, ∀ field ∈ record, field.length ≤ Csv.fieldLimit)
    (written : Csv.WritesSheet names records text.toList) :
    rowsOfCsv text = .ok ((records.filter (hasContent names)).map (mapping names)) := by
  obtain ⟨reads, same, read⟩ := Csv.read_of_written some short written
  have start : text.toList.dropWhile (fun c => c.toNat == 0xFEFF) = text.toList := by
    obtain ⟨rest, quote⟩ := written.exists_cons some
    rw [quote, List.dropWhile_cons_of_neg (by decide)]
  rw [rowsOfCsv, start, read, Except.map, rowsOfRecords_of_readAs distinct same]

/-- A field spans two lines and has commas and quotes. Of the other records one has no fields, one is too
short, one has a field that is not blank but no name for it, one has an empty field, and one has more
fields than there are names. -/
theorem rowsOfCsv_of_written_lines :
    let names := ["path", "a \"b\", c"]
    let records := [["/x", "1,\"2\"\n3"], [], ["/y"], [" ", "", "z"], [""], ["/z", "é", "more"]]
    let text := "\"path\",\"a \"\"b\"\", c\"\r\n/x,\"1,\"\"2\"\"\n3\"\n\n\"/y\"\r\n" ++
      " ,,z\n\r\n/z,é,more\n"
    names ≠ [] ∧ names.Nodup ∧
      (∀ record ∈ names :: records, ∀ field ∈ record, field.length ≤ Csv.fieldLimit) ∧
      Csv.WritesSheet names records text.toList ∧
      rowsOfCsv text = .ok [[("path", .text "/x"), ("a \"b\", c", .text "1,\"2\"\n3")],
        [("path", .text "/y"), ("a \"b\", c", .null)],
        [("path", .text "/z"), ("a \"b\", c", .text "é")]] := by
  intro names records text
  have some : names ≠ [] := List.cons_ne_nil _ _
  have distinct : names.Nodup := by decide
  have short : ∀ record ∈ names :: records, ∀ field ∈ record, field.length ≤ Csv.fieldLimit := by
    decide
  have bare (field : String) (plain : field.toList.all (¬ Csv.NeedsQuotes ·) = true) :
      Csv.WritesField field field.toList :=
    .bare (by simpa using plain)
  obtain ⟨_, written, rfl⟩ : ∃ written, Csv.WritesSheet names records written ∧
      written = text.toList := by
    refine ⟨_, .intro .returnAndFeed (.cons (.intro (.cons (bare "/x" ?_) (.cons .quoted .nil)) .feed)
      (.cons (.intro .nil .feed) (.cons (.intro (.cons .quoted .nil) .returnAndFeed)
      (.cons (.intro (.cons (bare " " ?_) (.cons (bare "" ?_) (.cons (bare "z" ?_) .nil))) .feed)
      (.cons (.intro (.cons (bare "" ?_) .nil) .returnAndFeed)
      (.cons (.intro (.cons (bare "/z" ?_) (.cons (bare "é" ?_) (.cons (bare "more" ?_) .nil)))
        .feed) .nil)))))), ?_⟩
    all_goals decide
  exact ⟨some, distinct, short, written, rowsOfCsv_of_written some distinct short written⟩

end Signpost.Sheet
