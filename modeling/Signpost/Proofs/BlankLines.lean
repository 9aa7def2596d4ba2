import Signpost.Proofs.Records

/-!
# Lines without characters

A sheet is a line with the names and lines with records. Quotes are closed on the line in which they are
opened, where a line is what ends in a line break outside quotes.

## Main result

`rowsOfCsv_spaced`: empty lines behind the names have no effect on the rows of a sheet. In front of the
names, one of them is taken for the names, and the sheet has no rows.

## Proof strategy

The reader never looks back at the records that it has read (`step_under`), and every line leads it to a
spot where a field may be ended (`leads_line`). So a text is read line by line (`read_of_lines`), each
line alone (`recordOf`). Only an empty line has a record without fields, and behind the names such
records are passed over (`filter_mapM_recordOf`).
-/
namespace Signpost.Sheet.Csv

/-- A character that neither ends a field nor a line. -/
def Ordinary (c : Char) : Prop :=
  c ≠ ',' ∧ c ≠ '\n' ∧ c ≠ '\r'

instance : DecidablePred Ordinary :=
  fun c => inferInstanceAs (Decidable (c ≠ ',' ∧ c ≠ '\n' ∧ c ≠ '\r'))

/-- What may stand between two commas. Quotes have a meaning only in front; once they are closed, the
field goes on without them. -/
inductive FieldText : List Char → Prop
  | bare {text : List Char} (ordinary : ∀ c ∈ text, Ordinary c) (unquoted : text.head? ≠ some '"') :
    FieldText text
  | quoted (inside : List Char) {behind : List Char} (ordinary : ∀ c ∈ behind, Ordinary c)
    (closed : behind.head? ≠ some '"') : FieldText ('"' :: (doubled inside ++ '"' :: behind))

/-- A line without its end. -/
inductive LineText : List Char → Prop
  | intro {parts : List (List Char)} (fields : ∀ part ∈ parts, FieldText part) :
    LineText (Text.join ',' parts)

/-- The text is made of these lines. The last of them may be without an end if it is not empty. -/
inductive Lines : List (List Char) → List Char → Prop
  | nil : Lines [] []
  | last {line : List Char} (filled : line ≠ []) : Lines [line] line
  | cons {line ending text : List Char} {lines : List (List Char)} (ends : EndsLine ending)
    (behind : Lines lines text) : Lines (line :: lines) (line ++ (ending ++ text))

variable {c : Char} {line text part rest ending : List Char} {parts lines : List (List Char)}
  {before : List Record} {state next : State} {position middle goal : Position} {symbol : Symbol}

/-! ### Earlier records -/

namespace State

/-- The state with earlier records. -/
def under (before : List Record) (state : State) : State :=
  { state with records := state.records ++ before }

theorem push_under :
    (state.under before).push c position = (state.push c position).map (under before) := by
  by_cases short : state.size < fieldLimit
  · rw [push, push, if_pos short, if_pos (show (state.under before).size < fieldLimit from short)]
    rfl
  · rw [push, push, if_neg short, if_neg (show ¬ (state.under before).size < fieldLimit from short)]
    rfl

theorem begin_under :
    (state.under before).begin symbol = (state.begin symbol).map (under before) := by
  cases symbol with
  | lineEnd => rfl
  | char c =>
    simp only [begin, push_under]
    repeat' split
    all_goals rfl

theorem step_under :
    (state.under before).step symbol = (state.step symbol).map (under before) := by
  have here : (state.under before).position = state.position := rfl
  cases standing : state.position <;> cases symbol <;>
    simp only [step, here, standing, begin_under, push_under]
  -- What is left asks for the character, which is the same on both sides.
  all_goals repeat' split
  all_goals rfl

theorem take_under : (state.under before).take c = (state.take c).map (under before) := by
  rw [take, take, step_under]
  cases state.step (.char c) with
  | error fault => rfl
  | ok next =>
    by_cases ends : c = '\n'
    · simp [ends, Except.map, Except.bind, step_under]
    · simp [ends, Except.map, Except.bind]

theorem foldlM_take_under :
    line.foldlM take (state.under before) = (line.foldlM take state).map (under before) := by
  induction line generalizing state with
  | nil => rfl
  | cons c rest ih =>
    rw [List.foldlM_cons, List.foldlM_cons, take_under]
    cases state.take c with
    | error fault => rfl
    | ok next => exact ih

end State

open State

theorem foldlM_symbols_append (some : rest ≠ []) (line : List Char) (state : State) :
    (symbols (line ++ rest)).foldlM step state =
      (line.foldlM take state).bind fun next => (symbols rest).foldlM step next := by
  induction line generalizing state with
  | nil => rfl
  | cons c line ih =>
    rw [List.cons_append, foldlM_symbols_cons (Or.inr (by simp [some])), List.foldlM_cons]
    cases state.take c with
    | error fault => rfl
    | ok next => exact ih next

/-! ### Where a line leads -/

/-- If the reader takes the text, it gets from the one position to the other, and it completes no record
on the way. -/
def Leads (position : Position) (text : List Char) (goal : Position) : Prop :=
  ∀ state next : State, state.position = position → text.foldlM take state = .ok next →
    next.position = goal ∧ next.records = state.records

theorem Leads.nil (position : Position) : Leads position [] position := by
  intro state next here taken
  obtain rfl : state = next := Except.ok.inj taken
  exact ⟨here, rfl⟩

theorem Leads.append (first : Leads position text middle) (behind : Leads middle rest goal) :
    Leads position (text ++ rest) goal := by
  intro state last here taken
  rw [List.foldlM_append] at taken
  cases run : text.foldlM take state with
  | error fault =>
    rw [run] at taken
    cases taken
  | ok next =>
    rw [run] at taken
    obtain ⟨there, same⟩ := first state next here run
    obtain ⟨arrived, kept⟩ := behind next last there taken
    exact ⟨arrived, kept.trans same⟩

theorem Leads.cons (first : Leads position [c] middle) (behind : Leads middle text goal) :
    Leads position (c :: text) goal :=
  first.append behind

theorem push_ok (pushed : state.push c position = .ok next) :
    next.position = position ∧ next.records = state.records := by
  rw [push] at pushed
  split at pushed
  · cases pushed
    exact ⟨rfl, rfl⟩
  · cases pushed

/-- A character leads where its step leads. A line may end there only if quotes are open. -/
theorem leads_char (inside : c ≠ '\n' ∨ goal = .quoted)
    (steps : ∀ state next : State, state.position = position → state.step (.char c) = .ok next →
      next.position = goal ∧ next.records = state.records) :
    Leads position [c] goal := by
  intro state last here taken
  rw [List.foldlM_cons, take] at taken
  cases stepped : state.step (.char c) with
  | error fault =>
    rw [stepped] at taken
    cases taken
  | ok next =>
    obtain ⟨there, same⟩ := steps state next here stepped
    have ended : (if c = '\n' then next.step .lineEnd else .ok next) = .ok next := by
      rcases inside with other | rfl
      · exact if_neg other
      · have stays : next.step .lineEnd = .ok next := by simp only [step, there]
        rw [stays, ite_self]
    simp only [stepped, Except.bind, ended] at taken
    cases taken
    exact ⟨there, same⟩

theorem leads_openQuote : Leads .fieldStart ['"'] .quoted := by
  apply leads_char (Or.inr rfl)
  intro state next here stepped
  simp only [step, begin, here] at stepped
  cases stepped
  exact ⟨rfl, rfl⟩

theorem leads_quote : Leads .quoted ['"'] .afterQuote := by
  apply leads_char (Or.inl (by decide))
  intro state next here stepped
  simp only [step, here] at stepped
  cases stepped
  exact ⟨rfl, rfl⟩

theorem leads_secondQuote : Leads .afterQuote ['"'] .quoted := by
  apply leads_char (Or.inr rfl)
  intro state next here stepped
  simp only [step, here] at stepped
  exact push_ok stepped

theorem leads_inQuotes (other : c ≠ '"') : Leads .quoted [c] .quoted := by
  apply leads_char (Or.inr rfl)
  intro state next here stepped
  simp only [step, here, if_neg other] at stepped
  exact push_ok stepped

theorem leads_doubled (inside : List Char) : Leads .quoted (doubled inside) .quoted := by
  induction inside with
  | nil => exact .nil .quoted
  | cons c rest ih =>
    rw [doubled, List.flatMap_cons]
    by_cases quote : c = '"'
    · rw [if_pos quote]
      exact .cons leads_quote (.cons leads_secondQuote ih)
    · rw [if_neg quote]
      exact .cons (leads_inQuotes quote) ih

theorem leads_ordinary (ordinary : Ordinary c) (here : position.endsField = true)
    (unquoted : position = .plain ∨ c ≠ '"') : Leads position [c] .plain := by
  obtain ⟨noComma, noFeed, noReturn⟩ := ordinary
  apply leads_char (Or.inl noFeed)
  intro state next standing stepped
  have pushed : state.step (.char c) = state.push c .plain := by
    rcases unquoted with rfl | other
    · simp [step, standing, noComma, noFeed, noReturn]
    · cases position <;> simp [step, begin, standing, noComma, noFeed, noReturn, other] <;> cases here
  exact push_ok (pushed.symm.trans stepped)

theorem leads_plain (ordinary : ∀ c ∈ text, Ordinary c) : Leads .plain text .plain := by
  induction text with
  | nil => exact .nil .plain
  | cons c rest ih =>
    obtain ⟨first, others⟩ := List.forall_mem_cons.mp ordinary
    exact .cons (leads_ordinary first rfl (Or.inl rfl)) (ih others)

/-- Without quotes in front, ordinary characters lead to where the field may be ended. -/
theorem leads_bare (ordinary : ∀ c ∈ text, Ordinary c) (here : position.endsField = true)
    (unquoted : text.head? ≠ some '"') :
    ∃ goal : Position, goal.endsField = true ∧ Leads position text goal := by
  cases text with
  | nil => exact ⟨position, here, .nil position⟩
  | cons c rest =>
    obtain ⟨first, others⟩ := List.forall_mem_cons.mp ordinary
    have other : c ≠ '"' := fun same => unquoted (congrArg some same)
    exact ⟨.plain, rfl, .cons (leads_ordinary first here (Or.inr other)) (leads_plain others)⟩

theorem leads_field (field : FieldText text) :
    ∃ goal : Position, goal.endsField = true ∧ Leads .fieldStart text goal := by
  cases field with
  | bare ordinary unquoted => exact leads_bare ordinary rfl unquoted
  | quoted inside ordinary closed =>
    -- Behind the closing quote the field goes on as if it had none in front.
    obtain ⟨goal, ends, behind⟩ := @leads_bare _ .afterQuote ordinary rfl closed
    exact ⟨goal, ends, .cons leads_openQuote ((leads_doubled inside).append (.cons leads_quote behind))⟩

theorem leads_comma (here : position.endsField = true) : Leads position [','] .fieldStart := by
  apply leads_char (Or.inl (by decide))
  intro state next standing stepped
  cases position with
  | recordStart | quoted | lineBreak => cases here
  | fieldStart | plain | afterQuote =>
    simp only [step, begin, standing] at stepped
    cases stepped
    exact ⟨rfl, rfl⟩

theorem leads_fields (fields : ∀ part ∈ parts, FieldText part) (some : parts ≠ []) :
    ∃ goal : Position, goal.endsField = true ∧ Leads .fieldStart (Text.join ',' parts) goal := by
  induction parts with
  | nil => exact absurd rfl some
  | cons part parts ih =>
    obtain ⟨first, others⟩ := List.forall_mem_cons.mp fields
    obtain ⟨middle, here, leads⟩ := leads_field first
    cases parts with
    | nil => exact ⟨middle, here, leads⟩
    | cons second more =>
      obtain ⟨goal, ends, behind⟩ := ih others (List.cons_ne_nil _ _)
      exact ⟨goal, ends, leads.append (.cons (leads_comma here) behind)⟩

/-- No line begins with a line break. -/
theorem LineText.head (written : LineText line) : ∀ c ∈ line.head?, c ≠ '\n' ∧ c ≠ '\r' := by
  obtain @⟨parts, fields⟩ := written
  intro c first
  have inField {text : List Char} (field : FieldText text) (first : c ∈ text.head?) :
      c ≠ '\n' ∧ c ≠ '\r' := by
    cases field with
    | bare ordinary unquoted => exact (ordinary c (List.mem_of_mem_head? first)).2
    | quoted inside ordinary closed =>
      obtain rfl : '"' = c := Option.some.inj first
      decide
  cases parts with
  | nil => cases first
  | cons part parts =>
    have here := fields part List.mem_cons_self
    cases parts with
    | nil => exact inField here first
    | cons second more =>
      cases part with
      | nil =>
        obtain rfl : ',' = c := Option.some.inj first
        decide
      | cons d rest => exact inField here first

theorem leads_line (written : LineText line) (filled : line ≠ []) :
    ∃ goal : Position, goal.endsField = true ∧ Leads .recordStart line goal := by
  have solid := written.head
  obtain @⟨parts, fields⟩ := written
  have pieces : parts ≠ [] := by
    rintro rfl
    exact filled rfl
  obtain ⟨goal, ends, leads⟩ := leads_fields fields pieces
  refine ⟨goal, ends, ?_⟩
  -- Apart from line breaks, a record begins like a field.
  obtain ⟨c, rest, line⟩ := List.exists_cons_of_ne_nil filled
  rw [line] at leads solid ⊢
  intro state next here taken
  refine leads { state with position := .fieldStart } next rfl ?_
  rw [List.foldlM_cons] at taken ⊢
  rwa [← take_recordStart here (solid c rfl)]

/-! ### Lines, one by one -/

/-- The record of a line, read alone. -/
def recordOf (line : List Char) : Except Fault Record :=
  if line = [] then .ok []
  else (line.foldlM take {}).map fun state => (state.endField .recordStart).fields.reverse

/-- The state between two records. -/
def between (records : List Record) : State :=
  { records }

/-- Between earlier records and what follows, a line leads to where its last field may be ended, or it is
refused as it is alone. -/
theorem line_cases (written : LineText line) (filled : line ≠ []) (before : List Record) :
    (∃ fault, recordOf line = .error fault ∧ line.foldlM take (between before) = .error fault) ∨
      ∃ record next, recordOf line = .ok record ∧ line.foldlM take (between before) = .ok next ∧
        next.position.endsField = true ∧
        (next.endField .recordStart).endRecord = between (record :: before) := by
  obtain ⟨goal, ends, leads⟩ := leads_line written filled
  have start : between before = ({} : State).under before := rfl
  rw [recordOf, if_neg filled, start, foldlM_take_under]
  cases run : line.foldlM take {} with
  | error fault => exact Or.inl ⟨fault, rfl, rfl⟩
  | ok state =>
    obtain ⟨here, none⟩ := leads {} state rfl run
    refine Or.inr ⟨_, _, rfl, rfl, by rwa [← here] at ends, ?_⟩
    simp [under, endField, endRecord, between, none]

theorem foldlM_line (written : LineText line) (ends : EndsLine ending) (text : List Char)
    (before : List Record) :
    (symbols (line ++ (ending ++ text))).foldlM step (between before) =
      (recordOf line).bind fun record => (symbols text).foldlM step (between (record :: before)) := by
  have feed := getLast?_of_endsLine ends []
  by_cases empty : line = []
  -- There is no field to be ended, so the line end alone completes the record.
  · subst empty
    exact (runs_emptyLine ends before).foldlM_symbols (Or.inr feed) text
  · have more : ending ++ text ≠ [] := by cases ends <;> simp
    rw [foldlM_symbols_append more]
    obtain ⟨fault, alone, taken⟩ | ⟨record, next, alone, taken, here, closed⟩ :=
      line_cases written empty before
    · rw [alone, taken]
      rfl
    · rw [alone, taken]
      simp only [Except.bind]
      rw [(runs_ending here ends).foldlM_symbols (Or.inr feed), closed]

/-- A field is not ended behind the line feed of its line. -/
theorem endsField_of_take_feed (taken : state.take '\n' = .ok next) :
    next.position.endsField = false := by
  obtain ⟨position, chars, size, fields, records⟩ := state
  cases position with
  | quoted =>
    by_cases short : size < fieldLimit
    · simp only [take, step, push, if_pos short] at taken
      cases taken
      rfl
    · simp only [take, step, push, if_neg short] at taken
      cases taken
  | recordStart | fieldStart | plain | afterQuote | lineBreak =>
    cases taken
    rfl

theorem foldlM_symbols_last (filled : line ≠ []) (state : State) :
    (symbols line).foldlM step state =
      (line.foldlM take state).bind fun next =>
        if line.getLast? = some '\n' then .ok next else next.step .lineEnd := by
  induction line generalizing state with
  | nil => exact absurd rfl filled
  | cons c rest ih =>
    cases rest with
    | nil =>
      have single : symbols [c] = [.char c, .lineEnd] := rfl
      rw [single, List.foldlM_cons, List.foldlM_cons, take]
      cases state.step (.char c) with
      | error fault => rfl
      | ok next =>
        by_cases ends : c = '\n' <;> cases finished : next.step .lineEnd <;>
          simp [ends, finished, Bind.bind, Except.bind, pure, Except.pure]
    | cons d more =>
      rw [foldlM_symbols_cons (Or.inr (List.cons_ne_nil d more)), List.foldlM_cons,
        List.getLast?_cons_cons]
      cases state.take c with
      | error fault => rfl
      | ok next => exact ih (List.cons_ne_nil d more) next

/-- Where a line leads, its line feed is not the last character read. -/
theorem getLast?_ne_feed (taken : line.foldlM take state = .ok next)
    (here : next.position.endsField = true) : line.getLast? ≠ some '\n' := by
  intro feed
  obtain ⟨front, rfl⟩ : ∃ front, line = front ++ ['\n'] :=
    ⟨_, (List.dropLast_append_getLast? _ feed).symm⟩
  rw [List.foldlM_append] at taken
  cases run : front.foldlM take state with
  | error fault =>
    rw [run] at taken
    cases taken
  | ok middle =>
    rw [run] at taken
    have last : middle.take '\n' = .ok next := by
      rwa [← bind_pure (middle.take '\n')]
    rw [endsField_of_take_feed last] at here
    cases here

theorem foldlM_lastLine (written : LineText line) (filled : line ≠ []) (before : List Record) :
    (symbols line).foldlM step (between before) =
      (recordOf line).map fun record => between (record :: before) := by
  rw [foldlM_symbols_last filled]
  obtain ⟨fault, alone, taken⟩ | ⟨record, next, alone, taken, here, closed⟩ :=
    line_cases written filled before
  · rw [alone, taken]
    rfl
  · have finished : next.step .lineEnd = .ok (next.endField .recordStart).endRecord := by
      obtain ⟨position, chars, size, fields, records⟩ := next
      cases position <;> first | rfl | cases here
    have feedless := getLast?_ne_feed taken here
    rw [alone, taken]
    simp only [Except.bind, Except.map, if_neg feedless, finished, closed]

/-- A text is read line by line. -/
theorem foldlM_lines_of_closed (made : Lines lines text) (written : ∀ line ∈ lines, LineText line)
    (before : List Record) :
    (symbols text).foldlM step (between before) =
      (lines.mapM recordOf).map fun records => between (records.reverse ++ before) := by
  -- On the lines; the records of those that are read are earlier ones for the rest.
  induction made generalizing before with
  | nil => rfl
  | @last line filled =>
    rw [foldlM_lastLine (written line List.mem_cons_self) filled]
    cases alone : recordOf line <;>
      simp [alone, Except.map, Bind.bind, Except.bind, pure, Except.pure]
  | @cons line ending text lines ends _ ih =>
    obtain ⟨first, others⟩ := List.forall_mem_cons.mp written
    rw [foldlM_line first ends, List.mapM_cons]
    cases recordOf line with
    | error fault => rfl
    | ok record =>
      simp only [Except.bind, ih others, Bind.bind]
      cases lines.mapM recordOf <;> simp [Except.map, pure, Except.pure]

theorem read_of_lines (made : Lines lines text) (written : ∀ line ∈ lines, LineText line) :
    read text = lines.mapM recordOf := by
  have start : ({} : State) = between [] := rfl
  rw [read, start, foldlM_lines_of_closed made written]
  cases lines.mapM recordOf <;> simp [Except.map, between, finish]

/-! ### Lines without fields -/

theorem recordOf_ne_nil {record : Record} (filled : line ≠ []) (alone : recordOf line = .ok record) :
    record ≠ [] := by
  rw [recordOf, if_neg filled] at alone
  cases run : line.foldlM take {} with
  | error fault =>
    rw [run] at alone
    cases alone
  | ok state =>
    rw [run] at alone
    cases alone
    simp [endField]

/-- Of the records of lines, those with fields are the records of the lines that are not empty. -/
theorem filter_mapM_recordOf (lines : List (List Char)) :
    (lines.mapM recordOf).map (List.filter (!·.isEmpty)) = (lines.filter (· ≠ [])).mapM recordOf := by
  induction lines with
  | nil => rfl
  | cons line lines ih =>
    by_cases empty : line = []
    · subst empty
      rw [List.filter_cons_of_neg (by simp), ← ih, List.mapM_cons]
      have alone : recordOf [] = .ok [] := rfl
      rw [alone]
      cases lines.mapM recordOf <;> rfl
    · rw [List.filter_cons_of_pos (by simpa using empty), List.mapM_cons, List.mapM_cons, ← ih]
      cases alone : recordOf line with
      | error fault => rfl
      | ok record =>
        have fields : (!record.isEmpty) = true := by
          simpa using recordOf_ne_nil empty alone
        cases lines.mapM recordOf with
        | error fault => rfl
        | ok records =>
          simp [Bind.bind, Except.bind, Except.map, pure, Except.pure, fields]

end Signpost.Sheet.Csv

namespace Signpost.Sheet

open Csv (Record)

variable {text spacedText : String} {header : List Char} {lines spaced : List (List Char)}

theorem rowsOfRecords_filter (columns : Record) (records : List Record) :
    rowsOfRecords (columns :: records.filter (!·.isEmpty)) = rowsOfRecords (columns :: records) := by
  simp only [rowsOfRecords, List.filter_filter, Bool.and_self]

/-- Without names there are no values, and so no rows. -/
theorem rowsOfRecords_unnamed (records : List Record) : rowsOfRecords ([] :: records) = [] := by
  have blank (record : Record) : isBlankRow (rowOf [] record) = true := by
    simp [rowOf, isBlankRow]
  rw [rowsOfRecords, List.filter_eq_nil_iff]
  intro row made
  obtain ⟨record, _, rfl⟩ := List.mem_map.mp made
  simp [blank]

/-- The text behind the byte order marks. -/
def body (text : String) : List Char :=
  text.toList.dropWhile fun c => c.toNat == 0xFEFF

theorem rowsOfCsv_of_lines (made : Csv.Lines lines (body text))
    (written : ∀ line ∈ lines, Csv.LineText line) :
    rowsOfCsv text = (lines.mapM Csv.recordOf).map rowsOfRecords := by
  have read : rowsOfCsv text = (Csv.read (body text)).map rowsOfRecords := rfl
  rw [read, Csv.read_of_lines made written]

/-- Behind the first line, only the lines that are not empty matter. -/
theorem rowsOfRecords_mapM (header : List Char) (lines : List (List Char)) :
    ((header :: lines).mapM Csv.recordOf).map rowsOfRecords =
      (Csv.recordOf header).bind fun columns =>
        ((lines.filter (· ≠ [])).mapM Csv.recordOf).map fun records =>
          rowsOfRecords (columns :: records) := by
  rw [List.mapM_cons, ← Csv.filter_mapM_recordOf]
  cases Csv.recordOf header with
  | error fault => rfl
  | ok columns =>
    cases lines.mapM Csv.recordOf with
    | error fault => rfl
    | ok records => exact congrArg Except.ok (rowsOfRecords_filter columns records).symm

theorem lineText_of_same (written : ∀ line ∈ lines, Csv.LineText line)
    (same : spaced.filter (· ≠ []) = lines.filter (· ≠ [])) : ∀ line ∈ spaced, Csv.LineText line := by
  intro line member
  by_cases empty : line = []
  · subst empty
    exact @Csv.LineText.intro [] (by simp)
  · have kept : line ∈ lines.filter (· ≠ []) := by
      rw [← same]
      exact List.mem_filter.mpr ⟨member, by simpa using empty⟩
    exact written line (List.mem_filter.mp kept).1

/-- With empty lines anywhere behind the names, a sheet has the same rows, and with some in front of them
it has none. -/
theorem rowsOfCsv_spaced (above : Nat) (written : ∀ line ∈ header :: lines, Csv.LineText line)
    (same : spaced.filter (· ≠ []) = lines.filter (· ≠ []))
    (made : Csv.Lines (header :: lines) (body text))
    (madeSpaced : Csv.Lines (List.replicate above [] ++ header :: spaced) (body spacedText)) :
    rowsOfCsv spacedText = (rowsOfCsv text).map (fun rows => if above = 0 then rows else []) ∧
      (rowsOfCsv spacedText = rowsOfCsv text ↔
        above = 0 ∨ ∀ rows, rowsOfCsv text = .ok rows → rows = []) := by
  have full : (List.replicate above [] ++ header :: spaced).filter (· ≠ []) =
      (header :: lines).filter (· ≠ []) := by
    rw [List.filter_append, List.filter_cons, List.filter_cons, same]
    simp
  have read := rowsOfCsv_of_lines made written
  have readSpaced := rowsOfCsv_of_lines madeSpaced (lineText_of_same written full)
  have rows : rowsOfCsv spacedText =
      (rowsOfCsv text).map (fun rows => if above = 0 then rows else []) := by
    cases above with
    | zero =>
      rw [readSpaced, List.replicate_zero, List.nil_append, rowsOfRecords_mapM, same,
        ← rowsOfRecords_mapM, ← read]
      cases rowsOfCsv text <;> rfl
    | succ above =>
      -- The first empty line is the one with the names; the others count for nothing.
      have unnamed : Csv.recordOf [] = .ok [] := rfl
      rw [List.replicate_succ, List.cons_append] at readSpaced full
      rw [readSpaced, rowsOfRecords_mapM, unnamed, read]
      have pruned : (List.replicate above [] ++ header :: spaced).filter (· ≠ []) =
          (header :: lines).filter (· ≠ []) := by
        rwa [List.filter_cons_of_neg (by simp)] at full
      rw [pruned, ← Csv.filter_mapM_recordOf]
      cases (header :: lines).mapM Csv.recordOf with
      | error fault => rfl
      | ok records => exact congrArg Except.ok (rowsOfRecords_unnamed _)
  refine ⟨rows, ?_⟩
  rw [rows]
  by_cases first : above = 0
  · cases rowsOfCsv text <;> simp [first, Except.map]
  · cases rowsOfCsv text <;> simp [first, Except.map, eq_comm]

/-- The empty line in quotes is part of a field. The last line has no end, until empty lines follow it. -/
theorem rowsOfCsv_spaced_behind_names :
    let header := "path,redirectURL".toList
    let lines := ["\"/a\n\n\",/b".toList, "/c,/d".toList]
    let spaced := [[], [], "\"/a\n\n\",/b".toList, [], "/c,/d".toList, []]
    let text := "path,redirectURL\r\n\"/a\n\n\",/b\r\n/c,/d"
    let spacedText := "path,redirectURL\n\n\r\n\"/a\n\n\",/b\n\n/c,/d\n\n"
    (∀ line ∈ header :: lines, Csv.LineText line) ∧
      spaced.filter (· ≠ []) = lines.filter (· ≠ []) ∧
      Csv.Lines (header :: lines) (body text) ∧
      Csv.Lines (List.replicate 0 [] ++ header :: spaced) (body spacedText) ∧
      rowsOfCsv text = .ok [[("path", .text "/a\n\n"), ("redirectURL", .text "/b")],
        [("path", .text "/c"), ("redirectURL", .text "/d")]] ∧
      rowsOfCsv spacedText = rowsOfCsv text := by
  intro header lines spaced text spacedText
  have bare (part : String) (ordinary : part.toList.all (Csv.Ordinary ·) = true)
      (unquoted : part.toList.head? ≠ some '"') : Csv.FieldText part.toList :=
    .bare (by simpa using ordinary) unquoted
  have pair {first second : List Char} (path : Csv.FieldText first) (target : Csv.FieldText second) :
      Csv.LineText (first ++ ',' :: second) :=
    @Csv.LineText.intro [first, second] (by simp [path, target])
  have written : ∀ line ∈ header :: lines, Csv.LineText line := by
    have quoted := @Csv.FieldText.quoted ['/', 'a', '\n', '\n'] [] (by simp) (by simp)
    have names := pair (bare "path" (by decide) (by decide)) (bare "redirectURL" (by decide) (by decide))
    have record := pair quoted (bare "/b" (by decide) (by decide))
    have last := pair (bare "/c" (by decide) (by decide)) (bare "/d" (by decide) (by decide))
    exact List.forall_mem_cons.mpr ⟨names, List.forall_mem_cons.mpr ⟨record,
      List.forall_mem_cons.mpr ⟨last, by simp⟩⟩⟩
  have same : spaced.filter (· ≠ []) = lines.filter (· ≠ []) := by decide
  -- The lines with their ends are put together, and the text is compared with them.
  have made : Csv.Lines (header :: lines) (body text) := by
    obtain ⟨_, made, whole⟩ : ∃ whole, Csv.Lines (header :: lines) whole ∧ body text = whole :=
      ⟨_, .cons .returnAndFeed (.cons .returnAndFeed (.last (by decide))), by decide⟩
    rwa [whole]
  have madeSpaced : Csv.Lines (List.replicate 0 [] ++ header :: spaced) (body spacedText) := by
    obtain ⟨_, made, whole⟩ : ∃ whole, Csv.Lines (header :: spaced) whole ∧ body spacedText = whole :=
      ⟨_, .cons .feed (.cons .feed (.cons .returnAndFeed (.cons .feed (.cons .feed (.cons .feed
        (.cons .feed .nil)))))), by decide⟩
    rwa [whole]
  have rows : rowsOfCsv text = .ok [[("path", .text "/a\n\n"), ("redirectURL", .text "/b")],
      [("path", .text "/c"), ("redirectURL", .text "/d")]] := by
    have records : Csv.read ("path,redirectURL\r\n\"/a\n\n\",/b\r\n/c,/d".toList.dropWhile
        fun c => c.toNat == 0xFEFF) =
      .ok [["path", "redirectURL"], ["/a\n\n", "/b"], ["/c", "/d"]] := by rfl
    rw [rowsOfCsv, records]
    rfl
  exact ⟨written, same, made, madeSpaced, rows,
    (rowsOfCsv_spaced 0 written same made madeSpaced).2.mpr (Or.inl rfl)⟩

/-- The empty line is taken for the names, so that the line with the names and the record have no row. -/
theorem rowsOfCsv_lost :
    rowsOfCsv "path,redirectURL\n/a,/b\n" =
        .ok [[("path", .text "/a"), ("redirectURL", .text "/b")]] ∧
      rowsOfCsv "\npath,redirectURL\n/a,/b\n" = .ok [] := by
  have records : Csv.read ("path,redirectURL\n/a,/b\n".toList.dropWhile fun c => c.toNat == 0xFEFF) =
    .ok [["path", "redirectURL"], ["/a", "/b"]] := by rfl
  have shifted : Csv.read ("\npath,redirectURL\n/a,/b\n".toList.dropWhile fun c => c.toNat == 0xFEFF) =
    .ok [[], ["path", "redirectURL"], ["/a", "/b"]] := by rfl
  constructor
  · rw [rowsOfCsv, records]
    rfl
  · rw [rowsOfCsv, shifted]
    rfl

end Signpost.Sheet
