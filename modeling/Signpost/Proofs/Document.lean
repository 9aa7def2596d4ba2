import Mathlib.Data.Nat.Init
import Signpost.Json.Writer
import Signpost.Proofs.Decimal
import Signpost.Proofs.Fields

/-!
# Documents are read back

What is written for a value is read as that value again, in any layout and with any characters in its
texts and names, whether the document is bound to ASCII or not. Floating-point numbers are left out
here, and numerals that are too long to be read.

## Main result

`read_layOut`: a value without floating-point numbers and without numerals that are too long, in which
no object has two fields of the same name, is read back from its document, unless it is nested too deep
to be read.

## Proof strategy

Each character of a text takes the reader of texts one step, whether it is written as it is, with a
letter or with one or two units of sixteen bits (`Spells`). The readers of values, items and members
are taken along what was written by induction on their fuel, of which they need no more than there are
characters (`reads_written`). Every statement has the rest of the text in it, so that the readers go on
where they are; behind a number it must not go on with that number.
-/
namespace Signpost.Json

/-! ### Characters of a text -/

theorem hexValue?_hexDigit : ∀ digit < 16, Text.hexValue? (Text.hexDigit digit) = some digit := by
  decide

/-- The four digits of a unit of sixteen bits denote it. -/
theorem hex4?_hexDigits (unit : Nat) (small : unit < 0x10000) :
    ∃ a b c d, Text.hexDigits 4 unit = [a, b, c, d] ∧ hex4? a b c d = some unit := by
  refine ⟨_, _, _, _, rfl, ?_⟩
  simp only [hex4?, hexValue?_hexDigit _ (Nat.mod_lt _ (by decide : 0 < 16)), Option.bind_eq_bind,
    Option.bind_some, Option.pure_def, Option.some.injEq]
  omega

variable {start fuel place : Nat} {before : List Nat} {rest : List Char} {c : Char}

theorem stringBody_plain (plain : 0x20 ≤ c.toNat) (notQuote : c ≠ '"') (notBackslash : c ≠ '\\') :
    stringBody [] start (fuel + 1) (c :: rest) place before =
      stringBody [] start fuel rest (place + 1) (c.toNat :: before) := by
  rw [stringBody]
  · rw [List.lookup_nil]
    exact if_neg (by omega)
  -- The equation is the last, so the quote and the backslash of those before it are to be excluded.
  all_goals
    intros
    simp_all

theorem stringBody_escaped {letter : Char} (notUnit : letter ≠ 'u')
    (escape : escaped? letter = some c) :
    stringBody [] start (fuel + 1) ('\\' :: letter :: rest) place before =
      stringBody [] start fuel rest (place + 2) (c.toNat :: before) := by
  rw [stringBody]
  · rw [escape]
  all_goals
    intros
    simp_all

/-- An escaped unit that is no first half of a pair is one code point. -/
theorem stringBody_unit {unit : Nat} (small : unit < 0x10000)
    (whole : ¬ (0xD800 ≤ unit ∧ unit ≤ 0xDBFF)) (goesOn : rest ≠ []) :
    stringBody [] start (fuel + 1) (escapeUnit unit ++ rest) place before =
      stringBody [] start fuel rest (place + 6) (unit :: before) := by
  obtain ⟨a, b, c, d, digits, value⟩ := hex4?_hexDigits unit small
  obtain ⟨next, behind, rfl⟩ := List.exists_cons_of_ne_nil goesOn
  have notHigh : ¬ ((decide (0xD800 ≤ unit) && decide (unit ≤ 0xDBFF)) = true) := by
    simpa using whole
  rw [escapeUnit, digits]
  simp only [List.cons_append, List.nil_append]
  rw [stringBody]
  simp only [value, if_neg notHigh]

theorem stringBody_pair {high low : Nat} (smallHigh : high < 0x400) (smallLow : low < 0x400)
    (goesOn : rest ≠ []) :
    stringBody [] start (fuel + 1) (escapeUnit (0xD800 + high) ++ (escapeUnit (0xDC00 + low) ++ rest))
        place before =
      stringBody [] start fuel rest (place + 12) ((0x10000 + high * 1024 + low) :: before) := by
  obtain ⟨a, b, c, d, digits, value⟩ := hex4?_hexDigits (0xD800 + high) (by omega)
  obtain ⟨e, f, g, h, others, lower⟩ := hex4?_hexDigits (0xDC00 + low) (by omega)
  obtain ⟨next, behind, rfl⟩ := List.exists_cons_of_ne_nil goesOn
  have isHigh : (decide (0xD800 ≤ 0xD800 + high) && decide (0xD800 + high ≤ 0xDBFF)) = true := by
    simp only [Bool.and_eq_true, decide_eq_true_eq]
    omega
  have isLow : (decide (0xDC00 ≤ 0xDC00 + low) && decide (0xDC00 + low ≤ 0xDFFF)) = true := by
    simp only [Bool.and_eq_true, decide_eq_true_eq]
    omega
  rw [escapeUnit, escapeUnit, digits, others]
  simp only [List.cons_append, List.nil_append]
  rw [stringBody]
  simp only [value, lower, if_pos isHigh, if_pos isLow, Nat.add_sub_cancel_left]

theorem toNat_ranges (c : Char) : c.toNat < 0xD800 ∨ 0xDFFF < c.toNat ∧ c.toNat < 0x110000 :=
  c.valid

theorem length_escapeUnit (unit : Nat) : (escapeUnit unit).length = 6 := rfl

/-- What is written for a character is read as that character, if more of the text follows. -/
structure Spells (escape : Char → List Char) : Prop where
  nonempty : ∀ c, escape c ≠ []
  reads : ∀ (start fuel place : Nat) (before : List Nat) (rest : List Char) (c : Char), rest ≠ [] →
    stringBody [] start (fuel + 1) (escape c ++ rest) place before =
      stringBody [] start fuel rest (place + (escape c).length) (c.toNat :: before)

theorem escapeChar_ne_nil (c : Char) : escapeChar c ≠ [] := by
  simp only [escapeChar]
  repeat' split
  all_goals exact List.cons_ne_nil _ _

theorem spells_escapeChar : Spells escapeChar where
  nonempty := escapeChar_ne_nil
  reads := by
    intro start fuel place before rest c goesOn
    have ranges := toNat_ranges c
    by_cases short : c ∈ ['"', '\\', '\n', '\r', '\t', Char.ofNat 8, Char.ofNat 12]
    · -- These have letters of their own.
      simp only [List.mem_cons, List.not_mem_nil, or_false] at short
      rcases short with rfl | rfl | rfl | rfl | rfl | rfl | rfl
      all_goals exact stringBody_escaped (by decide) rfl
    simp only [List.mem_cons, List.not_mem_nil, or_false, not_or] at short
    obtain ⟨notQuote, notBackslash, notLineFeed, notReturn, notTab, notBackspace, notFormFeed⟩ := short
    have notEight : c.toNat ≠ 8 := fun same => notBackspace (same ▸ (Char.ofNat_toNat c).symm)
    have notTwelve : c.toNat ≠ 12 := fun same => notFormFeed (same ▸ (Char.ofNat_toNat c).symm)
    simp only [escapeChar, beq_iff_eq, notQuote, notBackslash, notLineFeed, notReturn, notTab,
      notEight, notTwelve, if_false]
    -- Of the others, what can be printed stands for itself, and the rest is written in units: one up
    -- to sixteen bits, two above.
    by_cases printable : 0x20 ≤ c.toNat ∧ c.toNat ≤ 0x7E
    · have asItIs : (decide (0x20 ≤ c.toNat) && decide (c.toNat ≤ 0x7E)) = true := by
        simpa using printable
      rw [if_pos asItIs]
      exact stringBody_plain printable.1 notQuote notBackslash
    have escaped : ¬ (decide (0x20 ≤ c.toNat) && decide (c.toNat ≤ 0x7E)) = true := by
      simpa using printable
    rw [if_neg escaped]
    by_cases small : c.toNat < 0x10000
    · rw [if_pos small, stringBody_unit small (by omega) goesOn, length_escapeUnit]
    · have whole :
          0x10000 + (c.toNat - 0x10000) / 1024 * 1024 + (c.toNat - 0x10000) % 1024 = c.toNat := by
        omega
      rw [if_neg small, List.append_assoc,
        stringBody_pair (by omega) (Nat.mod_lt _ (by decide)) goesOn, whole, List.length_append,
        length_escapeUnit, length_escapeUnit]

theorem spells_escapeControl : Spells escapeControl where
  nonempty := by
    intro c
    unfold escapeControl
    split
    · exact List.cons_ne_nil _ _
    · exact escapeChar_ne_nil c
  reads := by
    intro start fuel place before rest c goesOn
    unfold escapeControl
    split
    next above =>
      have notQuote : c ≠ '"' := fun same => absurd above (by rw [same]; decide)
      have notBackslash : c ≠ '\\' := fun same => absurd above (by rw [same]; decide)
      exact stringBody_plain (by omega) notQuote notBackslash
    next => exact spells_escapeChar.reads start fuel place before rest c goesOn

theorem isSurrogate_toNat (c : Char) : Text.isSurrogate c.toNat = false := by
  have ranges := toNat_ranges c
  simp only [Text.isSurrogate, Bool.and_eq_false_iff, decide_eq_false_iff_not]
  omega

theorem standIns_map_toNat (cs : List Char) : Text.standIns (cs.map (·.toNat)) = cs := by
  rw [Text.standIns, List.map_map]
  exact (List.map_congr_left fun c _ => Char.ofNat_toNat c).trans (List.map_id cs)

theorem straysOf_map_toNat (cs : List Char) : Text.straysOf (cs.map (·.toNat)) = [] := by
  have none : (cs.map (·.toNat)).zipIdx.filter (fun entry => Text.isSurrogate entry.1) = [] := by
    rw [List.filter_eq_nil_iff]
    intro entry member
    obtain ⟨c, _, same⟩ := List.mem_map.mp (List.fst_mem_of_mem_zipIdx member)
    rw [← same, isSurrogate_toNat]
    exact Bool.false_ne_true
  rw [Text.straysOf, none, List.map_nil]

/-- Code points of characters are read as these characters. -/
theorem readCodes_map_toNat (limit : Nat) (cs : List Char) :
    readCodes limit (cs.map (·.toNat)) = read limit cs := by
  rw [readCodes, straysOf_map_toNat, standIns_map_toNat, read]

theorem ofCodes_map_toNat (cs : List Char) :
    Text.ofCodes (cs.map (·.toNat)) = .ok (String.ofList cs) := by
  have whole : (cs.map (·.toNat)).any Text.isSurrogate = false := by
    rw [List.any_map, List.any_eq_false]
    exact fun c _ => by simp [isSurrogate_toNat]
  have back : (cs.map (·.toNat)).map Char.ofNat = cs := standIns_map_toNat cs
  rw [Text.ofCodes, dif_neg (by rw [whole]; exact Bool.false_ne_true), back]

section

variable {escape : Char → List Char}

/-- A text is read back up to its closing quote; each of its characters takes one step. -/
theorem Spells.stringBody_flatMap (spells : Spells escape) (start : Nat) (text : List Char)
    (enough : text.length < fuel) (place : Nat) (before : List Nat) (rest : List Char) :
    ∃ behind, stringBody [] start fuel (text.flatMap escape ++ '"' :: rest) place before =
      .ok ⟨before.reverse ++ text.map (·.toNat), rest, behind⟩ := by
  induction text generalizing fuel place before with
  | nil =>
    obtain ⟨fuel, rfl⟩ := Nat.exists_eq_add_one_of_ne_zero (Nat.ne_of_gt enough)
    exact ⟨place + 1, by rw [List.map_nil, List.append_nil]; rfl⟩
  | cons c text ih =>
    obtain ⟨fuel, rfl⟩ := Nat.exists_eq_add_one_of_ne_zero (Nat.ne_zero_of_lt enough)
    have left : text.length < fuel := by simpa using enough
    obtain ⟨behind, others⟩ := ih left (place + (escape c).length) (c.toNat :: before)
    refine ⟨behind, ?_⟩
    rw [List.flatMap_cons, List.append_assoc, spells.reads _ _ _ _ _ _ (by simp), others,
      List.reverse_cons, List.append_assoc]
    rfl

theorem Spells.length_le (spells : Spells escape) (text : List Char) :
    text.length ≤ (text.flatMap escape).length := by
  induction text with
  | nil => exact Nat.le_refl _
  | cons c text ih =>
    have some := List.length_pos_iff.mpr (spells.nonempty c)
    rw [List.flatMap_cons, List.length_append, List.length_cons]
    omega

/-! ### Values -/

/-- The reader gives the result, and goes on with the rest. -/
def Reads (answer : Except Error (Read α)) (result : α) (rest : List Char) : Prop :=
  ∃ place, answer = .ok ⟨result, rest, place⟩

theorem Spells.string_writeText (spells : Spells escape) (text : String) (rest : List Char)
    (place : Nat) : ∃ body, writeText escape text ++ rest = '"' :: body ∧
      Reads (string [] body place) (text.toList.map (·.toNat)) rest := by
  refine ⟨text.toList.flatMap escape ++ '"' :: rest, by simp [writeText], ?_⟩
  have enough : text.toList.length < (text.toList.flatMap escape ++ '"' :: rest).length + 1 := by
    have le := spells.length_le text.toList
    rw [List.length_append]
    omega
  exact spells.stringBody_flatMap (place - 1) text.toList enough place [] rest

theorem textValue_map_toNat (text : String) : textValue (text.toList.map (·.toNat)) = .text text := by
  rw [textValue, ofCodes_map_toNat, String.ofList_toList]

theorem nameOf_map_toNat (name : String) : nameOf (name.toList.map (·.toNat)) = .ok name := by
  rw [nameOf, ofCodes_map_toNat, String.ofList_toList]
  rfl

/-- Blanks at the front are passed over. -/
theorem skip_append {blanks : List Char} (blank : ∀ c ∈ blanks, isSpace c = true)
    (rest : List Char) (solid : rest.head?.all (!isSpace ·) = true) (place : Nat) :
    ∃ behind, skip (blanks ++ rest) place = (rest, behind) := by
  induction blanks generalizing place with
  | nil =>
    cases rest with
    | nil => exact ⟨place, rfl⟩
    | cons c rest =>
      have stops : isSpace c = false := by simpa using solid
      exact ⟨place, by simp [skip, stops]⟩
  | cons c blanks ih =>
    obtain ⟨behind, others⟩ := ih (fun d member => blank d (.tail _ member)) (place + 1)
    exact ⟨behind, by simp [skip, blank c (.head _), others]⟩

theorem isSpace_of_mem_break (layout : Layout) (member : c ∈ layout.break) : isSpace c = true := by
  cases layout with
  | compact | line => cases member
  | indented depth =>
    rcases List.mem_cons.mp member with rfl | blank
    · rfl
    · rw [List.eq_of_mem_replicate blank]
      rfl

theorem skip_break (layout : Layout) (rest : List Char)
    (solid : rest.head?.all (!isSpace ·) = true) (place : Nat) :
    ∃ behind, skip (layout.break ++ rest) place = (rest, behind) :=
  skip_append (fun _ => isSpace_of_mem_break layout) rest solid place

/-- Behind its comma, the next item begins after blanks. -/
theorem comma_eq (layout : Layout) :
    ∃ blanks, layout.comma = ',' :: blanks ∧ ∀ c ∈ blanks, isSpace c = true := by
  cases layout with
  | compact => exact ⟨[], rfl, List.forall_mem_nil _⟩
  | line => exact ⟨[' '], rfl, List.forall_mem_singleton.mpr rfl⟩
  | indented depth => exact ⟨_, rfl, fun _ => isSpace_of_mem_break (.indented depth)⟩

/-- Behind the colon, the value begins after blanks. -/
theorem colon_eq (layout : Layout) :
    ∃ blanks, layout.colon = ':' :: blanks ∧ ∀ c ∈ blanks, isSpace c = true := by
  cases layout with
  | compact => exact ⟨[], rfl, List.forall_mem_nil _⟩
  | line | indented => exact ⟨[' '], rfl, List.forall_mem_singleton.mpr rfl⟩

/-- A bracket that closes a list or an object, on a line of its own or not, does not go on with a
number. -/
theorem endsNumber_break (layout : Layout) {closing : Char} (rest : List Char)
    (bracket : closing = ']' ∨ closing = '\x7d') :
    endsNumber (layout.break ++ closing :: rest) = true := by
  cases layout with
  | compact | line => rcases bracket with rfl | rfl <;> rfl
  | indented depth => rfl

theorem endsNumber_items (escape : Char → List Char) (layout : Layout) (others : List Value)
    {rest : List Char} (ends : endsNumber rest = true) :
    endsNumber (layOutItems escape layout others ++ rest) = true := by
  cases others with
  | nil => exact ends
  | cons item others =>
    obtain ⟨blanks, comma, _⟩ := comma_eq layout
    simp only [layOutItems, comma, List.cons_append]
    rfl

theorem endsNumber_fields (escape : Char → List Char) (layout : Layout)
    (others : List (String × Value)) {rest : List Char} (ends : endsNumber rest = true) :
    endsNumber (layOutFields escape layout others ++ rest) = true := by
  cases others with
  | nil => exact ends
  | cons field others =>
    obtain ⟨blanks, comma, _⟩ := comma_eq layout
    simp only [layOutFields, comma, List.cons_append]
    rfl

mutual

/-- The value has no floating-point numbers, no numerals that are too long and only texts of
characters, and no two fields of an object in it have the same name. -/
def isRegular : Value → Bool
  | .null | .bool _ | .text _ => true
  | .int n => n.natAbs < Number.powerOfTen Number.digitLimit
  | .real _ | .unpaired _ => false
  | .list items => areRegular items
  | .object fields => fieldsAreRegular fields

/-- The values are regular. -/
def areRegular : List Value → Bool
  | [] => true
  | item :: rest => isRegular item && areRegular rest

/-- The fields have different names, and regular values. -/
def fieldsAreRegular : List (String × Value) → Bool
  | [] => true
  | (name, value) :: rest =>
    !(rest.map (·.1)).contains name && isRegular value && fieldsAreRegular rest

end

mutual

/-- The number of lists and objects that stand inside each other. -/
def nesting : Value → Nat
  | .list items => nestingOfItems items + 1
  | .object fields => nestingOfFields fields + 1
  | _ => 0

/-- The deepest nesting of the values. -/
def nestingOfItems : List Value → Nat
  | [] => 0
  | item :: rest => max (nesting item) (nestingOfItems rest)

/-- The deepest nesting of the values of the fields. -/
def nestingOfFields : List (String × Value) → Nat
  | [] => 0
  | (_, value) :: rest => max (nesting value) (nestingOfFields rest)

end

/-- A digit of ASCII is no blank and no bracket. -/
theorem solid_of_digit (digit : Text.isAsciiDigit c = true) :
    isSpace c = false ∧ c ≠ ']' ∧ c.toNat < 128 := by
  simp only [Text.isAsciiDigit, Bool.and_eq_true, decide_eq_true_eq] at digit
  refine ⟨?_, ?_, by omega⟩
  · simp only [isSpace, Bool.or_eq_false_iff, beq_eq_false_iff_ne]
    refine ⟨⟨⟨?_, ?_⟩, ?_⟩, ?_⟩
    all_goals
      rintro rfl
      revert digit
      decide
  · rintro rfl
    revert digit
    decide

variable (escape) in
/-- What is written for a value begins with a character of ASCII that is no blank and no closing
bracket. -/
theorem layOut_begins {v : Value} (regular : isRegular v = true) (layout : Layout) :
    ∃ c cs, layOut escape layout v = c :: cs ∧ isSpace c = false ∧ c ≠ ']' ∧ c.toNat < 128 := by
  cases v with
  | null => exact ⟨_, _, rfl, rfl, by decide, by decide⟩
  | bool b => cases b <;> exact ⟨_, _, rfl, rfl, by decide, by decide⟩
  | int n =>
    obtain ⟨c, cs, digit, written | written⟩ := decimal_begins n
    · exact ⟨c, cs, written, solid_of_digit digit⟩
    · exact ⟨'-', c :: cs, written, rfl, by decide, by decide⟩
  | real x => cases regular
  | text s => exact ⟨_, _, rfl, rfl, by decide, by decide⟩
  | unpaired u => cases regular
  | list items => cases items <;> exact ⟨_, _, rfl, rfl, by decide, by decide⟩
  | object fields => cases fields <;> exact ⟨_, _, rfl, rfl, by decide, by decide⟩

variable (escape) in
theorem head?_layOut {v : Value} (regular : isRegular v = true) (layout : Layout)
    (rest : List Char) : (layOut escape layout v ++ rest).head?.all (!isSpace ·) = true := by
  obtain ⟨c, cs, begins, solid, _, _⟩ := layOut_begins escape regular layout
  simp [begins, solid]

/-! ### Reading what was written -/

section

variable (escape) (limit : Nat)

/-- With the fuel, a value that was written is read back, whatever stands behind it that does not go
on with a number. -/
def ReadsValues (fuel : Nat) : Prop :=
  ∀ (v : Value) (layout : Layout) (depth : Nat), isRegular v = true →
    (layOut escape layout v).length ≤ fuel → depth + nesting v ≤ limit →
    ∀ rest place, endsNumber rest = true →
      Reads (value [] limit fuel depth (layOut escape layout v ++ rest) place) v rest

/-- With the fuel, the items of a list are read back. -/
def ReadsItems (fuel : Nat) : Prop :=
  ∀ (first : Value) (others : List Value) (layout outer : Layout) (depth : Nat),
    areRegular (first :: others) = true →
    (layOut escape layout first ++ layOutItems escape layout others).length < fuel →
    depth + nestingOfItems (first :: others) ≤ limit →
    ∀ rest place, Reads (items [] limit fuel depth (layOut escape layout first ++
      (layOutItems escape layout others ++ (outer.break ++ ']' :: rest))) place)
      (first :: others) rest

/-- With the fuel, the fields of an object are read back and put behind fields of other names. -/
def ReadsMembers (fuel : Nat) : Prop :=
  ∀ (name : String) (v : Value) (others fields : List (String × Value)) (layout outer : Layout)
    (depth : Nat), fieldsAreRegular ((name, v) :: others) = true →
    (∀ field ∈ (name, v) :: others, field.1 ∉ fields.map (·.1)) →
    (writeText escape name ++ layout.colon ++ layOut escape layout v ++
      layOutFields escape layout others).length < fuel →
    depth + nestingOfFields ((name, v) :: others) ≤ limit →
    ∀ rest place, Reads (members [] limit fuel depth (writeText escape name ++ (layout.colon ++
      (layOut escape layout v ++ (layOutFields escape layout others ++
        (outer.break ++ '\x7d' :: rest))))) place fields)
      (fields ++ (name, v) :: others) rest

end

variable {limit : Nat}

theorem readsItems_succ (ofValues : ReadsValues escape limit fuel)
    (ofItems : ReadsItems escape limit fuel) : ReadsItems escape limit (fuel + 1) := by
  intro first others layout outer depth regular enough shallow rest place
  simp only [areRegular, Bool.and_eq_true] at regular
  simp only [nestingOfItems] at shallow
  rw [List.length_append] at enough
  have closed := endsNumber_break outer rest (Or.inl rfl)
  obtain ⟨behind, read⟩ := ofValues first layout depth regular.1 (by omega) (by omega)
    (layOutItems escape layout others ++ (outer.break ++ ']' :: rest)) place
    (endsNumber_items escape layout others closed)
  unfold items
  simp only [read, Bind.bind, Except.bind]
  -- Behind the item stands the closing bracket or a comma.
  cases others with
  | nil =>
    obtain ⟨closing, skipped⟩ := skip_break outer (']' :: rest) rfl behind
    simp only [layOutItems, List.nil_append, skipped]
    exact ⟨_, rfl⟩
  | cons second more =>
    simp only [areRegular, Bool.and_eq_true] at regular
    obtain ⟨blanks, comma, blank⟩ := comma_eq layout
    have spread (tail : List Char) : layOutItems escape layout (second :: more) ++ tail =
        ',' :: (blanks ++ (layOut escape layout second ++
          (layOutItems escape layout more ++ tail))) := by
      simp [layOutItems, comma]
    have left : (layOut escape layout second ++ layOutItems escape layout more).length <
        fuel := by
      have lengths := congrArg List.length (spread [])
      simp only [List.length_append, List.length_cons, List.length_nil] at lengths ⊢
      omega
    obtain ⟨next, skipped⟩ := skip_append blank _ (head?_layOut escape regular.2.1 layout
      (layOutItems escape layout more ++ (outer.break ++ ']' :: rest))) (behind + 1)
    obtain ⟨closing, readOthers⟩ := ofItems second more layout outer depth
      (by simp [areRegular, regular.2]) left (by omega) rest next
    have atComma (cs : List Char) : skip (',' :: cs) behind = (',' :: cs, behind) := rfl
    simp only [spread, atComma, skipped, readOthers]
    exact ⟨_, rfl⟩

theorem readsMembers_succ (spells : Spells escape) (ofValues : ReadsValues escape limit fuel)
    (ofMembers : ReadsMembers escape limit fuel) : ReadsMembers escape limit (fuel + 1) := by
  intro name v others fields layout outer depth regular new enough shallow rest place
  simp only [fieldsAreRegular, Bool.and_eq_true] at regular
  simp only [nestingOfFields] at shallow
  simp only [List.length_append] at enough
  have closed := endsNumber_break outer rest (Or.inr rfl)
  obtain ⟨blanks, colon, blank⟩ := colon_eq layout
  obtain ⟨body, quoted, behindName, readName⟩ := spells.string_writeText name (layout.colon ++
    (layOut escape layout v ++ (layOutFields escape layout others ++
      (outer.break ++ '\x7d' :: rest)))) (place + 1)
  have atColon (cs : List Char) : skip (layout.colon ++ cs) behindName =
      (':' :: (blanks ++ cs), behindName) := by
    rw [colon]
    rfl
  obtain ⟨start, atValue⟩ := skip_append blank _ (head?_layOut escape regular.1.2 layout
    (layOutFields escape layout others ++ (outer.break ++ '\x7d' :: rest))) (behindName + 1)
  obtain ⟨behind, read⟩ := ofValues v layout depth regular.1.2 (by omega) (by omega)
    (layOutFields escape layout others ++ (outer.break ++ '\x7d' :: rest)) start
    (endsNumber_fields escape layout others closed)
  unfold members
  -- No field before has the name, so this one is put behind them.
  simp only [quoted, readName, atColon, atValue, read, Bind.bind, Except.bind, nameOf_map_toNat,
    Value.setField_eq_put, Operations.put_of_new (new _ (.head _))]
  cases others with
  | nil =>
    obtain ⟨closing, skipped⟩ := skip_break outer ('\x7d' :: rest) rfl behind
    simp only [layOutFields, List.nil_append, skipped]
    exact ⟨_, rfl⟩
  | cons second more =>
    obtain ⟨other, w⟩ := second
    obtain ⟨blanks, comma, blank⟩ := comma_eq layout
    have spread (tail : List Char) : layOutFields escape layout ((other, w) :: more) ++ tail =
        ',' :: (blanks ++ (writeText escape other ++ (layout.colon ++ (layOut escape layout w ++
          (layOutFields escape layout more ++ tail))))) := by
      simp [layOutFields, comma]
    have left : (writeText escape other ++ layout.colon ++ layOut escape layout w ++
        layOutFields escape layout more).length < fuel := by
      have lengths := congrArg List.length (spread [])
      simp only [List.length_append, List.length_cons, List.length_nil] at lengths ⊢
      omega
    obtain ⟨next, skipped⟩ := skip_append blank (writeText escape other ++ (layout.colon ++
      (layOut escape layout w ++ (layOutFields escape layout more ++
        (outer.break ++ '\x7d' :: rest))))) rfl (behind + 1)
    have apart : ∀ field ∈ (other, w) :: more, field.1 ∉ (fields ++ [(name, v)]).map (·.1) := by
      intro field member
      have fresh : field.1 ∉ fields.map (·.1) := new field (.tail _ member)
      have unlike : field.1 ≠ name := fun same => by
        have named : name ∉ ((other, w) :: more).map (·.1) := by simpa using regular.1.1
        exact named (same ▸ List.mem_map_of_mem member)
      rw [List.map_append, List.mem_append, not_or]
      exact ⟨fresh, by simpa using unlike⟩
    obtain ⟨closing, readOthers⟩ := ofMembers other w more (fields ++ [(name, v)]) layout outer depth
      regular.2 apart left (by omega) rest next
    have atComma (cs : List Char) : skip (',' :: cs) behind = (',' :: cs, behind) := rfl
    simp only [spread, atComma, skipped, readOthers]
    exact ⟨closing, by rw [List.append_assoc]; rfl⟩

theorem value_of_solid {c : Char} (notText : c ≠ '"') (notList : c ≠ '[') (notObject : c ≠ '\x7b')
    (depth : Nat) (cs : List Char) (place : Nat) :
    value [] limit (fuel + 1) depth (c :: cs) place = plain (c :: cs) place := by
  unfold value
  split
  next same => exact absurd (List.cons.inj same).1 notText
  next same => exact absurd (List.cons.inj same).1 notList
  next same => exact absurd (List.cons.inj same).1 notObject
  next => rfl

theorem value_decimal (n : Int) (depth : Nat) (rest : List Char) (place : Nat) :
    value [] limit (fuel + 1) depth ((Number.decimal n).toList ++ rest) place =
      plain ((Number.decimal n).toList ++ rest) place := by
  obtain ⟨c, cs, digit, written | written⟩ := decimal_begins n
  all_goals rw [written]
  · have unlike : ∀ d ∈ ['"', '[', '\x7b'], c ≠ d := by
      rintro d member rfl
      simp only [List.mem_cons, List.not_mem_nil, or_false] at member
      rcases member with rfl | rfl | rfl <;> exact absurd digit (by decide)
    exact value_of_solid (unlike _ (by simp)) (unlike _ (by simp)) (unlike _ (by simp)) depth _ place
  · exact value_of_solid (by decide) (by decide) (by decide) depth _ place

theorem readsValues_succ (spells : Spells escape) (ofItems : ReadsItems escape limit fuel)
    (ofMembers : ReadsMembers escape limit fuel) : ReadsValues escape limit (fuel + 1) := by
  intro v layout depth regular enough shallow rest place ends
  cases v with
  | null =>
    refine ⟨place + 4, ?_⟩
    unfold value
    rfl
  | bool b =>
    refine ⟨place + if b then 4 else 5, ?_⟩
    unfold value
    cases b <;> rfl
  | int n =>
    simp only [isRegular, decide_eq_true_eq] at regular
    rw [layOut, value_decimal]
    exact plain_decimal n regular ends place
  | real x => cases regular
  | unpaired u => cases regular
  | text s =>
    obtain ⟨body, quoted, behind, read⟩ := spells.string_writeText s rest (place + 1)
    refine ⟨behind, ?_⟩
    unfold value
    simp only [layOut, quoted, read, Bind.bind, Except.bind, textValue_map_toNat]
    rfl
  | list items =>
    simp only [nesting] at shallow
    have room : ¬ depth ≥ limit := by omega
    cases items with
    | nil =>
      unfold value
      simp only [layOut, show "[]".toList = ['[', ']'] from rfl, List.cons_append, if_neg room]
      exact ⟨_, rfl⟩
    | cons first others =>
      have all : areRegular (first :: others) = true := regular
      have one : isRegular first = true := by
        simp only [areRegular, Bool.and_eq_true] at all
        exact all.1
      obtain ⟨c, cs, begins, _, notClosing, _⟩ := layOut_begins escape one layout.inner
      have spread : layOut escape layout (.list (first :: others)) ++ rest =
          '[' :: (layout.inner.break ++ (layOut escape layout.inner first ++
            (layOutItems escape layout.inner others ++ (layout.break ++ ']' :: rest)))) := by
        simp [layOut]
      have left : (layOut escape layout.inner first ++
          layOutItems escape layout.inner others).length < fuel := by
        have lengths := congrArg List.length spread
        simp only [List.length_append, List.length_cons] at lengths ⊢
        omega
      obtain ⟨next, skipped⟩ := skip_break layout.inner _ (head?_layOut escape one
        layout.inner (layOutItems escape layout.inner others ++ (layout.break ++ ']' :: rest)))
        (place + 1)
      obtain ⟨closing, read⟩ := ofItems first others layout.inner layout (depth + 1) all left
        (by omega) rest next
      unfold value
      simp only [spread, if_neg room, skipped]
      split
      -- A closing bracket right here would end an empty list, and no item begins with one.
      next same =>
        rw [begins] at same
        exact absurd (List.cons.inj same).1 notClosing
      next => exact ⟨closing, by simp only [read]; rfl⟩
  | object fields =>
    simp only [nesting] at shallow
    have room : ¬ depth ≥ limit := by omega
    cases fields with
    | nil =>
      unfold value
      simp only [layOut, List.cons_append, if_neg room]
      exact ⟨_, rfl⟩
    | cons field others =>
      obtain ⟨name, v⟩ := field
      have all : fieldsAreRegular ((name, v) :: others) = true := regular
      have sameColon : layout.colon = layout.inner.colon := by cases layout <;> rfl
      have spread : layOut escape layout (.object ((name, v) :: others)) ++ rest =
          '\x7b' :: (layout.inner.break ++ (writeText escape name ++ (layout.inner.colon ++
            (layOut escape layout.inner v ++ (layOutFields escape layout.inner others ++
              (layout.break ++ '\x7d' :: rest)))))) := by
        simp [layOut, sameColon]
      have left : (writeText escape name ++ layout.inner.colon ++ layOut escape layout.inner v ++
          layOutFields escape layout.inner others).length < fuel := by
        have lengths := congrArg List.length spread
        simp only [List.length_append, List.length_cons] at lengths ⊢
        omega
      obtain ⟨next, skipped⟩ := skip_break layout.inner (writeText escape name ++
        (layout.inner.colon ++ (layOut escape layout.inner v ++
          (layOutFields escape layout.inner others ++ (layout.break ++ '\x7d' :: rest))))) rfl
        (place + 1)
      obtain ⟨closing, read⟩ := ofMembers name v others [] layout.inner layout (depth + 1) all
        (by simp) left (by omega) rest next
      unfold value
      simp only [spread, if_neg room, skipped]
      split
      next same => cases (List.cons.inj same).1
      next => exact ⟨closing, by simp only [read]; rfl⟩

theorem reads_written (spells : Spells escape) (fuel : Nat) : ReadsValues escape limit fuel ∧
    ReadsItems escape limit fuel ∧ ReadsMembers escape limit fuel := by
  -- All three at once: each reader hands what is left of its fuel to the others. Without fuel
  -- there is nothing to be read, since every value has a character at least.
  induction fuel with
  | zero =>
    refine ⟨fun v layout _ regular enough => ?_, fun _ _ _ _ _ _ enough => ?_,
      fun _ _ _ _ _ _ _ _ _ enough => ?_⟩
    · obtain ⟨c, cs, begins, _⟩ := layOut_begins escape regular layout
      simp [begins] at enough
    · exact absurd enough (Nat.not_lt_zero _)
    · exact absurd enough (Nat.not_lt_zero _)
  | succ fuel ih =>
    obtain ⟨ofValues, ofItems, ofMembers⟩ := ih
    exact ⟨readsValues_succ spells ofItems ofMembers, readsItems_succ ofValues ofItems,
      readsMembers_succ spells ofValues ofMembers⟩

/-- A regular value that is not nested too deep is read back from its document. -/
theorem read_layOut (spells : Spells escape) {v : Value} (regular : isRegular v = true)
    (shallow : nesting v ≤ limit) (layout : Layout) :
    read limit (layOut escape layout v) = .ok v := by
  obtain ⟨c, cs, begins, solid, _, ascii⟩ := layOut_begins escape regular layout
  have unmarked :
      ((layOut escape layout v).head?.map (·.toNat == 0xFEFF)).getD false = false := by
    have notMark : c.toNat ≠ 0xFEFF := by omega
    rw [begins]
    exact beq_eq_false_iff_ne.mpr notMark
  have skipped : skip (layOut escape layout v) 0 = (layOut escape layout v, 0) := by
    rw [begins, skip, solid, if_neg Bool.false_ne_true]
  have ofValues : ReadsValues escape limit (2 * (layOut escape layout v).length + 2) :=
    (reads_written spells _).1
  obtain ⟨behind, whole⟩ := ofValues v layout 0 regular (by omega) (by omega) [] 0 rfl
  rw [List.append_nil] at whole
  rw [read, readWith, unmarked, if_neg Bool.false_ne_true, skipped]
  simp only [whole, Bind.bind, Except.bind]
  rfl

end

end Signpost.Json
