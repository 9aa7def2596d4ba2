import Mathlib.Data.List.TakeWhile
import Mathlib.Tactic.Ring
import Signpost.Proofs.Depth
import Signpost.Proofs.Document
import Signpost.Proofs.Fields
import Signpost.Sheet.Entry

/-!
# Values of a document have texts

An integer with too many digits has no text, and neither has a list inside too many others. A reader
of JSON refuses both, so that every value of a document has a text.

## Main result

`shown_of_rowsOfPayload`: the cells of the rows of a JSON text have texts.

## Proof strategy

A list or an object is entered only if a level is left, and there is room for its text on the same
ground (`shown_readers`). The cells of a row stand two levels below the document, which leaves no more
than there is room for where the text of a cell is asked for.
-/
namespace Signpost

namespace Value

/-! ### Room -/

mutual

theorem shown_of_le {room more : Nat} (enough : room ≤ more) {value : Value}
    (shown : unshown? room value = none) : unshown? more value = none := by
  cases value with
  | null | bool _ | real _ | text _ | unpaired _ => rfl
  | int n =>
    rw [unshown?] at shown ⊢
    exact shown
  | list items =>
    cases room with
    | zero => simp [unshown?] at shown
    | succ room =>
      cases more with
      | zero => cases enough
      | succ more =>
        rw [unshown?] at shown ⊢
        exact shownItem_of_le (Nat.le_of_succ_le_succ enough) shown
  | object fields =>
    cases room with
    | zero => simp [unshown?] at shown
    | succ room =>
      cases more with
      | zero => cases enough
      | succ more =>
        rw [unshown?] at shown ⊢
        exact shownField_of_le (Nat.le_of_succ_le_succ enough) shown

theorem shownItem_of_le {room more : Nat} (enough : room ≤ more) {items : List Value}
    (shown : unshownItem? room items = none) : unshownItem? more items = none := by
  cases items with
  | nil => rfl
  | cons item rest =>
    rw [unshownItem?, Option.or_eq_none_iff] at shown ⊢
    exact ⟨shown_of_le enough shown.1, shownItem_of_le enough shown.2⟩

theorem shownField_of_le {room more : Nat} (enough : room ≤ more)
    {fields : List (String × Value)} (shown : unshownField? room fields = none) :
    unshownField? more fields = none := by
  cases fields with
  | nil => rfl
  | cons field rest =>
    obtain ⟨name, value⟩ := field
    rw [unshownField?, Option.or_eq_none_iff] at shown ⊢
    exact ⟨shown_of_le enough shown.1, shownField_of_le enough shown.2⟩

end

theorem shownItem_iff {room : Nat} {items : List Value} :
    unshownItem? room items = none ↔ ∀ item ∈ items, unshown? room item = none := by
  induction items with
  | nil => simp [unshownItem?]
  | cons item rest ih => rw [unshownItem?, Option.or_eq_none_iff, ih, List.forall_mem_cons]

theorem shownField_iff {room : Nat} {fields : List (String × Value)} :
    unshownField? room fields = none ↔ ∀ field ∈ fields, unshown? room field.2 = none := by
  induction fields with
  | nil => simp [unshownField?]
  | cons field rest ih => rw [unshownField?, Option.or_eq_none_iff, ih, List.forall_mem_cons]

/-- A field with a text, set among others, leaves them fields with texts. -/
theorem shownField_setField {room : Nat} {fields : List (String × Value)} {value : Value}
    (others : unshownField? room fields = none) (shown : unshown? room value = none)
    (name : String) : unshownField? room (setField fields name value) = none := by
  rw [shownField_iff, setField_eq_put] at *
  intro field member
  rcases Operations.mem_put member with kept | rfl
  · exact others field kept
  · exact shown

end Value

namespace Json

/-! ### Readers -/

/-- Whatever is read has the property. -/
def Gives (property : α → Prop) (result : Except Error (Read α)) : Prop :=
  ∀ read, result = .ok read → property read.result

section

variable {property : α → Prop} {result : Except Error (Read β)}

theorem Gives.ok {read : Read α} (has : property read.result) : Gives property (.ok read) := by
  rintro _ ⟨⟩
  exact has

theorem Gives.error (error : Error) : Gives property (.error error) :=
  fun _ read => by cases read

theorem Gives.bind {first : β → Prop} {next : Read β → Except Error (Read α)}
    (given : Gives first result) (goesOn : ∀ read, first read.result → Gives property (next read)) :
    Gives property (result >>= next) := by
  cases result with
  | ok read => exact goesOn read (given read rfl)
  | error error => exact .error error

theorem Gives.named {codes : List Nat} {next : String → Except Error (Read α)}
    (goesOn : ∀ name, Gives property (next name)) : Gives property (nameOf codes >>= next) := by
  unfold nameOf
  cases Text.ofCodes codes with
  | ok name => exact goesOn name
  | error u => exact .error _

theorem gives_any (result : Except Error (Read β)) : Gives (fun _ => True) result :=
  fun _ _ => trivial

end

/-- Digits denote a number with no more digits than they are. -/
theorem valueAfter_lt {cs : List Char} (all : ∀ c ∈ cs, Text.isAsciiDigit c = true) (start : Nat) :
    (cs.map fun c => c.toNat - 0x30).foldl (fun value digit => 10 * value + digit) start <
      (start + 1) * 10 ^ cs.length := by
  induction cs generalizing start with
  | nil => simp
  | cons c rest ih =>
    have digit : c.toNat - 0x30 < 10 := by
      have bounds := all c (.head _)
      simp only [Text.isAsciiDigit, Bool.and_eq_true, decide_eq_true_eq] at bounds
      omega
    have later := ih (fun other member => all other (.tail _ member)) (10 * start + (c.toNat - 0x30))
    have scaled : (10 * start + (c.toNat - 0x30) + 1) * 10 ^ rest.length ≤
        (10 * (start + 1)) * 10 ^ rest.length := Nat.mul_le_mul_right _ (by omega)
    calc _ < _ := later
      _ ≤ (10 * (start + 1)) * 10 ^ rest.length := scaled
      _ = (start + 1) * 10 ^ (rest.length + 1) := by ring

/-- Few digits denote a number below the power of ten that stands for so many. -/
theorem ofDigits_lt {cs : List Char} (all : ∀ c ∈ cs, Text.isAsciiDigit c = true) {limit : Nat}
    (few : cs.length ≤ limit) :
    Number.ofDigits (cs.map fun c => c.toNat - 0x30) < Number.powerOfTen limit := by
  have below := valueAfter_lt all 0
  rw [Nat.zero_add, Nat.one_mul] at below
  exact Nat.lt_of_lt_of_le below (Nat.pow_le_pow_right (by decide) few)

theorem digits_of_wholePart {cs whole rest : List Char} (read : wholePart cs = some (whole, rest)) :
    ∀ c ∈ whole, Text.isAsciiDigit c = true := by
  unfold wholePart at read
  split at read
  · cases read
    intro c member
    rw [List.mem_singleton.mp member]
    rfl
  · split at read
    · cases read
      exact fun c member => List.mem_takeWhile_imp member
    · cases read
  · cases read

theorem gives_number (room : Nat) (cs : List Char) (place : Nat) :
    Gives (fun value => value.unshown? room = none) (number cs place) := by
  unfold number
  split
  next negative body _ =>
    split
    · exact .error _
    next whole rest read =>
      simp only
      split
      next isInteger =>
        split
        · exact .error _
        next short =>
          refine .ok ?_
          have noDecimals : (fraction rest).1 = [] := by simp_all
          have few := ofDigits_lt (digits_of_wholePart read) (Nat.le_of_not_lt short)
          have size (n : Nat) : (if negative then -(n : Int) else n).natAbs = n := by
            split <;> simp
          rw [noDecimals, List.append_nil, Value.unshown?, size, if_neg (Nat.not_le_of_lt few)]
      next => exact .ok rfl

theorem gives_plain (room : Nat) (cs : List Char) (place : Nat) :
    Gives (fun value => value.unshown? room = none) (plain cs place) := by
  unfold plain
  split
  next word value found =>
    refine .ok ?_
    have member := List.mem_of_find?_eq_some found
    simp only [words, List.mem_cons, List.not_mem_nil, or_false, Prod.mk.injEq] at member
    rcases member with ⟨_, rfl⟩ | ⟨_, rfl⟩ | ⟨_, rfl⟩ | ⟨_, rfl⟩ | ⟨_, rfl⟩ | ⟨_, rfl⟩ <;> rfl
  next => exact gives_number room cs place

section

variable {strays : List (Nat × Nat)} {limit fuel : Nat}

/-- At every depth there is room for the texts of what is read. -/
def ShowsValues (strays : List (Nat × Nat)) (limit fuel : Nat) : Prop :=
  ∀ depth cs place, Gives (fun v => v.unshown? (limit - depth) = none)
    (value strays limit fuel depth cs place)

def ShowsItems (strays : List (Nat × Nat)) (limit fuel : Nat) : Prop :=
  ∀ depth cs place, Gives (fun found => Value.unshownItem? (limit - depth) found = none)
    (items strays limit fuel depth cs place)

def ShowsMembers (strays : List (Nat × Nat)) (limit fuel : Nat) : Prop :=
  ∀ depth cs place fields, Value.unshownField? (limit - depth) fields = none →
    Gives (fun found => Value.unshownField? (limit - depth) found = none)
      (members strays limit fuel depth cs place fields)

theorem showsValues_succ (ofItems : ShowsItems strays limit fuel)
    (ofMembers : ShowsMembers strays limit fuel) :
    ShowsValues strays limit (fuel + 1) := by
  intro depth cs place
  unfold value
  split
  next rest =>
    refine (gives_any (string strays rest (place + 1))).bind fun read _ => .ok ?_
    unfold textValue
    split <;> rfl
  next rest =>
    split
    · exact .error _
    next levelsLeft =>
      -- The list takes one of the levels that are left, and its items have the others.
      obtain ⟨room, left⟩ : ∃ room, limit - depth = room + 1 :=
        ⟨limit - (depth + 1), by omega⟩
      have inside : limit - (depth + 1) = room := by omega
      rw [left]
      simp only
      split
      · exact .ok rfl
      · refine (ofItems (depth + 1) _ _).bind fun read shown => .ok ?_
        rw [Value.unshown?]
        rwa [inside] at shown
  next rest =>
    split
    · exact .error _
    next levelsLeft =>
      obtain ⟨room, left⟩ : ∃ room, limit - depth = room + 1 :=
        ⟨limit - (depth + 1), by omega⟩
      have inside : limit - (depth + 1) = room := by omega
      rw [left]
      simp only
      split
      · exact .ok rfl
      · refine (ofMembers (depth + 1) _ _ [] rfl).bind fun read shown => .ok ?_
        rw [Value.unshown?]
        rwa [inside] at shown
  next => exact gives_plain _ _ _

theorem showsItems_succ (ofValues : ShowsValues strays limit fuel)
    (ofItems : ShowsItems strays limit fuel) :
    ShowsItems strays limit (fuel + 1) := by
  intro depth cs place
  unfold items
  refine (ofValues depth cs place).bind fun first shown => ?_
  simp only
  split
  · exact .ok (Value.shownItem_iff.mpr (by simpa using shown))
  · refine (ofItems depth _ _).bind fun others rest => .ok ?_
    rw [Value.unshownItem?, Option.or_eq_none_iff]
    exact ⟨shown, rest⟩
  · exact .error _

theorem showsMembers_succ (ofValues : ShowsValues strays limit fuel)
    (ofMembers : ShowsMembers strays limit fuel) :
    ShowsMembers strays limit (fuel + 1) := by
  intro depth cs place fields known
  unfold members
  split
  next rest =>
    refine (gives_any (string strays rest (place + 1))).bind fun name _ => ?_
    simp only
    split
    · refine (ofValues depth _ _).bind fun member shown => Gives.named fun name => ?_
      have set := Value.shownField_setField known shown name
      split
      · exact .ok set
      · exact ofMembers depth _ _ _ set
      · exact .error _
    · exact .error _
  · exact .error _

theorem shown_readers (strays : List (Nat × Nat)) (limit fuel : Nat) :
    ShowsValues strays limit fuel ∧ ShowsItems strays limit fuel ∧ ShowsMembers strays limit fuel := by
  induction fuel with
  | zero =>
    refine ⟨fun depth cs place => ?_, fun depth cs place => ?_, fun depth cs place fields _ => ?_⟩
    · unfold value
      exact .error _
    · unfold items
      exact .error _
    · unfold members
      exact .error _
  | succ fuel ih =>
    obtain ⟨ofValues, ofItems, ofMembers⟩ := ih
    exact ⟨showsValues_succ ofItems ofMembers, showsItems_succ ofValues ofItems,
      showsMembers_succ ofValues ofMembers⟩

/-- The value of a document has a text where there is as much room as the reader had. -/
theorem shown_of_readWith {text : List Char} {v : Value} (done : readWith strays limit text = .ok v) :
    v.unshown? limit = none := by
  unfold readWith at done
  split at done
  · cases done
  · simp only [Bind.bind, Except.bind] at done
    split at done
    · cases done
    next document found =>
      split at done
      · cases done
        exact (shown_readers strays limit _).1 0 _ _ _ found
      · cases done

end

end Json

namespace Schema

/-! ### Integers -/

/-- The integer can be written with as many digits as a text may have. -/
def IsShort (n : Int) : Prop := n.natAbs < Number.powerOfTen Number.digitLimit

theorem powerOfTen_le {few many : Nat} (le : few ≤ many) :
    Number.powerOfTen few ≤ Number.powerOfTen many :=
  Nat.pow_le_pow_right (by decide) le

theorem isShort_of_le {n : Int} (small : n.natAbs ≤ Number.powerOfTwo 63) : IsShort n :=
  calc n.natAbs ≤ Number.powerOfTwo 63 := small
    _ < Number.powerOfTen 19 := by decide
    _ ≤ Number.powerOfTen Number.digitLimit := powerOfTen_le (by decide)

theorem isShort_of_integerReal {x : Number.Binary64} {n : Int} (read : integerReal x = .ok n) :
    IsShort n := by
  unfold integerReal at read
  split at read
  · cases read
  · cases read
  · split at read
    · cases read
    · simp only at read
      split at read
      next within =>
        cases read
        simp only [Bool.and_eq_true, decide_eq_true_eq] at within
        exact isShort_of_le (by omega)
      next => cases read

theorem digits_of_plainDigits? {cs digits : List Char} (read : plainDigits? cs = some digits) :
    ∀ c ∈ digits, Text.isAsciiDigit c = true := by
  simp only [plainDigits?] at read
  split at read
  next all =>
    cases read
    intro c member
    obtain ⟨part, present, inside⟩ := List.mem_flatten.mp member
    have both := List.all_eq_true.mp all part present
    exact List.all_eq_true.mp (Bool.and_eq_true_iff.mp both).2 c inside
  next => cases read

theorem isShort_of_integerText {s : String} {n : Int} (read : integerText s = .ok n) : IsShort n := by
  unfold integerText at read
  simp only at read
  split at read
  · cases read
  next digits found =>
    split at read
    · cases read
    next few =>
      obtain ⟨cs, _, plain⟩ := Option.bind_eq_some_iff.mp found
      have below := Json.ofDigits_lt (digits_of_plainDigits? plain) (Nat.le_of_not_lt few)
      cases read
      unfold IsShort
      split <;> simpa using below

/-- An integer that is read from a value with a text has one itself. -/
theorem isShort_of_integer {value : Value} {room : Nat} (shown : value.unshown? room = none) {n : Int}
    (read : integer value = .ok n) : IsShort n := by
  cases value with
  | bool b =>
    cases read
    exact isShort_of_le (by cases b <;> decide)
  | int m =>
    cases read
    rw [Value.unshown?] at shown
    split at shown
    · cases shown
    next few => exact Nat.lt_of_not_le few
  | real x => exact isShort_of_integerReal read
  | text s => exact isShort_of_integerText read
  | null | unpaired _ | list _ | object _ => cases read

end Schema

namespace Sheet

/-! ### Rows -/

variable [Platform] {rows : List Row} {row : Row}

omit [Platform] in
theorem mem_of_rowsOfItems {items : List Value} (taken : rowsOfItems items = .ok rows) :
    ∀ row ∈ rows, .object row ∈ items := by
  induction items generalizing rows with
  | nil =>
    cases taken
    exact fun _ member => nomatch member
  | cons item rest ih =>
    cases item with
    | object fields =>
      cases others : rowsOfItems rest with
      | error fault => simp [rowsOfItems, others, Except.map] at taken
      | ok more =>
        simp only [rowsOfItems, others, Except.map, Except.ok.injEq] at taken
        subst taken
        intro row member
        rcases List.mem_cons.mp member with rfl | later
        · exact .head _
        · exact .tail _ (ih others row later)
    | _ => simp [rowsOfItems] at taken

omit [Platform] in
/-- The rows of a value are two levels below it. -/
theorem shown_of_rowsOfValue {value : Value} {room : Nat} (shown : value.unshown? (room + 2) = none)
    (taken : rowsOfValue value = .ok rows) : ∀ row ∈ rows, Value.unshownField? room row = none := by
  -- The list itself, or that in the field of an object, which has even less room.
  obtain ⟨items, listed, fit⟩ : ∃ items, rowsOfItems items = .ok rows ∧
      Value.unshownItem? (room + 1) items = none := by
    cases value with
    | list items => exact ⟨items, taken, by rwa [Value.unshown?] at shown⟩
    | object fields =>
      cases found : fields.lookup "data" with
      | none => simp [rowsOfValue, found] at taken
      | some data =>
        rw [Value.unshown?] at shown
        have inside := Value.shownField_iff.mp shown _ (mem_of_lookup found)
        cases data with
        | list items =>
          rw [Value.unshown?] at inside
          exact ⟨items, by simpa [rowsOfValue, found] using taken,
            Value.shownItem_of_le (Nat.le_succ room) inside⟩
        | _ => simp [rowsOfValue, found] at taken
    | _ => simp [rowsOfValue] at taken
  intro row member
  have inside := Value.shownItem_iff.mp fit _ (mem_of_rowsOfItems listed row member)
  rwa [Value.unshown?] at inside

omit [Platform] in
theorem rowsOfItems_map (rows : List Row) : rowsOfItems (rows.map .object) = .ok rows := by
  induction rows with
  | nil => rfl
  | cons row rows ih =>
    rw [List.map_cons, rowsOfItems, ih]
    rfl

/-- The document that is written for rows has these rows. -/
theorem rowsOfPayload_written (regular : Json.isRegular (documentOf rows) = true)
    (shallow : Json.nesting (documentOf rows) ≤ Platform.documentDepth) :
    rowsOfPayload (.text (Json.writeIndented (documentOf rows))) = .ok rows := by
  have whole : Json.read Platform.documentDepth (Json.writeIndented (documentOf rows)).toList =
      .ok (documentOf rows) := by
    rw [Json.writeIndented, String.toList_ofList]
    exact Json.read_layOut Json.spells_escapeChar regular shallow (.indented 0)
  have value : valueOfCodes (Text.codesOf (Json.writeIndented (documentOf rows))) =
      .ok (documentOf rows) := by
    rw [valueOfCodes, Text.codesOf, Json.readCodes_map_toNat, whole]
    rfl
  simp only [rowsOfPayload, value, Bind.bind, Except.bind]
  exact rowsOfItems_map rows

theorem shown_of_document {codes : List Nat} (taken : valueOfCodes codes >>= rowsOfValue = .ok rows)
    (member : row ∈ rows) (column : String) : unshown? (cell row column) = none := by
  simp only [valueOfCodes, Bind.bind, Except.bind] at taken
  cases read : Json.readCodes Platform.documentDepth codes with
  | error error => simp [read, Except.mapError] at taken
  | ok value =>
    simp only [read, Except.mapError] at taken
    have shown := Value.shown_of_le Platform.shows_cells (Json.shown_of_readWith read)
    have fields := shown_of_rowsOfValue shown taken row member
    unfold unshown? cell
    cases found : row.lookup column with
    | none => rfl
    | some value => exact Value.shownField_iff.mp fields _ (mem_of_lookup found)

/-- The payload is a text or comes in bytes. -/
def Payload.IsWritten : Payload → Prop
  | .text _ | .bytes _ => True
  | .value _ => False

/-- The cells of the rows of a JSON text have texts. -/
theorem shown_of_rowsOfPayload {payload : Payload} (written : payload.IsWritten)
    (taken : rowsOfPayload payload = .ok rows) (member : row ∈ rows) (column : String) :
    unshown? (cell row column) = none := by
  cases payload with
  | value value => cases written
  | text text => exact shown_of_document taken member column
  | bytes bytes =>
    simp only [rowsOfPayload] at taken
    cases decoded : Text.decodeDetected bytes with
    | error undecodable =>
      rw [decoded] at taken
      cases taken
    | ok text =>
      rw [decoded] at taken
      exact shown_of_document taken member column

end Sheet
end Signpost
