import Signpost.Http.Document
import Signpost.Proofs.Shown
import Signpost.Proofs.Utf8

/-!
# Bodies

What was sent as the body of a response can be sent as the body of a request, and it is read there as
what it was. Integers that are read from a body are short enough to be sent in turn.

## Main results

`readDocument_sent`: a regular object is read back from its bytes. `exists_fields_of_readBody`: a record
that is read from a body is read from fields that have texts.

## Proof strategy

An object that is not empty begins with two characters of ASCII, by which its encoding is detected; what
is left is the round trip of the encoding and that of the document.
-/
namespace Signpost

/-! ### Objects that can be sent and read back -/

namespace Json

variable {fields : List (String × Value)}

theorem fieldsAreRegular_of_forall (distinct : (fields.map (·.1)).Nodup)
    (regular : ∀ field ∈ fields, isRegular field.2 = true) : fieldsAreRegular fields = true := by
  induction fields with
  | nil => rfl
  | cons field rest ih =>
    obtain ⟨name, value⟩ := field
    rw [List.map_cons, List.nodup_cons] at distinct
    rw [List.forall_mem_cons] at regular
    have new : (rest.map (·.1)).contains name = false := by simpa using distinct.1
    rw [fieldsAreRegular, new, regular.1, ih distinct.2 regular.2]
    rfl

theorem fieldsAreSendable_of_forall (sendable : ∀ field ∈ fields, isSendable field.2 = true) :
    fieldsAreSendable fields = true := by
  induction fields with
  | nil => rfl
  | cons field rest ih =>
    rw [List.forall_mem_cons] at sendable
    rw [fieldsAreSendable, sendable.1, ih sendable.2]
    rfl

theorem nestingOfFields_le {depth : Nat} (flat : ∀ field ∈ fields, nesting field.2 ≤ depth) :
    nestingOfFields fields ≤ depth := by
  induction fields with
  | nil => exact Nat.zero_le depth
  | cons field rest ih =>
    rw [List.forall_mem_cons] at flat
    exact Nat.max_le.mpr ⟨flat.1, ih flat.2⟩

/-- An object that is not empty begins with a brace and a quote. -/
theorem layOut_object (escape : Char → List Char) (some : fields ≠ []) :
    ∃ rest, layOut escape .compact (.object fields) = '\x7b' :: '"' :: rest := by
  obtain ⟨⟨name, value⟩, others, rfl⟩ := List.exists_cons_of_ne_nil some
  exact ⟨_, rfl⟩

end Json

namespace Http

variable [Platform] {request : Request}

/-- A regular object is read back from its bytes, if these are declared as JSON. -/
theorem readDocument_sent {fields : List (String × Value)} (some : fields ≠ [])
    (regular : Json.isRegular (.object fields) = true)
    (shallow : Json.nesting (.object fields) ≤ Platform.documentDepth)
    (declared : isJsonType (request.header? "content-type") = true)
    (sent : request.body = (Body.json (.object fields)).bytes) :
    readDocument request = .ok (.value (.object fields)) := by
  obtain ⟨rest, begins⟩ := Json.layOut_object Json.escapeControl some
  have bytes : request.body = Text.encodeUtf8 ('\x7b' :: '"' :: rest) := by
    rw [sent, Body.bytes, Json.writeCompact, String.toList_ofList, begins]
  have filled : request.body.isEmpty = false := by
    rw [bytes]
    rfl
  have decoded : Text.decodeDetected request.body = .ok (('\x7b' :: '"' :: rest).map (·.toNat)) := by
    rw [bytes]
    exact Text.decodeDetected_encodeUtf8 (by decide) (by decide) rest
  have read : Json.readCodes Platform.documentDepth (('\x7b' :: '"' :: rest).map (·.toNat)) =
      .ok (.object fields) := by
    rw [Json.readCodes_map_toNat, ← begins]
    exact Json.read_layOut Json.spells_escapeControl regular shallow .compact
  simp only [readDocument, filled, declared, decoded, read, Bool.false_eq_true, if_false, Bool.not_true]

theorem shown_of_readDocument {request : Request} {value : Value}
    (read : readDocument request = .ok (.value value)) :
    value.unshown? Platform.documentDepth = none := by
  simp only [readDocument] at read
  split at read
  · cases read
  · split at read
    · cases read
    · split at read
      · cases read
      · split at read
        next found =>
          cases read
          exact Json.shown_of_readWith found
        all_goals cases read

/-- A record that is read from a body is read from the fields of an object, and these have texts. -/
theorem exists_fields_of_readBody {request : Request} {reader : Value → Schema.Checked α} {record : α}
    (read : readBody request reader = .ok record) :
    ∃ fields, reader (.object fields) = .ok record ∧
      ∀ field ∈ fields, field.2.unshown? Platform.documentDepth = none := by
  rw [readBody] at read
  cases taken : readDocument request with
  | error response =>
    rw [taken] at read
    cases read
  | ok document =>
    rw [taken] at read
    change readRecord _ document = .ok record at read
    unfold readRecord at read
    split at read
    · cases read
    · cases read
    next fields =>
      refine ⟨fields, ?_, ?_⟩
      · simp only at read
        cases made : reader (.object fields) with
        | error problems => simp [made, Except.mapError] at read
        | ok other =>
          rw [made] at read
          cases read
          rfl
      · -- The fields stand one level inside of the object.
        have shown := shown_of_readDocument taken
        revert shown
        cases Platform.documentDepth with
        | zero => exact nofun
        | succ room =>
          rw [Value.unshown?]
          exact fun shown field member =>
            Value.shown_of_le (Nat.le_succ room) (Value.shownField_iff.mp shown field member)
    · cases read
    · split at read <;> cases read

end Http
end Signpost
