import Signpost.Proofs.Utf8
import Signpost.Url.Query

/-!
# Queries that are written and read again

## Main results

* `decodePairs_encodePairs`: pairs come back from the query that is written of them.
* `isQueryText_encodePairs`: such a query has unreserved characters, escapes and separators only.

## Proof strategy

The escapes of a character stand for its bytes, with anything behind them (`escapedBytes_encodeChar`).
What is written is ASCII without plus signs and separators, so it is unescaped as one run and is cut
where it was joined.
-/
namespace Signpost.Url

open Text (pieces cut join)

variable {c : Char} {byte digit : Nat} {cs front back : List Char}

/-! ### The text of a query -/

/-- The text of a query: unreserved characters, escapes of two hexadecimal digits, and the signs
between keys and values and between pairs. -/
inductive IsQueryText : List Char → Prop
  | nil : IsQueryText []
  | unreserved {c : Char} {rest : List Char} (plain : isUnreserved c = true)
      (behind : IsQueryText rest) : IsQueryText (c :: rest)
  | escape {high low : Char} {rest : List Char} (first : Text.isHexDigit high = true)
      (second : Text.isHexDigit low = true) (behind : IsQueryText rest) :
      IsQueryText ('%' :: high :: low :: rest)
  | equals {rest : List Char} (behind : IsQueryText rest) : IsQueryText ('=' :: rest)
  | ampersand {rest : List Char} (behind : IsQueryText rest) : IsQueryText ('&' :: rest)

theorem IsQueryText.append (ahead : IsQueryText front) (behind : IsQueryText back) :
    IsQueryText (front ++ back) := by
  induction ahead with
  | nil => exact behind
  | unreserved plain _ ih => exact .unreserved plain ih
  | escape first second _ ih => exact .escape first second ih
  | equals _ ih => exact .equals ih
  | ampersand _ ih => exact .ampersand ih

theorem IsQueryText.flatMap {items : List α} {write : α → List Char}
    (each : ∀ item ∈ items, IsQueryText (write item)) : IsQueryText (items.flatMap write) := by
  induction items with
  | nil => exact .nil
  | cons item rest ih =>
    rw [List.flatMap_cons]
    apply IsQueryText.append
    · exact each item (.head _)
    · exact ih fun other member => each other (.tail _ member)

/-! ### Hexadecimal digits -/

theorem hexValue?_capitalHexDigit :
    ∀ digit < 16, Text.hexValue? (capitalHexDigit digit) = some digit := by
  decide

theorem isHexDigit_capitalHexDigit (small : digit < 16) :
    Text.isHexDigit (capitalHexDigit digit) = true := by
  rw [Text.isHexDigit, hexValue?_capitalHexDigit digit small, Option.isSome_some]

theorem isUnreserved_capitalHexDigit :
    ∀ digit < 16, isUnreserved (capitalHexDigit digit) = true := by
  decide

theorem isQueryText_escapeByte (small : byte < 256) : IsQueryText (escapeByte byte) :=
  .escape (isHexDigit_capitalHexDigit (by omega)) (isHexDigit_capitalHexDigit (by omega)) .nil

theorem escapedBytes_escapeByte (small : byte < 256) (rest : List Char) :
    escapedBytes (escapeByte byte ++ rest) = byte :: escapedBytes rest := by
  have high := hexValue?_capitalHexDigit (byte / 16) (by omega)
  have low := hexValue?_capitalHexDigit (byte % 16) (by omega)
  have whole : 16 * (byte / 16) + byte % 16 = byte := Nat.div_add_mod byte 16
  simp only [escapeByte, List.cons_append, List.nil_append, escapedBytes, high, low, whole]

theorem escapedBytes_cons (plain : c ≠ '%') (rest : List Char) :
    escapedBytes (c :: rest) = c.toNat :: escapedBytes rest := by
  rw [escapedBytes]
  intro _ _ _ percent _
  exact plain percent

theorem escapedBytes_flatMap {bytes : List Nat} (small : ∀ byte ∈ bytes, byte < 256)
    (rest : List Char) :
    escapedBytes (bytes.flatMap escapeByte ++ rest) = bytes ++ escapedBytes rest := by
  induction bytes with
  | nil => rfl
  | cons byte bytes ih =>
    rw [List.flatMap_cons, List.append_assoc, escapedBytes_escapeByte (small byte (.head _)),
      ih fun other member => small other (.tail _ member)]
    rfl

/-! ### Keys and values -/

theorem ascii_of_isUnreserved (plain : isUnreserved c = true) :
    c.toNat < 0x80 ∧ c ≠ '%' ∧ c ≠ '+' ∧ c ≠ '=' ∧ c ≠ '&' := by
  refine ⟨?_, ?_, ?_, ?_, ?_⟩
  · simp only [isUnreserved, Text.isAsciiLetter, Text.isAsciiDigit, Bool.or_eq_true,
      Bool.and_eq_true, decide_eq_true_eq, beq_iff_eq] at plain
    rcases plain with ((((letter | digit) | rfl) | rfl) | rfl) | rfl
    · omega
    · omega
    all_goals decide
  all_goals
    rintro rfl
    revert plain
    decide

theorem isQueryText_encodeComponent (cs : List Char) : IsQueryText (encodeComponent cs) := by
  apply IsQueryText.flatMap
  intro c _
  unfold encodeChar
  split
  next plain => exact .unreserved plain .nil
  next => exact IsQueryText.flatMap fun byte member =>
      isQueryText_escapeByte (Text.lt_of_mem_utf8Bytes member)

theorem escapedBytes_encodeChar (c : Char) (rest : List Char) :
    escapedBytes (encodeChar c ++ rest) = Text.utf8Bytes c ++ escapedBytes rest := by
  unfold encodeChar
  split
  next plain =>
    obtain ⟨ascii, noPercent, _⟩ := ascii_of_isUnreserved plain
    rw [Text.utf8Bytes_of_ascii ascii]
    exact escapedBytes_cons noPercent rest
  next => exact escapedBytes_flatMap (fun byte => Text.lt_of_mem_utf8Bytes) rest

theorem escapedBytes_encodeComponent (cs : List Char) :
    escapedBytes (encodeComponent cs) = Text.encodeUtf8 cs := by
  induction cs with
  | nil => rfl
  | cons c rest ih =>
    rw [encodeComponent, List.flatMap_cons, escapedBytes_encodeChar]
    exact congrArg (Text.utf8Bytes c ++ ·) ih

/-- What is written of a key or a value has unreserved characters and percent signs only. -/
theorem mem_encodeComponent (member : c ∈ encodeComponent cs) :
    isUnreserved c = true ∨ c = '%' := by
  obtain ⟨source, _, written⟩ := List.mem_flatMap.mp member
  unfold encodeChar at written
  split at written
  next plain =>
    rw [List.mem_singleton.mp written]
    exact Or.inl plain
  next =>
    obtain ⟨byte, among, escaped⟩ := List.mem_flatMap.mp written
    have small := Text.lt_of_mem_utf8Bytes among
    simp only [escapeByte, List.mem_cons, List.not_mem_nil, or_false] at escaped
    rcases escaped with percent | high | low
    · exact Or.inr percent
    · exact Or.inl (high ▸ isUnreserved_capitalHexDigit (byte / 16) (by omega))
    · exact Or.inl (low ▸ isUnreserved_capitalHexDigit (byte % 16) (by omega))

theorem ascii_of_mem_encodeComponent (member : c ∈ encodeComponent cs) :
    c.toNat < 0x80 ∧ c ≠ '+' ∧ c ≠ '=' ∧ c ≠ '&' := by
  rcases mem_encodeComponent member with plain | rfl
  · obtain ⟨ascii, _, others⟩ := ascii_of_isUnreserved plain
    exact ⟨ascii, others⟩
  · decide

theorem unescapeAfter_of_ascii (run : List Char) (ascii : ∀ c ∈ cs, c.toNat < 0x80) :
    unescapeAfter run cs = Text.decodeCovered (escapedBytes (run.reverse ++ cs)) := by
  induction cs generalizing run with
  | nil => rw [unescapeAfter, List.append_nil]
  | cons c rest ih =>
    have others := ih (c :: run) fun other member => ascii other (.tail _ member)
    rw [unescapeAfter, if_pos (ascii c (.head _)), others, List.reverse_cons, List.append_assoc]
    rfl

theorem decodeComponent_encodeComponent (cs : List Char) :
    decodeComponent (encodeComponent cs) = cs := by
  have same : (encodeComponent cs).map (fun c => if c = '+' then ' ' else c) =
      encodeComponent cs := by
    refine (List.map_congr_left ?_).trans (List.map_id _)
    intro c member
    exact if_neg (ascii_of_mem_encodeComponent member).2.1
  -- No plus sign becomes a blank, and all that is written is one run of ASCII.
  rw [decodeComponent, same, unescape,
    unescapeAfter_of_ascii [] fun c member => (ascii_of_mem_encodeComponent member).1]
  rw [List.reverse_nil, List.nil_append, escapedBytes_encodeComponent,
    Text.decodeCovered_encodeUtf8]

/-! ### Pairs -/

theorem decodePair_encodePair (pair : QueryPair) : decodePair (encodePair pair) = pair := by
  have bare : '=' ∉ encodeComponent pair.1 := fun member =>
    (ascii_of_mem_encodeComponent member).2.2.1 rfl
  rw [decodePair, encodePair, Text.cut_append bare]
  simp only [decodeComponent_encodeComponent]

theorem isQueryText_encodePair (pair : QueryPair) : IsQueryText (encodePair pair) :=
  (isQueryText_encodeComponent pair.1).append (.equals (isQueryText_encodeComponent pair.2))

theorem not_mem_encodePair (pair : QueryPair) : '&' ∉ encodePair pair := by
  have bare (cs : List Char) : '&' ∉ encodeComponent cs := fun member =>
    (ascii_of_mem_encodeComponent member).2.2.2 rfl
  simp [encodePair, bare]

theorem isQueryText_encodePairs (pairs : List QueryPair) : IsQueryText (encodePairs pairs) := by
  have joined {parts : List (List Char)} (each : ∀ part ∈ parts, IsQueryText part) :
      IsQueryText (join '&' parts) := by
    fun_induction join '&' parts with
    | case1 => exact .nil
    | case2 part => exact each part (.head _)
    | case3 part rest _ ih =>
      apply IsQueryText.append
      · exact each part (.head _)
      · exact .ampersand (ih fun other member => each other (.tail _ member))
  apply joined
  intro part member
  obtain ⟨pair, _, rfl⟩ := List.mem_map.mp member
  exact isQueryText_encodePair pair

theorem decodePairs_encodePairs (pairs : List QueryPair) :
    decodePairs (encodePairs pairs) = pairs := by
  cases pairs with
  | nil => rfl
  | cons first others =>
    have bare : ∀ part ∈ (first :: others).map encodePair, '&' ∉ part := by
      intro part member
      obtain ⟨pair, _, rfl⟩ := List.mem_map.mp member
      exact not_mem_encodePair pair
    have nonempty : ∀ part ∈ (first :: others).map encodePair, (!part.isEmpty) = true := by
      intro part member
      obtain ⟨pair, _, rfl⟩ := List.mem_map.mp member
      simp [encodePair]
    rw [decodePairs, encodePairs, Text.pieces_join (by simp) bare, List.filter_eq_self.mpr nonempty,
      List.map_map]
    exact (List.map_congr_left fun pair _ => decodePair_encodePair pair).trans (List.map_id _)

/-- A query without text is that of no pairs. -/
theorem encodePairs_eq_nil_iff {pairs : List QueryPair} : encodePairs pairs = [] ↔ pairs = [] := by
  constructor
  · intro empty
    have again := decodePairs_encodePairs pairs
    rw [empty] at again
    exact again.symm
  · rintro rfl
    rfl

end Signpost.Url
