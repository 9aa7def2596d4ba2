import Signpost.Text.Encoding

/-!
# Bytes read back as text

## Main result

`decodeCovered_encodeUtf8`: the bytes of a text in UTF-8 are read back as that text, without a fault to
cover. `decodeDetected_encodeUtf8`: so they are where the encoding has to be detected, if the text
begins with two characters of ASCII.

## Proof strategy

There are four forms of a character (`utf8Bytes_cases`). For each, the first byte says how many follow
and in which range the second one lies, so one step of the decoder finds the character with any bytes
behind it (`stepUtf8_utf8Bytes`).
-/
namespace Signpost.Text

variable {c : Char} {byte fuel : Nat} {bytes : List Nat}

/-! ### The bytes of a character -/

/-- The bytes of a character hang on the size of its code point. -/
theorem utf8Bytes_cases (c : Char) :
    (c.toNat < 0x80 ∧ utf8Bytes c = [c.toNat]) ∨
    (0x80 ≤ c.toNat ∧ c.toNat < 0x800 ∧
      utf8Bytes c = [0xC0 + c.toNat / 64, 0x80 + c.toNat % 64]) ∨
    (0x800 ≤ c.toNat ∧ c.toNat < 0x10000 ∧ (c.toNat < 0xD800 ∨ 0xDFFF < c.toNat) ∧
      utf8Bytes c = [0xE0 + c.toNat / 4096, 0x80 + c.toNat / 64 % 64, 0x80 + c.toNat % 64]) ∨
    (0x10000 ≤ c.toNat ∧ c.toNat < 0x110000 ∧
      utf8Bytes c = [0xF0 + c.toNat / 262144, 0x80 + c.toNat / 4096 % 64,
        0x80 + c.toNat / 64 % 64, 0x80 + c.toNat % 64]) := by
  have valid : c.toNat < 0xD800 ∨ 0xDFFF < c.toNat ∧ c.toNat < 0x110000 := c.valid
  simp only [utf8Bytes]
  split
  next one => exact Or.inl ⟨one, rfl⟩
  next above =>
    split
    next two => exact Or.inr (Or.inl ⟨by omega, two, rfl⟩)
    next =>
      split
      next three => exact Or.inr (Or.inr (Or.inl ⟨by omega, three, by omega, rfl⟩))
      next => exact Or.inr (Or.inr (Or.inr ⟨by omega, by omega, rfl⟩))

theorem utf8Bytes_of_ascii (ascii : c.toNat < 0x80) : utf8Bytes c = [c.toNat] :=
  if_pos ascii

theorem length_utf8Bytes_pos (c : Char) : 0 < (utf8Bytes c).length := by
  rcases utf8Bytes_cases c with ⟨_, bytes⟩ | ⟨_, _, bytes⟩ | ⟨_, _, _, bytes⟩ | ⟨_, _, bytes⟩ <;>
    simp [bytes]

theorem lt_of_mem_utf8Bytes (member : byte ∈ utf8Bytes c) : byte < 256 := by
  rcases utf8Bytes_cases c with ⟨_, bytes⟩ | ⟨_, _, bytes⟩ | ⟨_, _, _, bytes⟩ | ⟨_, _, bytes⟩ <;>
    simp only [bytes, List.mem_cons, List.not_mem_nil, or_false] at member <;> omega

/-! ### One step of the decoder -/

theorem continues_eq_true {low high byte : Nat} (above : low ≤ byte) (below : byte ≤ high) :
    continues low high byte = true := by
  simp [continues, above, below]

section

variable {a b d e code : Nat} {rest : List Nat}

theorem startsCharacter (low : 0xC2 ≤ a) (high : a ≤ 0xF4) :
    (decide (a < 0xC2) || decide (0xF4 < a)) ≠ true := by
  simp only [ne_eq, Bool.or_eq_true, decide_eq_true_eq]
  omega

/-- The first byte may narrow the range of the second one, from below or from above. -/
theorem continues_narrowed {first last low high : Nat} (second : 0x80 ≤ b ∧ b ≤ 0xBF)
    (long : a = first → low ≤ b) (short : a = last → b ≤ high) :
    continues (if a == first then low else 0x80) (if a == last then high else 0xBF) b = true := by
  apply continues_eq_true
  · split
    next same => exact long (beq_iff_eq.mp same)
    next => exact second.1
  · split
    next same => exact short (beq_iff_eq.mp same)
    next => exact second.2

theorem stepUtf8_two (lead : 0xC2 ≤ a ∧ a < 0xE0) (second : 0x80 ≤ b ∧ b ≤ 0xBF)
    (worth : (a - 0xC0) * 64 + (b - 0x80) = code) :
    stepUtf8 (a :: b :: rest) = .ok (code, 2) := by
  have started := startsCharacter lead.1 (by omega)
  unfold stepUtf8
  dsimp only
  rw [if_neg (by omega), if_neg started, if_pos lead.2,
    if_pos (continues_eq_true second.1 second.2), worth]

theorem stepUtf8_three (lead : 0xE0 ≤ a ∧ a < 0xF0) (second : 0x80 ≤ b ∧ b ≤ 0xBF)
    (long : a = 0xE0 → 0xA0 ≤ b) (short : a = 0xED → b ≤ 0x9F) (third : 0x80 ≤ d ∧ d ≤ 0xBF)
    (worth : (a - 0xE0) * 4096 + (b - 0x80) * 64 + (d - 0x80) = code) :
    stepUtf8 (a :: b :: d :: rest) = .ok (code, 3) := by
  have started : (decide (a < 0xC2) || decide (0xF4 < a)) ≠ true :=
    startsCharacter (by omega) (by omega)
  have follows := continues_narrowed second long short
  unfold stepUtf8
  dsimp only
  rw [if_neg (by omega), if_neg started, if_neg (by omega), if_pos lead.2, follows, Bool.not_true,
    if_neg Bool.false_ne_true, if_pos (continues_eq_true third.1 third.2), worth]

theorem stepUtf8_four (lead : 0xF0 ≤ a ∧ a ≤ 0xF4) (second : 0x80 ≤ b ∧ b ≤ 0xBF)
    (long : a = 0xF0 → 0x90 ≤ b) (short : a = 0xF4 → b ≤ 0x8F) (third : 0x80 ≤ d ∧ d ≤ 0xBF)
    (fourth : 0x80 ≤ e ∧ e ≤ 0xBF)
    (worth : (a - 0xF0) * 262144 + (b - 0x80) * 4096 + (d - 0x80) * 64 + (e - 0x80) = code) :
    stepUtf8 (a :: b :: d :: e :: rest) = .ok (code, 4) := by
  have started : (decide (a < 0xC2) || decide (0xF4 < a)) ≠ true :=
    startsCharacter (by omega) lead.2
  have follows := continues_narrowed second long short
  unfold stepUtf8
  dsimp only
  rw [if_neg (by omega), if_neg started, if_neg (by omega), if_neg (by omega), follows, Bool.not_true,
    if_neg Bool.false_ne_true, continues_eq_true third.1 third.2, Bool.not_true,
    if_neg Bool.false_ne_true, if_pos (continues_eq_true fourth.1 fourth.2), worth]

end

/-- The bytes of a character are found in front of any others. -/
theorem stepUtf8_utf8Bytes (c : Char) (rest : List Nat) :
    stepUtf8 (utf8Bytes c ++ rest) = .ok (c.toNat, (utf8Bytes c).length) := by
  rcases utf8Bytes_cases c with ⟨one, bytes⟩ | ⟨_, _, bytes⟩ | ⟨_, _, _, bytes⟩ | ⟨_, _, bytes⟩
  · rw [bytes]
    exact if_pos one
  · rw [bytes]
    exact stepUtf8_two (by omega) (by omega) (by omega)
  · rw [bytes]
    exact stepUtf8_three (by omega) (by omega) (by omega) (by omega) (by omega) (by omega)
  · rw [bytes]
    exact stepUtf8_four (by omega) (by omega) (by omega) (by omega) (by omega) (by omega) (by omega)

/-- The bytes of a character do not spell a surrogate. -/
theorem stepUtf8Lenient_utf8Bytes (c : Char) (rest : List Nat) :
    stepUtf8Lenient (utf8Bytes c ++ rest) = .ok (c.toNat, (utf8Bytes c).length) := by
  unfold stepUtf8Lenient
  split
  next second third _ same =>
    -- Where the first byte is that of a surrogate, the second is below those of surrogates.
    have below : second < 0xA0 := by
      rcases utf8Bytes_cases c with ⟨_, bytes⟩ | ⟨_, _, bytes⟩ | ⟨_, _, _, bytes⟩ | ⟨_, _, bytes⟩ <;>
        rw [bytes] at same <;>
        simp only [List.cons_append, List.nil_append, List.cons.injEq] at same <;> omega
    have other : continues 0xA0 0xBF second = false := by
      simp [continues]
      omega
    rw [other, Bool.false_and, if_neg Bool.false_ne_true]
    exact stepUtf8_utf8Bytes c rest
  next => exact stepUtf8_utf8Bytes c rest

/-! ### Whole texts -/

theorem decodeWith_of_step {step : List Nat → Step} {chunk : List Nat} (some : chunk ≠ [])
    (found : step (chunk ++ bytes) = .ok (c.toNat, chunk.length)) (encoding : Encoding)
    (position : Nat) : decodeWith encoding step (fuel + 1) position (chunk ++ bytes) =
      (decodeWith encoding step fuel (position + chunk.length) bytes).map (c.toNat :: ·) := by
  obtain ⟨first, more, rfl⟩ := List.exists_cons_of_ne_nil some
  rw [List.cons_append] at found ⊢
  rw [decodeWith, found]
  simp only [List.length_cons, List.drop_succ_cons, List.drop_left]

/-- A step that finds every character in front of others finds the whole text. -/
theorem decodeWith_encodeUtf8 {step : List Nat → Step}
    (finds : ∀ c rest, step (utf8Bytes c ++ rest) = .ok (c.toNat, (utf8Bytes c).length))
    (encoding : Encoding) (position : Nat) (cs : List Char)
    (enough : (encodeUtf8 cs).length ≤ fuel) :
    decodeWith encoding step fuel position (encodeUtf8 cs) = .ok (cs.map (·.toNat)) := by
  induction cs generalizing fuel position with
  | nil => cases fuel <;> rfl
  | cons c rest ih =>
    have whole : encodeUtf8 (c :: rest) = utf8Bytes c ++ encodeUtf8 rest := List.flatMap_cons
    have positive := length_utf8Bytes_pos c
    rw [whole, List.length_append] at enough
    obtain ⟨left, rfl⟩ : ∃ left, fuel = left + 1 := ⟨fuel - 1, by omega⟩
    rw [whole, decodeWith_of_step (List.ne_nil_of_length_pos positive) (finds c _),
      ih _ (by omega)]
    rfl

/-- Without zeros and marks at the front, the encoding is taken for UTF-8. -/
theorem decodeDetected_of_ascii {a b : Nat} (first : 0 < a ∧ a < 0x80) (second : 0 < b ∧ b < 0x80)
    (bytes : List Nat) : decodeDetected (a :: b :: bytes) = decodeLenient .utf8 0 (a :: b :: bytes) := by
  have firstSome : (a == 0) = false := beq_eq_false_iff_ne.mpr (by omega)
  have secondSome : (b == 0) = false := beq_eq_false_iff_ne.mpr (by omega)
  unfold decodeDetected
  split
  case h_6 | h_7 =>
    rename_i same
    simp only [List.cons.injEq] at same
    simp only [← same.1, ← same.2.1, firstSome, secondSome, Bool.false_eq_true, if_false]
  case h_8 => rfl
  -- The five marks begin with a zero or with a byte beyond ASCII.
  all_goals
    rename_i same
    simp only [List.cons.injEq] at same
    omega

theorem decodeDetected_encodeUtf8 {d : Char} (first : 0 < c.toNat ∧ c.toNat < 0x80)
    (second : 0 < d.toNat ∧ d.toNat < 0x80) (cs : List Char) :
    decodeDetected (encodeUtf8 (c :: d :: cs)) = .ok ((c :: d :: cs).map (·.toNat)) := by
  have whole : encodeUtf8 (c :: d :: cs) = c.toNat :: d.toNat :: encodeUtf8 cs := by
    rw [encodeUtf8, List.flatMap_cons, List.flatMap_cons, utf8Bytes_of_ascii first.2,
      utf8Bytes_of_ascii second.2]
    rfl
  have detected := decodeDetected_of_ascii first second (encodeUtf8 cs)
  rw [← whole] at detected
  rw [detected]
  exact decodeWith_encodeUtf8 stepUtf8Lenient_utf8Bytes .utf8 0 _ (Nat.le_refl _)

theorem coverFaults_utf8Bytes (c : Char) (fuel : Nat) (bytes : List Nat) :
    coverFaults (fuel + 1) (utf8Bytes c ++ bytes) = c :: coverFaults fuel bytes := by
  have nonempty : (utf8Bytes c ++ bytes).isEmpty = false := by
    rw [List.isEmpty_eq_false_iff]
    exact List.append_ne_nil_of_left_ne_nil (List.ne_nil_of_length_pos (length_utf8Bytes_pos c)) bytes
  rw [coverFaults, nonempty, if_neg Bool.false_ne_true, stepUtf8_utf8Bytes]
  simp only [Char.ofNat_toNat, List.drop_left]

theorem coverFaults_encodeUtf8 (cs : List Char) (enough : (encodeUtf8 cs).length ≤ fuel) :
    coverFaults fuel (encodeUtf8 cs) = cs := by
  induction cs generalizing fuel with
  | nil => cases fuel <;> rfl
  | cons c rest ih =>
    have whole : encodeUtf8 (c :: rest) = utf8Bytes c ++ encodeUtf8 rest := List.flatMap_cons
    have positive := length_utf8Bytes_pos c
    rw [whole, List.length_append] at enough
    -- Every character has at least one byte to pay for its step.
    obtain ⟨left, rfl⟩ : ∃ left, fuel = left + 1 := ⟨fuel - 1, by omega⟩
    rw [whole, coverFaults_utf8Bytes, ih (by omega)]

theorem decodeCovered_encodeUtf8 (cs : List Char) : decodeCovered (encodeUtf8 cs) = cs :=
  coverFaults_encodeUtf8 cs (Nat.le_refl _)

theorem decodeCovered_cons_ascii (ascii : c.toNat < 0x80) (bytes : List Nat) :
    decodeCovered (c.toNat :: bytes) = c :: decodeCovered bytes := by
  have step := coverFaults_utf8Bytes c bytes.length bytes
  rw [utf8Bytes_of_ascii ascii] at step
  exact step

end Signpost.Text
