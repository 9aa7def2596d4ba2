import Mathlib.Data.List.Infix
import Signpost.Json.Reader

/-!
# How deep a document is nested

The reader of JSON gives up on a document whose lists and objects are nested too deep. Every level of
nesting is entered by a bracket of its own.

## Main result

`not_deep_of_openings`: a document with no more opening brackets than there are levels that the reader
enters is not too deep for it.

## Proof strategy

Every reader goes on behind what it has read, so that brackets are not counted twice. A reader that
fails because of the depth has come by a bracket for every level (`bounded_readers`); readers of texts
and numbers never do (`Shallow`).
-/
namespace Signpost.Json

/-! ### Readers that enter no level -/

/-- The nesting is too deep. -/
def Error.isDeep : Error → Bool
  | deepList | deepObject => true
  | fault _ _ | longNumeral _ | unpairedName => false

/-- The reader goes on behind what it has read, or fails, and then not because of the depth. -/
def Shallow (cs : List Char) : Except Error (Read α) → Prop
  | .ok read => read.rest <:+ cs
  | .error error => error.isDeep = false

theorem Shallow.of_suffix {cs part : List Char} {result : Except Error (Read α)}
    (shallow : Shallow part result) (suffix : part <:+ cs) : Shallow cs result := by
  cases result with
  | ok read => exact shallow.trans suffix
  | error error => exact shallow

theorem Shallow.behind {c : Char} {cs : List Char} {result : Except Error (Read α)}
    (shallow : Shallow cs result) : Shallow (c :: cs) result :=
  shallow.of_suffix (List.suffix_cons c cs)

theorem shallow_stringBody (strays : List (Nat × Nat)) (start fuel : Nat) (cs : List Char)
    (place : Nat) (read : List Nat) :
    Shallow cs (stringBody strays start fuel cs place read) := by
  induction fuel generalizing cs place read with
  | zero => exact rfl
  | succ fuel ih =>
    unfold stringBody
    repeat' split
    any_goals first
      | contradiction
      | exact rfl
      | exact List.suffix_cons _ _
    all_goals
      injections
      subst_vars
      repeat first
        | exact ih _ _ _
        | apply Shallow.behind

/-! ### Numbers and blanks -/

theorem digits_suffix (cs : List Char) : (digits cs).2 <:+ cs := List.dropWhile_suffix _

theorem fraction_suffix (cs : List Char) : (fraction cs).2 <:+ cs := by
  unfold fraction
  split
  · simp only
    split
    · exact List.suffix_rfl
    · exact (digits_suffix _).trans (List.suffix_cons _ _)
  · exact List.suffix_rfl

theorem exponent_suffix (cs : List Char) : (exponent cs).2 <:+ cs := by
  unfold exponent
  split
  next e rest =>
    split
    next =>
      -- A sign may stand before the digits.
      split
      next negative unsigned signed =>
        have suffix : unsigned <:+ rest := by
          split at signed
          all_goals
            cases signed
            first
              | exact List.suffix_rfl
              | exact List.suffix_cons _ _
        simp only
        split
        · exact List.suffix_rfl
        · exact ((digits_suffix _).trans suffix).trans (List.suffix_cons _ _)
    next => exact List.suffix_rfl
  next => exact List.suffix_rfl

theorem wholePart_suffix {cs whole rest : List Char} (read : wholePart cs = some (whole, rest)) :
    rest <:+ cs := by
  unfold wholePart at read
  split at read
  · cases read
    exact List.suffix_cons _ _
  · split at read <;> cases read
    exact List.dropWhile_suffix _
  · cases read

theorem skip_suffix (cs : List Char) (place : Nat) : (skip cs place).1 <:+ cs := by
  fun_induction skip cs place with
  | case1 c rest place _ ih => exact ih.trans (List.suffix_cons _ _)
  | case2 | case3 => exact List.suffix_rfl

theorem shallow_number (cs : List Char) (place : Nat) : Shallow cs (number cs place) := by
  unfold number
  split
  next negative body signed =>
    have suffix : body <:+ cs := by
      split at signed
      all_goals
        cases signed
        first
          | exact List.suffix_rfl
          | exact List.suffix_cons _ _
    split
    · exact rfl
    next whole rest read =>
      have behind : (exponent (fraction rest).2).2 <:+ cs :=
        (exponent_suffix _).trans ((fraction_suffix _).trans ((wholePart_suffix read).trans suffix))
      simp only
      split
      · split
        · exact rfl
        · exact behind
      · exact behind

theorem shallow_plain (cs : List Char) (place : Nat) : Shallow cs (plain cs place) := by
  unfold plain
  split
  · exact List.drop_suffix _ _
  · exact shallow_number cs place

/-! ### Lists and objects -/

/-- The number of brackets that open a list or an object. -/
def openings (cs : List Char) : Nat :=
  cs.countP fun c => c == '[' || c == '\x7b'

/-- The reader goes on behind what it has read, or fails; because of the depth it fails only where
there are too many brackets. -/
def Bounded (limit depth : Nat) (cs : List Char) : Except Error (Read α) → Prop
  | .ok read => read.rest <:+ cs
  | .error error => error.isDeep = true → limit < depth + openings cs

section

variable {limit depth : Nat} {cs part : List Char} {result : Except Error (Read α)}

theorem openings_le (suffix : part <:+ cs) : openings part ≤ openings cs :=
  suffix.sublist.countP_le

theorem Shallow.bounded (shallow : Shallow cs result) (limit depth : Nat) :
    Bounded limit depth cs result := by
  cases result with
  | ok read => exact shallow
  | error error => exact fun deep => absurd deep (ne_true_of_eq_false shallow)

theorem Bounded.of_suffix (bounded : Bounded limit depth part result) (suffix : part <:+ cs) :
    Bounded limit depth cs result := by
  cases result with
  | ok read => exact bounded.trans suffix
  | error error =>
    intro deep
    have below := bounded deep
    have le := openings_le suffix
    omega

/-- What is read one level deeper stands behind an opening bracket. -/
theorem Bounded.opened {c : Char} (bounded : Bounded limit (depth + 1) part result)
    (opening : (c == '[' || c == '\x7b') = true) (suffix : part <:+ cs) :
    Bounded limit depth (c :: cs) result := by
  cases result with
  | ok read => exact List.IsSuffix.trans bounded (suffix.trans (List.suffix_cons _ _))
  | error error =>
    intro deep
    have counted : openings (c :: cs) = openings cs + 1 := List.countP_cons_of_pos opening
    have le := openings_le suffix
    have below := bounded deep
    omega

theorem Bounded.bind {next : Read α → Except Error (Read β)} (bounded : Bounded limit depth cs result)
    (goesOn : ∀ read, read.rest <:+ cs → Bounded limit depth cs (next read)) :
    Bounded limit depth cs (result >>= next) := by
  cases result with
  | ok read => exact goesOn read bounded
  | error error => exact bounded

end

theorem bounded_string (strays : List (Nat × Nat)) (limit depth : Nat) (cs : List Char) (place : Nat) :
    Bounded limit depth cs (string strays cs place) :=
  (shallow_stringBody strays _ _ cs place []).bounded limit depth

theorem bounded_fault {limit depth : Nat} {cs : List Char} (cause : Cause) (place : Nat) :
    Bounded limit depth cs (.error (.fault cause place) : Except Error (Read α)) :=
  fun deep => Bool.noConfusion deep

theorem bounded_named {limit depth : Nat} {cs : List Char} {codes : List Nat}
    {next : String → Except Error (Read α)} (goesOn : ∀ name, Bounded limit depth cs (next name)) :
    Bounded limit depth cs (nameOf codes >>= next) := by
  unfold nameOf
  cases Text.ofCodes codes with
  | ok name => exact goesOn name
  | error u => exact fun deep => Bool.noConfusion deep

/-- An opening bracket at the deepest level that is read is one too many. -/
theorem bounded_deep {limit depth : Nat} {c : Char} {cs : List Char} {error : Error}
    (opening : (c == '[' || c == '\x7b') = true) (full : depth ≥ limit) :
    Bounded limit depth (c :: cs) (.error error : Except Error (Read α)) := by
  intro _
  have counted : openings (c :: cs) = openings cs + 1 := List.countP_cons_of_pos opening
  omega

section

variable {strays : List (Nat × Nat)} {limit fuel : Nat}

theorem bounded_value_succ
    (ofItems : ∀ depth cs place, Bounded limit depth cs (items strays limit fuel depth cs place))
    (ofMembers : ∀ depth cs place fields,
      Bounded limit depth cs (members strays limit fuel depth cs place fields))
    (depth : Nat) (cs : List Char) (place : Nat) :
    Bounded limit depth cs (value strays limit (fuel + 1) depth cs place) := by
  unfold value
  split
  next rest =>
    have read :=
      (bounded_string strays limit depth rest (place + 1)).of_suffix (List.suffix_cons '"' rest)
    exact read.bind fun read behind => behind
  next rest =>
    split
    next full => exact bounded_deep rfl full
    next =>
      have suffix := skip_suffix rest (place + 1)
      cases skipped : skip rest (place + 1) with | mk inner start
      rw [skipped] at suffix
      simp only
      split
      next after => exact (List.suffix_cons _ _).trans (suffix.trans (List.suffix_cons _ _))
      next => exact ((ofItems (depth + 1) _ _).opened rfl suffix).bind fun read behind => behind
  next rest =>
    split
    next full => exact bounded_deep rfl full
    next =>
      have suffix := skip_suffix rest (place + 1)
      cases skipped : skip rest (place + 1) with | mk inner start
      rw [skipped] at suffix
      simp only
      split
      next after => exact (List.suffix_cons _ _).trans (suffix.trans (List.suffix_cons _ _))
      next => exact ((ofMembers (depth + 1) _ _ _).opened rfl suffix).bind fun read behind => behind
  next => exact (shallow_plain cs place).bounded limit depth

theorem bounded_items_succ
    (ofValue : ∀ depth cs place, Bounded limit depth cs (value strays limit fuel depth cs place))
    (ofItems : ∀ depth cs place, Bounded limit depth cs (items strays limit fuel depth cs place))
    (depth : Nat) (cs : List Char) (place : Nat) :
    Bounded limit depth cs (items strays limit (fuel + 1) depth cs place) := by
  unfold items
  refine (ofValue depth cs place).bind fun first behind => ?_
  have suffix := (skip_suffix first.rest first.place).trans behind
  cases skipped : skip first.rest first.place with | mk rest start
  rw [skipped] at suffix
  simp only
  split
  next after => exact (List.suffix_cons _ _).trans suffix
  next after =>
    have others := (skip_suffix after (start + 1)).trans ((List.suffix_cons _ _).trans suffix)
    exact ((ofItems depth _ _).of_suffix others).bind fun read behind => behind
  next => exact bounded_fault _ _

theorem bounded_members_succ
    (ofValue : ∀ depth cs place, Bounded limit depth cs (value strays limit fuel depth cs place))
    (ofMembers : ∀ depth cs place fields,
      Bounded limit depth cs (members strays limit fuel depth cs place fields))
    (depth : Nat) (cs : List Char) (place : Nat) (fields : List (String × Value)) :
    Bounded limit depth cs (members strays limit (fuel + 1) depth cs place fields) := by
  unfold members
  split
  next rest =>
    have read :=
      (bounded_string strays limit depth rest (place + 1)).of_suffix (List.suffix_cons '"' rest)
    refine read.bind fun name behind => ?_
    have suffix := (skip_suffix name.rest name.place).trans behind
    cases skipped : skip name.rest name.place with | mk rest start
    rw [skipped] at suffix
    simp only
    split
    next after =>
      have inner := (skip_suffix after (start + 1)).trans ((List.suffix_cons _ _).trans suffix)
      refine ((ofValue depth _ _).of_suffix inner).bind fun member behind => ?_
      refine bounded_named fun named => ?_
      have suffix := (skip_suffix member.rest member.place).trans behind
      cases skipped : skip member.rest member.place with | mk rest start
      rw [skipped] at suffix
      simp only
      split
      next after => exact (List.suffix_cons _ _).trans suffix
      next after =>
        have others := (skip_suffix after (start + 1)).trans ((List.suffix_cons _ _).trans suffix)
        exact (ofMembers depth _ _ _).of_suffix others
      next => exact bounded_fault _ _
    next => exact bounded_fault _ _
  next => exact bounded_fault _ _

end

/-- A document is too deep for the readers only if it has too many opening brackets. -/
theorem bounded_readers (strays : List (Nat × Nat)) (limit fuel : Nat) :
    (∀ depth cs place, Bounded limit depth cs (value strays limit fuel depth cs place)) ∧
    (∀ depth cs place, Bounded limit depth cs (items strays limit fuel depth cs place)) ∧
    ∀ depth cs place fields,
      Bounded limit depth cs (members strays limit fuel depth cs place fields) := by
  induction fuel with
  | zero =>
    refine ⟨fun depth cs place => ?_, fun depth cs place => ?_, fun depth cs place fields => ?_⟩
    · unfold value
      exact bounded_fault _ _
    · unfold items
      exact bounded_fault _ _
    · unfold members
      exact bounded_fault _ _
  | succ fuel ih =>
    obtain ⟨ofValue, ofItems, ofMembers⟩ := ih
    exact ⟨bounded_value_succ ofItems ofMembers, bounded_items_succ ofValue ofItems,
      bounded_members_succ ofValue ofMembers⟩

/-- A text with no more opening brackets than the levels that are read is not too deep. -/
theorem not_deep_of_openings {strays : List (Nat × Nat)} {limit : Nat} {text : List Char}
    {error : Error} (few : openings text ≤ limit) (failed : readWith strays limit text = .error error) :
    error.isDeep = false := by
  unfold readWith at failed
  split at failed
  · cases failed
    rfl
  · have suffix := skip_suffix text 0
    cases skipped : skip text 0 with | mk cs place
    rw [skipped] at suffix failed
    have bounded := ((bounded_readers strays limit (2 * text.length + 2)).1 0 cs place).of_suffix suffix
    simp only [Bind.bind, Except.bind] at failed
    split at failed
    next _ whole =>
      cases failed
      rw [whole] at bounded
      cases deep : error.isDeep with
      | false => rfl
      | true =>
        have many := bounded deep
        omega
    next =>
      split at failed <;> cases failed
      rfl

end Signpost.Json
