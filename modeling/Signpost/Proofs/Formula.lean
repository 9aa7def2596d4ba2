import Mathlib.Data.Char
import Mathlib.Data.List.Lex
import Signpost.Proofs.Clauses
import Signpost.Proofs.Keeping
import Signpost.Sql.Formula

/-!
# Criteria and the text of a query

A search in the tables sends the criteria as a text with placeholders, and the values for these.
This module reads the text back and compares what it says of the row of a record with what the
criteria say of the record.

## Main result

`recordMatches_iff_truthOf`: criteria hold of a rule exactly if the text made of them is true of the
row that the rule is stored as, with the values put in for the placeholders from left to right.

## Proof strategy

The text is split into words (`Spells`), read as the formula of its clauses (`ofText_renderAll`),
and decided as the clauses are (`truthOf_renderAll`). Texts have the same order by their bytes as by
their characters (`encodeUtf8_lt_iff`).
-/
namespace Signpost

open Sql Store

/-! ### The order of bytes -/

namespace Text

/-- Of two characters, the first byte in which they differ decides. -/
theorem utf8Bytes_append_lt {c d : Char} (less : c < d) (u v : List Nat) :
    utf8Bytes c ++ u < utf8Bytes d ++ v := by
  have codes : c.toNat < d.toNat := less
  simp only [utf8Bytes]
  generalize c.toNat = m at codes ⊢
  generalize d.toNat = n at codes ⊢
  -- A longer form starts with a larger byte; of one form, the code points are compared in base 64.
  split_ifs <;> simp only [List.cons_append, List.nil_append, List.cons_lt_cons_iff] <;> omega

theorem encodeUtf8_lt {s t : List Char} (less : s < t) : encodeUtf8 s < encodeUtf8 t := by
  induction s generalizing t with
  | nil =>
    cases t with
    | nil => exact absurd less (List.not_lt_nil _)
    | cons d t =>
      simp only [encodeUtf8, List.flatMap_nil, List.flatMap_cons, utf8Bytes]
      split_ifs <;> exact List.nil_lt_cons _ _
  | cons c s ih =>
    cases t with
    | nil => exact absurd less (List.not_lt_nil _)
    | cons d t =>
      simp only [encodeUtf8, List.flatMap_cons]
      rcases List.cons_lt_cons_iff.mp less with first | ⟨rfl, later⟩
      · exact utf8Bytes_append_lt first _ _
      · exact List.append_left_lt (ih later)

/-- Bytes in UTF-8 have the order of the characters. -/
theorem encodeUtf8_lt_iff (s t : String) :
    encodeUtf8 s.toList < encodeUtf8 t.toList ↔ s < t := by
  have forward {a b : String} (less : a < b) : encodeUtf8 a.toList < encodeUtf8 b.toList :=
    encodeUtf8_lt (String.lt_iff_toList_lt.mp less)
  constructor
  · intro bytes
    rcases lt_trichotomy s t with less | rfl | more
    · exact less
    · exact absurd bytes (List.lt_irrefl _)
    · exact absurd bytes (List.lt_asymm (forward more))
  · exact forward

end Text

namespace Sql

theorem Cell.compareBytes_eq (a b : Cell) : a.compareBytes b = a.compare b := by
  cases a with
  | text s =>
    cases b with
    | text t =>
      simp only [compareBytes, compare, Text.encodeUtf8_lt_iff]
      rcases lt_trichotomy s t with less | rfl | more
      · rw [if_pos less, if_pos less]
      · simp only [lt_irrefl, if_false, if_true]
      · rw [if_neg more.not_gt, if_pos more, if_neg more.not_gt, if_neg more.ne']
    | _ => rfl
  | _ => rfl

theorem Affinity.compareBytes_eq (affinity : Affinity) (cell parameter : Cell) :
    affinity.compareBytes cell parameter = affinity.compare cell parameter := by
  unfold compareBytes compare
  cases cell <;> cases affinity.stored parameter <;> simp only [Cell.compareBytes_eq]

/-! ### Words -/

/-- The rest of a text does not go on with the name before it. -/
def Apart (rest : List Char) : Prop :=
  ∀ c ∈ rest.head?, isNameChar c = false

/-- The text reads as the words, whatever stands apart behind it. -/
def Spells (text : String) (found : List String) : Prop :=
  ∀ rest, Apart rest → wordsOf (text.toList ++ rest) = found ++ wordsOf rest

theorem length_afterStar_le (cs : List Char) : (afterStar cs).length ≤ cs.length := by
  fun_induction afterStar cs with
  | case1 rest => exact Nat.le_add_right _ 2
  | case2 c rest _ ih => exact Nat.le_succ_of_le ih
  | case3 => exact Nat.le_refl _

theorem length_quotedRest_le (close : Char) (cs : List Char) :
    (quotedRest close cs).2.length ≤ cs.length := by
  fun_induction quotedRest close cs with
  | case1 => exact Nat.le_refl _
  | _ => simp_all <;> omega

theorem words_eq_wordsOf {fuel : Nat} {cs : List Char} (enough : cs.length < fuel) :
    words fuel cs = wordsOf cs := by
  suffices same : ∀ (fuel other : Nat) (cs : List Char), cs.length < fuel → cs.length < other →
      words fuel cs = words other cs from same _ _ cs enough (Nat.lt_succ_self _)
  -- Each step leaves fewer characters, and takes one unit of either fuel.
  intro fuel
  induction fuel with
  | zero => exact fun _ _ here => absurd here (Nat.not_lt_zero _)
  | succ fuel ih =>
    intro other cs here there
    cases other with
    | zero => exact absurd there (Nat.not_lt_zero _)
    | succ other =>
      have shorter {left : List Char} (size : left.length < cs.length) :
          words fuel left = words other left :=
        ih other left (by omega) (by omega)
      unfold words
      split
      next => rfl
      next rest => exact shorter (Nat.lt_succ_of_lt (Nat.lt_succ_of_le (List.dropWhile_sublist _).length_le))
      next rest =>
        exact shorter (Nat.lt_succ_of_lt (Nat.lt_succ_of_le (length_afterStar_le rest)))
      next c rest _ _ =>
        have name := shorter (Nat.lt_succ_of_le (List.dropWhile_sublist isNameChar).length_le)
        simp only [shorter (Nat.lt_succ_self rest.length), name]
        split_ifs
        · rfl
        · rfl
        · split
          · rw [shorter (Nat.lt_succ_of_le (length_quotedRest_le _ rest))]
          · rfl

/-- No comment begins with the character. -/
def BeginsNoComment (c : Char) : Prop := c ≠ '-' ∧ c ≠ '/'

theorem wordsOf_cons {c : Char} (plain : BeginsNoComment c) (rest : List Char) :
    wordsOf (c :: rest) =
      if isSpace c then wordsOf rest
      else if isNameChar c then
        String.ofList (c :: rest.takeWhile isNameChar) :: wordsOf (rest.dropWhile isNameChar)
      else
        match closing? c with
        | some close =>
          String.ofList (c :: (quotedRest close rest).1) :: wordsOf (quotedRest close rest).2
        | none => String.ofList [c] :: wordsOf rest := by
  have left {cs : List Char} (shorter : cs.length ≤ rest.length) :
      words (c :: rest).length cs = wordsOf cs :=
    words_eq_wordsOf (Nat.lt_succ_of_le shorter)
  have name := left (List.dropWhile_sublist isNameChar).length_le
  have quoted (close : Char) := left (length_quotedRest_le close rest)
  rw [wordsOf]
  unfold words
  split
  next none => cases none
  next dashes => exact absurd (List.cons.inj dashes).1 plain.1
  next opening => exact absurd (List.cons.inj opening).1 plain.2
  next c rest _ _ same =>
    cases same
    cases closing? c <;> simp only [left (le_refl _), name, quoted]

theorem wordsOf_blank {c : Char} (blank : isSpace c = true) (rest : List Char) :
    wordsOf (c :: rest) = wordsOf rest := by
  have plain : BeginsNoComment c := by
    constructor <;> rintro rfl <;> revert blank <;> decide
  rw [wordsOf_cons plain, if_pos blank]

theorem wordsOf_mark {c : Char} (plain : BeginsNoComment c) (visible : isSpace c = false) (apart : isNameChar c = false)
    (single : closing? c = none) (rest : List Char) :
    wordsOf (c :: rest) = String.ofList [c] :: wordsOf rest := by
  simp only [wordsOf_cons plain, visible, apart, single, Bool.false_eq_true, if_false]

theorem not_isSpace_of_isNameChar {c : Char} (name : isNameChar c = true) : isSpace c = false := by
  rw [Bool.eq_false_iff]
  intro space
  have blank : c.toNat = 32 ∨ 9 ≤ c.toNat ∧ c.toNat ≤ 13 := by
    rcases (Bool.or_eq_true _ _).mp space with one | range
    · exact Or.inl (congrArg Char.toNat (eq_of_beq one))
    · exact Or.inr (by simpa using range)
  have marks : c ≠ '_' ∧ c ≠ '$' := by
    constructor <;> rintro rfl <;> revert space <;> decide
  simp only [isNameChar, Text.isAsciiWord, Text.isAsciiDigit, Text.isAsciiLetter,
    beq_eq_false_iff_ne.mpr marks.1, beq_eq_false_iff_ne.mpr marks.2, Bool.or_eq_true,
    Bool.and_eq_true, decide_eq_true_eq, Bool.false_eq_true, false_or, or_false] at name
  omega

theorem wordsOf_name {name rest : List Char} (letters : ∀ c ∈ name, isNameChar c = true)
    (present : name ≠ []) (apart : Apart rest) :
    wordsOf (name ++ rest) = String.ofList name :: wordsOf rest := by
  cases name with
  | nil => exact absurd rfl present
  | cons c name =>
    have first := letters c (.head _)
    have plain : BeginsNoComment c := by
      constructor <;> rintro rfl <;> revert first <;> decide
    have others : ∀ d ∈ name, isNameChar d = true := fun d member => letters d (.tail _ member)
    have stops : rest.takeWhile isNameChar = [] ∧ rest.dropWhile isNameChar = rest := by
      cases rest with
      | nil => exact ⟨rfl, rfl⟩
      | cons d rest =>
        have other := apart d rfl
        simp [other]
    rw [List.cons_append, wordsOf_cons plain, if_neg (by simp [not_isSpace_of_isNameChar first]),
      if_pos first, List.takeWhile_append_of_pos others, List.dropWhile_append_of_pos others,
      stops.1, stops.2, List.append_nil]

/-! ### The words of clauses -/

/-- A name that can stand for a column. -/
def IsWord (name : String) : Prop :=
  name ≠ "" ∧ name ≠ "0" ∧ name.toList.all isNameChar = true

instance (name : String) : Decidable (IsWord name) :=
  inferInstanceAs (Decidable (_ ∧ _ ∧ _))

/-- The words of a comparison after its column. -/
def Comparison.words : Comparison → List String
  | isNull => ["IS", "NULL"]
  | equals => ["=", "?"]
  | above => [">", "?"]
  | between => ["BETWEEN", "?", "AND", "?"]

/-- The words of a term. -/
def Term.words (single : Term) : List String :=
  single.column.name :: single.comparison.words

/-- The words of a clause. -/
def Clause.words : Clause → List String
  | .term single => single.words
  | .anyOf [] => ["0"]
  | .anyOf terms => "(" :: (["OR"].intercalate (terms.map Term.words) ++ [")"])

theorem apart_mark {c : Char} (other : isNameChar c = false) (rest : List Char) :
    Apart (c :: rest) := by
  intro d first
  cases first
  exact other

theorem spells_name {name : String} (word : IsWord name) : Spells name [name] := by
  intro rest apart
  have present : name.toList ≠ [] := fun none => word.1 (String.toList_eq_nil_iff.mp none)
  rw [wordsOf_name (List.all_eq_true.mp word.2.2) present apart, String.ofList_toList,
    List.singleton_append]

theorem wordsOf_between (word : String) (letters : IsWord word) (rest : List Char) :
    wordsOf (' ' :: (word.toList ++ ' ' :: rest)) = word :: wordsOf rest := by
  have blank (cs : List Char) : wordsOf (' ' :: cs) = wordsOf cs := wordsOf_blank rfl cs
  rw [blank, spells_name letters _ (apart_mark rfl rest), List.singleton_append, blank]

theorem spells_comparison (comparison : Comparison) :
    Spells comparison.text comparison.words := by
  intro rest apart
  have blank (cs : List Char) : wordsOf (' ' :: cs) = wordsOf cs := wordsOf_blank rfl cs
  have asked (cs : List Char) : wordsOf ('?' :: cs) = "?" :: wordsOf cs :=
    wordsOf_mark ⟨by decide, by decide⟩ rfl rfl rfl cs
  have signed (sign : Char) (plain : BeginsNoComment sign) (visible : isSpace sign = false) (other : isNameChar sign = false)
      (single : closing? sign = none) : wordsOf (' ' :: sign :: ' ' :: '?' :: rest) =
        String.ofList [sign] :: "?" :: wordsOf rest := by
    rw [blank, wordsOf_mark plain visible other single, blank, asked]
  cases comparison with
  | isNull =>
    have last : wordsOf ("NULL".toList ++ rest) = "NULL" :: wordsOf rest :=
      spells_name (by decide) rest apart
    exact (wordsOf_between "IS" (by decide) _).trans (congrArg _ last)
  | equals => exact signed '=' ⟨by decide, by decide⟩ rfl rfl rfl
  | above => exact signed '>' ⟨by decide, by decide⟩ rfl rfl rfl
  | between =>
    have low := wordsOf_between "BETWEEN" (by decide)
    have high := wordsOf_between "AND" (by decide)
    change wordsOf (' ' :: ("BETWEEN".toList ++ ' ' :: '?' :: ' ' :: ("AND".toList ++
      ' ' :: '?' :: rest))) = _
    rw [low, asked, high, asked]
    rfl

theorem apart_comparison (comparison : Comparison) (rest : List Char) :
    Apart (comparison.text.toList ++ rest) := by
  cases comparison <;> exact apart_mark (c := ' ') rfl _

theorem spells_term {single : Term} (word : IsWord single.column.name) :
    Spells single.render single.words := by
  intro rest apart
  have name := spells_name word _ (apart_comparison single.comparison rest)
  rw [Term.render, String.toList_append, List.append_assoc, name,
    spells_comparison single.comparison rest apart]
  rfl

theorem spells_map {α : Type} {render : α → String} {found : α → List String} {items : List α}
    (each : ∀ item ∈ items, Spells (render item) (found item)) :
    List.Forall₂ Spells (items.map render) (items.map found) := by
  rw [List.forall₂_map_left_iff, List.forall₂_map_right_iff, List.forall₂_same]
  exact each

theorem spells_intercalate {texts : List String} {found : List (List String)}
    (each : List.Forall₂ Spells texts found) (word : String) (letters : IsWord word) :
    Spells ((" " ++ word ++ " ").intercalate texts) ([word].intercalate found) := by
  induction each with
  | nil => exact fun _ _ => rfl
  | @cons text words texts found first others ih =>
    cases others with
    | nil => simpa using first
    | cons second others =>
      intro rest apart
      -- The blank in front of the word between them ends the text before it.
      have separate (cs : List Char) : wordsOf ((" " ++ word ++ " ").toList ++ cs) =
          word :: wordsOf cs := by
        simpa using wordsOf_between word letters cs
      have stops (cs : List Char) : Apart ((" " ++ word ++ " ").toList ++ cs) := by
        simpa using apart_mark (c := ' ') rfl _
      rw [String.intercalate_cons_cons, List.intercalate_cons_cons, String.toList_append,
        String.toList_append, List.append_assoc, List.append_assoc, first _ (stops _), separate,
        ih rest apart]
      simp only [List.append_assoc, List.cons_append, List.nil_append]

/-- The terms of a clause. -/
def Clause.terms : Clause → List Term
  | .term single => [single]
  | .anyOf terms => terms

theorem spells_clause {clause : Clause}
    (named : ∀ single ∈ clause.terms, IsWord single.column.name) :
    Spells clause.render clause.words := by
  cases clause with
  | term single => exact spells_term (named single (.head _))
  | anyOf terms =>
    cases terms with
    | nil =>
      intro rest apart
      have zero : wordsOf (['0'] ++ rest) = "0" :: wordsOf rest :=
        wordsOf_name (List.forall_mem_singleton.mpr rfl) (List.cons_ne_nil _ _) apart
      exact zero
    | cons first others =>
      have each : List.Forall₂ Spells ((first :: others).map Term.render)
          ((first :: others).map Term.words) :=
        spells_map fun single member => spells_term (named single member)
      intro rest apart
      have opened (cs : List Char) : wordsOf ('(' :: cs) = "(" :: wordsOf cs :=
        wordsOf_mark ⟨by decide, by decide⟩ rfl rfl rfl cs
      have closed : wordsOf (')' :: rest) = ")" :: wordsOf rest :=
        wordsOf_mark ⟨by decide, by decide⟩ rfl rfl rfl rest
      have inner := spells_intercalate each "OR" (by decide) (')' :: rest)
        (apart_mark rfl rest)
      rw [Clause.render, String.toList_append, String.toList_append, List.append_assoc,
        List.append_assoc]
      · change wordsOf ('(' :: (_ ++ ')' :: rest)) = _
        rw [opened]
        change "(" :: wordsOf (((" " ++ "OR" ++ " ").intercalate _).toList ++ _) = _
        rw [inner, closed, Clause.words]
        · simp only [List.append_assoc, List.cons_append, List.nil_append]
        · exact List.cons_ne_nil _ _
      · exact List.cons_ne_nil _ _

theorem wordsOf_renderAll {clauses : List Clause} (present : clauses ≠ [])
    (named : ∀ clause ∈ clauses, ∀ single ∈ clause.terms, IsWord single.column.name) :
    wordsOf (renderAll clauses).toList =
      "WHERE" :: ["AND"].intercalate (clauses.map Clause.words) := by
  have each := spells_map fun clause member => spells_clause (named clause member)
  have demands := spells_intercalate each "AND" (by decide) [] nofun
  have first := wordsOf_between "WHERE" (by decide)
  rw [List.append_nil] at demands
  rw [renderAll, String.toList_append]
  · refine (first _).trans (congrArg _ (demands.trans ?_))
    exact List.append_nil _
  · exact present

/-! ### Reading the text back -/

/-- Alternatives, the last of them by itself. -/
def Formula.anyOf : List Term → Formula
  | [] => .never
  | [single] => .term single
  | single :: rest => .or (.term single) (anyOf rest)

/-- The formula of a clause. -/
def Clause.formula : Clause → Formula
  | .term single => .term single
  | .anyOf terms => .anyOf terms

/-- Demands, the last of them by itself. -/
def Formula.allOf : List Clause → Formula
  | [] => .always
  | [clause] => clause.formula
  | clause :: rest => .and clause.formula (allOf rest)

/-- The term compares one of the columns, by a name that can be read. -/
structure Term.Readable (columns : List Column) (single : Term) : Prop where
  found : columns.find? (·.name = single.column.name) = some single.column
  named : IsWord single.column.name

namespace Formula

variable {columns : List Column}

theorem readOne_term {single : Term} (readable : single.Readable columns) (fuel : Nat)
    (rest : List String) :
    readOne columns (fuel + 1) (single.words ++ rest) = some (.term single, rest) := by
  have read : Term.read columns (single.words ++ rest) = some (single, rest) := by
    obtain ⟨column, comparison⟩ := single
    simp only [Term.read, Term.words, List.cons_append, readable.found]
    cases comparison <;> rfl
  -- The name of a column is taken for neither a bracket nor the number zero.
  have noBracket : single.column.name ≠ "(" := by
    intro bracket
    have letters := readable.named.2.2
    rw [bracket] at letters
    exact absurd letters (by decide)
  rw [readOne, read]
  · rfl
  · exact fun _ same => noBracket (List.cons.inj same).1
  · exact fun _ same => readable.named.2.1 (List.cons.inj same).1

theorem readEvery_term {single : Term} (readable : single.Readable columns) (fuel : Nat)
    {rest : List String} (last : rest.head? ≠ some "AND") :
    readEvery columns (fuel + 2) (single.words ++ rest) = some (.term single, rest) := by
  rw [readEvery, readOne_term readable]
  cases rest with
  | nil => rfl
  | cons word rest =>
    have other : word ≠ "AND" := fun same => last (congrArg some same)
    simp [other]

theorem readAny_terms {terms : List Term} (present : terms ≠ [])
    (readable : ∀ single ∈ terms, single.Readable columns) (fuel : Nat)
    (enough : terms.length + 2 ≤ fuel) (rest : List String) :
    readAny columns fuel (["OR"].intercalate (terms.map Term.words) ++ ")" :: rest) =
      some (.anyOf terms, ")" :: rest) := by
  induction terms generalizing fuel with
  | nil => contradiction
  | cons single others ih =>
    -- One unit of fuel each for the alternatives, the demands and the term itself.
    obtain ⟨fuel, rfl⟩ : ∃ more, fuel = more + 3 := ⟨fuel - 3, by simp at enough; omega⟩
    have first {after : List String} (last : after.head? ≠ some "AND") :=
      readEvery_term (readable single (.head _)) fuel last
    cases others with
    | nil =>
      rw [List.map_singleton, List.intercalate_singleton, readAny, first (by simp)]
      rfl
    | cons second others =>
      have later := ih (List.cons_ne_nil _ _) (fun s member => readable s (.tail _ member))
        (fuel + 2) (by simp at enough ⊢; omega)
      rw [List.map_cons, List.map_cons, List.intercalate_cons_cons, List.append_assoc,
        List.append_assoc, readAny, first (by simp)]
      simp only [List.map_cons] at later
      simp [later, anyOf]

theorem length_terms_lt {terms : List Term} (present : terms ≠ []) :
    terms.length < (["OR"].intercalate (terms.map Term.words)).length := by
  have long (single : Term) : 1 < single.words.length := by
    simp only [Term.words, List.length_cons]
    cases single.comparison <;> decide
  induction terms with
  | nil => contradiction
  | cons single others ih =>
    have first := long single
    cases others with
    | nil => simpa using first
    | cons second others =>
      have later := ih (List.cons_ne_nil _ _)
      rw [List.map_cons, List.map_cons, List.intercalate_cons_cons, ← List.map_cons,
        List.length_append, List.length_append, List.length_cons]
      omega

theorem words_ne_nil (clause : Clause) : clause.words ≠ [] := by
  cases clause with
  | term single => exact List.cons_ne_nil _ _
  | anyOf terms => cases terms <;> exact List.cons_ne_nil _ _

theorem readOne_clause {clause : Clause}
    (readable : ∀ single ∈ clause.terms, single.Readable columns) (fuel : Nat)
    (enough : clause.words.length ≤ fuel) (rest : List String) :
    readOne columns fuel (clause.words ++ rest) = some (clause.formula, rest) := by
  have long : 0 < clause.words.length := List.length_pos_iff.mpr (words_ne_nil clause)
  obtain ⟨fuel, rfl⟩ : ∃ more, fuel = more + 1 := ⟨fuel - 1, by omega⟩
  cases clause with
  | term single => exact readOne_term (readable single (.head _)) fuel rest
  | anyOf terms =>
    cases terms with
    | nil => rfl
    | cons first others =>
      have present : first :: others ≠ [] := List.cons_ne_nil _ _
      have size := length_terms_lt present
      rw [Clause.words] at enough ⊢
      · simp only [List.length_cons, List.length_append, List.length_nil] at enough size
        have inner := readAny_terms present readable fuel
          (by rw [List.length_cons]; omega) rest
        rw [List.cons_append, List.append_assoc, List.singleton_append, readOne, inner]
        rfl
      all_goals exact present

theorem readEvery_clauses {clauses : List Clause} (present : clauses ≠ [])
    (readable : ∀ clause ∈ clauses, ∀ single ∈ clause.terms, single.Readable columns) (fuel : Nat)
    (enough : (["AND"].intercalate (clauses.map Clause.words)).length < fuel) :
    readEvery columns fuel (["AND"].intercalate (clauses.map Clause.words)) =
      some (.allOf clauses, []) := by
  induction clauses generalizing fuel with
  | nil => contradiction
  | cons clause others ih =>
    -- The fuel covers the words of the first clause and, one unit less, those of the others.
    obtain ⟨fuel, rfl⟩ : ∃ more, fuel = more + 1 := ⟨fuel - 1, by omega⟩
    have first := readOne_clause (readable clause (.head _)) fuel
    cases others with
    | nil =>
      rw [List.map_singleton, List.intercalate_singleton] at enough ⊢
      have alone := first (by omega) []
      rw [List.append_nil] at alone
      rw [readEvery, alone]
      rfl
    | cons second others =>
      rw [List.map_cons, List.map_cons, List.intercalate_cons_cons, ← List.map_cons] at enough ⊢
      simp only [List.length_append, List.length_singleton] at enough
      have later := ih (List.cons_ne_nil _ _) (fun c member => readable c (.tail _ member))
        fuel (by omega)
      rw [List.append_assoc, readEvery, first (by omega)]
      simp only [List.singleton_append, Option.bind_eq_bind, Option.bind_some, later]
      rfl

theorem ofText_renderAll {clauses : List Clause}
    (readable : ∀ clause ∈ clauses, ∀ single ∈ clause.terms, single.Readable columns) :
    ofText columns (renderAll clauses) = some (.allOf clauses) := by
  cases clauses with
  | nil => rfl
  | cons clause others =>
    have present : clause :: others ≠ [] := List.cons_ne_nil _ _
    have split := wordsOf_renderAll present fun c member single part =>
      (readable c member single part).named
    have demands := readEvery_clauses present readable _ (Nat.lt_succ_self _)
    rw [ofText, split]
    simp only [readAny, demands, Option.bind_eq_bind, Option.bind_some]
    rfl

end Formula

/-! ### The truth of the text -/

theorem either_false (truth : Option Bool) : either truth (some false) = truth := by
  rcases truth with _ | _ | _ <;> rfl

theorem both_true (truth : Option Bool) : both truth (some true) = truth := by
  rcases truth with _ | _ | _ <;> rfl

theorem Term.truth_eq (single : Term) (row : Row) (parameters : List Cell)
    (enough : single.comparison.arity ≤ parameters.length) :
    single.truth row parameters =
      some (single.holds row parameters, parameters.drop single.comparison.arity) := by
  obtain ⟨column, comparison⟩ := single
  simp only [truth, holds, Affinity.compareBytes_eq]
  cases comparison with
  | isNull => rfl
  | equals | above =>
    cases parameters with
    | nil => contradiction
    | cons value rest => rfl
  | between =>
    cases parameters with
    | nil => contradiction
    | cons low rest =>
      cases rest with
      | nil => contradiction
      | cons high rest => rfl

namespace Formula

theorem truth_anyOf (terms : List Term) (row : Row) (parameters : List Cell)
    (enough : (terms.map (·.comparison.arity)).foldr (· + ·) 0 ≤ parameters.length) :
    (anyOf terms).truth row parameters = some (anyTermHolds row terms parameters,
      parameters.drop ((terms.map (·.comparison.arity)).foldr (· + ·) 0)) := by
  induction terms generalizing parameters with
  | nil => rfl
  | cons single others ih =>
    rw [List.map_cons, List.foldr_cons] at enough ⊢
    have first := single.truth_eq row parameters (by omega)
    cases others with
    | nil =>
      -- The last term stands by itself, where the clause still has a false alternative after it.
      rw [anyOf, truth, first, anyTermHolds, anyTermHolds, either_false]
      rfl
    | cons second others =>
      have later := ih (parameters.drop single.comparison.arity)
        (by rw [List.length_drop]; omega)
      rw [anyOf, truth, truth, first]
      · simp only [Option.bind_eq_bind, Option.bind_some, later, List.drop_drop]
        rfl
      · exact List.cons_ne_nil _ _

theorem truth_clause (clause : Clause) (row : Row) (parameters : List Cell)
    (enough : clause.arity ≤ parameters.length) :
    clause.formula.truth row parameters =
      some (clause.holds row parameters, parameters.drop clause.arity) := by
  cases clause with
  | term single => exact single.truth_eq row parameters enough
  | anyOf terms => exact truth_anyOf terms row parameters enough

theorem truth_allOf (clauses : List Clause) (row : Row) (parameters : List Cell)
    (enough : (clauses.map (·.arity)).foldr (· + ·) 0 ≤ parameters.length) :
    (allOf clauses).truth row parameters =
      some (allHold row clauses parameters,
        parameters.drop ((clauses.map (·.arity)).foldr (· + ·) 0)) := by
  induction clauses generalizing parameters with
  | nil => rfl
  | cons clause others ih =>
    rw [List.map_cons, List.foldr_cons] at enough ⊢
    have first := truth_clause clause row parameters (by omega)
    cases others with
    | nil =>
      -- Likewise, the clauses have a true demand after the last of them.
      rw [allOf, first, allHold, allHold, both_true]
      rfl
    | cons second others =>
      have later := ih (parameters.drop clause.arity)
        (by rw [List.length_drop]; omega)
      rw [allOf, truth, first]
      · simp only [Option.bind_eq_bind, Option.bind_some, later, List.drop_drop]
        rfl
      · exact List.cons_ne_nil _ _

end Formula

theorem truthOf_renderAll {columns : List Column} {clauses : List Clause} {parameters : List Cell}
    (readable : ∀ clause ∈ clauses, ∀ single ∈ clause.terms, single.Readable columns)
    (filled : parameters.length = (clauses.map (·.arity)).foldr (· + ·) 0) (row : Row) :
    truthOf columns (renderAll clauses) row parameters = some (allHold row clauses parameters) := by
  have decided := Formula.truth_allOf clauses row parameters filled.ge
  rw [← filled, List.drop_length] at decided
  simp only [truthOf, Formula.ofText_renderAll readable, Option.bind_eq_bind, Option.bind_some,
    decided]
  rfl

/-- A demand binds closer than an alternative: a pattern rule of any version is found. -/
example : truthOf ruleColumns " WHERE regex = ? OR path IS NULL AND version = ?"
    [("regex", .integer 1), ("path", .text "/a"), ("version", .integer 0)]
    [.integer 1, .integer 5] = some (some true) := by decide +kernel

/-! ### The clauses of criteria -/

section Made

variable {columns : List Column} (named : ∀ column ∈ columns, IsWord column.name)
include named

theorem readable_ofCondition {condition : Condition} {single : Term} {values : List Value}
    (made : Term.ofCondition (.of columns) condition = .ok (single, values)) :
    single.Readable columns := by
  cases found : Whitelist.of columns condition.subject with
  | none => simp [Term.ofCondition, found] at made
  | some column =>
    have same : column.name = condition.subject := by simpa using List.find?_some found
    rw [ofCondition_eq found] at made
    cases made
    exact ⟨by rw [same]; exact found, named column (List.mem_of_find?_eq_some found)⟩

theorem readable_ofConditions {conditions : List Condition} {terms : List Term}
    {values : List Value}
    (made : Term.ofConditions (.of columns) conditions = .ok (terms, values)) :
    ∀ single ∈ terms, single.Readable columns :=
  (gathers_conditions _).forall_made (fun _ _ _ => readable_ofCondition named) made

theorem readable_ofCriterion {criterion : Criterion} {clause : Clause} {values : List Value}
    (made : Clause.ofCriterion (.of columns) criterion = .ok (clause, values)) :
    ∀ single ∈ clause.terms, single.Readable columns := by
  cases criterion with
  | one condition =>
    obtain ⟨found, one, ⟨⟩⟩ := bind_eq_ok.mp made
    exact List.forall_mem_singleton.mpr (readable_ofCondition named one)
  | anyOf conditions =>
    obtain ⟨found, all, ⟨⟩⟩ := bind_eq_ok.mp made
    exact readable_ofConditions named all

theorem readable_ofCriteria {criteria : List Criterion} {clauses : List Clause}
    {values : List Value} (made : Clause.ofCriteria columns criteria = .ok (clauses, values)) :
    ∀ clause ∈ clauses, ∀ single ∈ clause.terms, single.Readable columns :=
  (gathers_criteria _).forall_made (fun _ _ _ => readable_ofCriterion named) made

end Made

/-- The row that the fields are stored as when they are inserted (`insert_storedRow`). -/
def storedRow (columns : List Column) (fields : List (String × Value)) :
    Except Store.Failure Row := do
  let cells ← bindAll 1 (fields.map (·.2))
  return Database.stored columns ((fields.map (·.1)).zip cells)

theorem insert_storedRow {database after : Database} {name : String} {columns : List Column}
    {key : Option String} {fields : List (String × Value)} {rows : List Row}
    (held : database.rows name = .ok rows)
    (inserted : database.insert name columns key fields = .ok after) :
    ∃ row, storedRow columns fields = .ok row ∧ after = database.setRows name (rows ++ [row]) := by
  obtain ⟨cells, bound, put⟩ := Database.insert_eq held inserted
  exact ⟨_, bind_eq_ok.mpr ⟨cells, bound, rfl⟩, put⟩

theorem storedRow_rule {rule : Rule} (fit : rule.integers.all fits = true) :
    storedRow ruleColumns (ruleFields rule) = .ok rule.row := by
  rw [storedRow, bindAll_ruleFields, if_pos fit]
  simp only [Bind.bind, Except.bind, zip_ruleFields, (conforms_rule rule).stored]
  rfl

end Sql

/-- A rule meets criteria, whatever else it answers to, exactly if the text made of them is true of
the row that the rule is stored as, with their values for the placeholders; these can be bound exactly
if they fit. -/
theorem recordMatches_iff_truthOf {rule : Rule} {criteria : List Criterion}
    (fit : rule.integers.all fits = true)
    (suits : ∀ criterion ∈ criteria, criterion.suits ruleColumns = true) (others : Others) :
    ∃ row clauses values holds truth,
      storedRow ruleColumns (ruleFields rule) = .ok row ∧
      Clause.ofCriteria ruleColumns criteria = .ok (clauses, values) ∧
      recordMatches others rule.attributes criteria = .ok holds ∧
      truthOf ruleColumns (renderAll clauses) row (values.map cellOf) = some truth ∧
      (holds = true ↔ truth = some true) ∧
      bindAll 1 values =
        if values.all (·.fits) then .ok (values.map cellOf) else .error .integerTooLarge := by
  obtain ⟨clauses, values, made, asks⟩ := asks_criteria suits
  obtain ⟨holds, decided⟩ := (asks others).decided _ (conforms_rule rule)
  have named : ∀ column ∈ ruleColumns, IsWord column.name := by decide
  have filled : (values.map cellOf).length = (clauses.map (·.arity)).foldr (· + ·) 0 := by
    rw [List.length_map]
    exact (asks others).arity
  have truth := truthOf_renderAll (readable_ofCriteria named made) filled rule.row
  have agrees := (asks others).agrees _ (conforms_rule rule) []
  rw [List.append_nil, decided, Except.ok.injEq] at agrees
  exact ⟨_, clauses, values, holds, _, storedRow_rule fit, made, decided, truth, agrees.symm,
    bindAll_eq (asks others).plain 1⟩

/-- A rule without a start: the alternative that there is none is true, the other one unknown. -/
theorem recordMatches_iff_truthOf_of_gap :
    let rule : Rule :=
      { id := some "a", path := "/old", host := "", version := 1, target := "/new", status := 301,
        start := none, stop := some 200, operations := none, isPattern := false,
        lastAccessed := none }
    let criteria : List Criterion :=
      [.one ⟨"path", .equals (.text "/old")⟩,
        .anyOf [⟨"utc_start_time", .above (.int 5)⟩, ⟨"utc_start_time", .equals .null⟩],
        .one ⟨"utc_end_time", .between (.int 100) (.int 200)⟩,
        .one ⟨"regex", .equals (.bool false)⟩]
    ∃ row clauses values holds truth,
      storedRow ruleColumns (ruleFields rule) = .ok row ∧
      Clause.ofCriteria ruleColumns criteria = .ok (clauses, values) ∧
      recordMatches .usual rule.attributes criteria = .ok holds ∧
      truthOf ruleColumns (renderAll clauses) row (values.map cellOf) = some truth ∧
      (holds = true ↔ truth = some true) ∧
      bindAll 1 values =
        if values.all (·.fits) then .ok (values.map cellOf) else .error .integerTooLarge :=
  recordMatches_iff_truthOf (by decide) (by decide) .usual

end Signpost
