import Mathlib.Data.List.Flatten
import Signpost.Operation
import Signpost.Proofs.Location
import Signpost.Proofs.QueryText

/-!
# Queries that are sent on

The operation on queries sends the query of a request on to the target of a rule, as it is or without
the keys that it lists.

## Main results

* `applyQuery_removes`: the pairs whose keys are not listed are sent on, and no others.
* `sent_alike_iff`: a query of which no key is listed is sent on alike in both ways if and only if it
  does not begin with a question mark of its own.

## Proof strategy

What is left of the pairs is written as a query that is read back (`decodePairs_encodePairs`), so that
removing keys is `remaining` on the pairs. Before that, all question marks in front are dropped.
Each of them would be a character of the first key: the keys of a query grow by it
(`keyLength_cons_mark`), and leaving pairs out never makes up for the loss.
-/
namespace Signpost

open Url (decodePairs QueryPair)

variable {target query : String} {keys : List String} {q : List Char}

namespace Operations

/-! ### Keys that are removed -/

/-- A query without the question marks in front of it. -/
def unmarked (query : String) : List Char :=
  query.toList.dropWhile (· == '?')

/-- The pairs of a query whose keys are not listed, in order. -/
def remaining (keys : List String) (query : List Char) : List QueryPair :=
  (decodePairs query).filter fun pair => String.ofList pair.1 ∉ keys

theorem filtered_eq (target : String) (keys : List String) (query : String) :
    filtered target keys query =
      if remaining keys (unmarked query) = [] then target
      else target ++ String.ofList ('?' :: Url.encodePairs (remaining keys (unmarked query))) := by
  have left : ((decodePairs (unmarked query)).filter fun pair =>
      !keys.contains (String.ofList pair.1)) = remaining keys (unmarked query) := by
    apply List.filter_congr
    intro pair _
    simp
  -- The text of the pairs is looked at, and it is empty where no pair is left.
  rw [unmarked] at left ⊢
  simp only [filtered, left, List.isEmpty_iff, Url.encodePairs_eq_nil_iff]

/-- Where nothing says whether the query is kept, the pairs with the listed keys are removed: the
target stays as it is if no pair is left, and else is followed by a query of what is left. -/
theorem applyQuery_removes {parameters : Parameters} {listed : Setting}
    (unsaid : parameters.lookup "preserve" = none)
    (lists : parameters.lookup "filter" = some listed) (target query : String) :
    (remaining listed.values (unmarked query) = [] →
      applyQuery target parameters query = target) ∧
    (remaining listed.values (unmarked query) ≠ [] →
      ∃ rest, applyQuery target parameters query = target ++ "?" ++ String.ofList rest ∧
        Url.IsQueryText rest ∧
        decodePairs rest = remaining listed.values (unmarked query)) := by
  have applied : applyQuery target parameters query = filtered target listed.values query := by
    simp [applyQuery, unsaid, lists]
  rw [applied, filtered_eq]
  constructor
  · intro none
    exact if_pos none
  · intro left
    refine ⟨_, ?_, Url.isQueryText_encodePairs _, Url.decodePairs_encodePairs _⟩
    rw [if_neg left, ← String.toList_inj]
    simp

/-- With "ref" and the empty key listed, what is left of a query with two marks, an empty pair, a
blank value, a plus sign and bytes that are no text comes back from what is sent on. -/
theorem applyQuery_removes_ref :
    let parameters : Parameters := [("filter", .several ["ref", ""])]
    let query := "??a=&ref=1&&b+c=%E2%82%AC%FF=&=x&a=%26"
    parameters.lookup "preserve" = none ∧
      parameters.lookup "filter" = some (.several ["ref", ""]) ∧
      remaining ["ref", ""] (unmarked query) ≠ [] ∧
      ∃ rest, applyQuery "/b#top" parameters query = "/b#top" ++ "?" ++ String.ofList rest ∧
        Url.IsQueryText rest ∧
        decodePairs rest = remaining ["ref", ""] (unmarked query) := by
  intro parameters query
  have unsaid : parameters.lookup "preserve" = none := rfl
  have lists : parameters.lookup "filter" = some (.several ["ref", ""]) := rfl
  have left : remaining ["ref", ""] (unmarked query) ≠ [] := by decide
  exact ⟨unsaid, lists, left, (applyQuery_removes unsaid lists "/b#top" query).2 left⟩

/-! ### The text behind a target -/

/-- What stands behind the first question mark of a URL. -/
def queryOf (url : String) : List Char :=
  (Text.cut '?' url.toList).2

theorem queryOf_append (bare : '?' ∉ target.toList) (query : List Char) :
    queryOf (target ++ String.ofList ('?' :: query)) = query := by
  rw [queryOf, String.toList_append, String.toList_ofList, Text.cut_append bare]

theorem decodePairs_queryOf_filtered (bare : '?' ∉ target.toList) (keys : List String)
    (query : String) :
    decodePairs (queryOf (filtered target keys query)) =
      remaining keys (unmarked query) := by
  rw [filtered_eq]
  split
  next none =>
    rw [none, queryOf, Text.cut_of_absent bare]
    rfl
  next => rw [queryOf_append bare, Url.decodePairs_encodePairs]

/-! ### Question marks in front of a query -/

theorem unescapeAfter_concat_mark (run cs : List Char) :
    Url.unescapeAfter (run ++ ['?']) cs = '?' :: Url.unescapeAfter run cs := by
  -- The run is in reverse, so that its last character is the first that is decoded.
  have ending (run : List Char) : Text.decodeCovered (Url.escapedBytes (run ++ ['?']).reverse) =
      '?' :: Text.decodeCovered (Url.escapedBytes run.reverse) := by
    rw [List.reverse_concat, Url.escapedBytes_cons (by decide)]
    exact Text.decodeCovered_cons_ascii (by decide) _
  induction cs generalizing run with
  | nil => exact ending run
  | cons c rest ih =>
    unfold Url.unescapeAfter
    split
    · exact ih (c :: run)
    · rw [ending]
      rfl

theorem decodeComponent_cons_mark (cs : List Char) :
    Url.decodeComponent ('?' :: cs) = '?' :: Url.decodeComponent cs :=
  unescapeAfter_concat_mark [] _

theorem decodePair_cons_mark (piece : List Char) :
    Url.decodePair ('?' :: piece) = ('?' :: (Url.decodePair piece).1, (Url.decodePair piece).2) := by
  have bare : '=' ∉ ['?'] := by decide
  have halves := Text.cut_bare_append bare piece
  rw [List.singleton_append] at halves
  simp only [Url.decodePair, halves, List.singleton_append, decodeComponent_cons_mark]

/-- The number of characters in the keys of pairs. -/
def keyLength (pairs : List QueryPair) : Nat :=
  (pairs.flatMap (·.1)).length

theorem keyLength_cons (pair : QueryPair) (pairs : List QueryPair) :
    keyLength (pair :: pairs) = pair.1.length + keyLength pairs := by
  rw [keyLength, List.flatMap_cons, List.length_append, keyLength]

/-- A question mark in front of a query belongs to its first key. -/
theorem keyLength_cons_mark (query : List Char) :
    keyLength (decodePairs ('?' :: query)) = keyLength (decodePairs query) + 1 := by
  cases split : Text.pieces '&' query with
  | nil => exact absurd split (Text.pieces_ne_nil _ _)
  | cons piece others =>
    have marked : Text.pieces '&' ('?' :: query) = ('?' :: piece) :: others := by
      rw [Text.pieces, if_neg (by decide), split]
    rw [decodePairs, decodePairs, marked, split]
    -- An empty piece is no pair, and with the mark it is one whose key is the mark.
    cases piece with
    | nil =>
      have alone : Url.decodePair ['?'] = (['?'], []) := rfl
      rw [List.filter_cons_of_pos (by rfl), List.filter_cons_of_neg (by decide), List.map_cons,
        keyLength_cons, alone, List.length_singleton, Nat.add_comm]
    | cons c piece =>
      rw [List.filter_cons_of_pos (by rfl), List.filter_cons_of_pos (by rfl), List.map_cons,
        List.map_cons, keyLength_cons, keyLength_cons, decodePair_cons_mark, List.length_cons]
      omega

theorem keyLength_dropWhile_le (query : List Char) :
    keyLength (decodePairs (query.dropWhile (· == '?'))) ≤ keyLength (decodePairs query) := by
  induction query with
  | nil => exact Nat.le_refl _
  | cons c rest ih =>
    rw [List.dropWhile_cons]
    split
    next mark =>
      rw [beq_iff_eq.mp mark, keyLength_cons_mark]
      omega
    next => exact Nat.le_refl _

theorem keyLength_remaining_le (keys : List String) (query : List Char) :
    keyLength (remaining keys query) ≤ keyLength (decodePairs query) := by
  have fewer : List.Sublist (remaining keys query) (decodePairs query) := List.filter_sublist
  exact (fewer.flatMap _).length_le

/-- Without its question marks in front, a query does not have the keys that it has with them. -/
theorem remaining_ne_of_mark (keys : List String) (query : List Char) :
    remaining keys (query.dropWhile (· == '?')) ≠ decodePairs ('?' :: query) := by
  intro same
  have lengths := congrArg keyLength same
  have fewer := keyLength_remaining_le keys (query.dropWhile (· == '?'))
  have shorter := keyLength_dropWhile_le query
  rw [keyLength_cons_mark] at lengths
  omega

/-! ### Two ways to send a query on -/

/-- The operations send the query of a request on as it is. -/
def Keeps (operations : Operations) : Prop :=
  ∃ parameters, operations.lookup "qs" = some parameters ∧
    parameters.lookup "preserve" = some (.one "1")

/-- The operations send the query of a request on without the keys. -/
def Removes (operations : Operations) (keys : List String) : Prop :=
  ∃ parameters listed, operations.lookup "qs" = some parameters ∧
    parameters.lookup "preserve" = none ∧ parameters.lookup "filter" = some listed ∧
    listed.values = keys

theorem Keeps.apply_eq {operations : Operations} (keeps : Keeps operations)
    (target query : String) : apply operations target query = target ++ query := by
  obtain ⟨parameters, named, preserved⟩ := keeps
  simp [apply, named, applyQuery, preserved]

theorem Removes.apply_eq {operations : Operations} (removes : Removes operations keys)
    (target query : String) : apply operations target query = filtered target keys query := by
  obtain ⟨parameters, listed, named, unsaid, lists, rfl⟩ := removes
  simp [apply, named, applyQuery, unsaid, lists]

theorem remaining_of_apart (apart : ∀ pair ∈ decodePairs q, String.ofList pair.1 ∉ keys) :
    remaining keys q = decodePairs q := by
  apply List.filter_eq_self.mpr
  intro pair member
  exact decide_eq_true (apart pair member)

/-- The query of a request that has one is sent on with the same pairs, be it as it is or without keys
that it does not have, if and only if there is no second question mark in front of it. -/
theorem sent_alike_iff {text : String} {location : Url.Location}
    (read : Url.Location.ofText text = .ok location) (asked : location.query ≠ "") :
    ∃ q, q ≠ [] ∧ location.query = String.ofList ('?' :: q) ∧
      ∀ {target : String} {keys : List String} {keeping removing : Operations},
        '?' ∉ target.toList → Keeps keeping → Removes removing keys →
        (∀ pair ∈ decodePairs q, String.ofList pair.1 ∉ keys) →
        (decodePairs (queryOf (apply removing target location.query)) =
            decodePairs (queryOf (apply keeping target location.query)) ↔
          q.head? ≠ some '?') := by
  obtain ⟨q, marked, _⟩ := (Url.drawn_of_ofText read).queryChars
  have nonempty : q ≠ [] := by
    rintro rfl
    exact asked (String.toList_inj.mp marked)
  have whole : location.query = String.ofList ('?' :: q) := by
    rw [← String.toList_inj, marked, String.toList_ofList]
    exact if_neg (by simpa using nonempty)
  refine ⟨q, nonempty, whole, ?_⟩
  intro target keys keeping removing bare keeps removes apart
  rw [removes.apply_eq, keeps.apply_eq, decodePairs_queryOf_filtered bare, whole,
    queryOf_append bare, unmarked, String.toList_ofList, List.dropWhile_cons_of_pos (by rfl)]
  -- The first mark stands in front of every query. A second one would be part of the first key.
  constructor
  · intro same second
    obtain ⟨rest, rfl⟩ := List.head?_eq_some_iff.mp second
    rw [List.dropWhile_cons_of_pos (by rfl)] at same
    exact remaining_ne_of_mark keys rest same
  · intro single
    have kept : q.dropWhile (· == '?') = q := by
      cases q with
      | nil => rfl
      | cons c rest => rw [List.dropWhile_cons_of_neg (by simpa using single)]
    rw [kept, remaining_of_apart apart]

/-- "x=1&b+c=%41&&y" is sent on with the same pairs in both ways. -/
theorem sent_alike_of_escapes :
    let query := "?x=1&b+c=%41&&y"
    Url.Location.ofText "/a?x=1&b+c=%41&&y#top" = .ok ⟨"", "/a", query⟩ ∧
      '?' ∉ "/b".toList ∧ Keeps (ofText "qs:preserve=1") ∧
      Removes (ofText "qs:filter=utm_source&filter=ref") ["utm_source", "ref"] ∧
      decodePairs (queryOf (apply (ofText "qs:filter=utm_source&filter=ref") "/b" query)) =
        decodePairs (queryOf (apply (ofText "qs:preserve=1") "/b" query)) := by
  intro query
  have read : Url.Location.ofText "/a?x=1&b+c=%41&&y#top" = .ok ⟨"", "/a", query⟩ := rfl
  have bare : '?' ∉ "/b".toList := by decide
  have keeps : Keeps (ofText "qs:preserve=1") := ⟨_, rfl, rfl⟩
  have removes : Removes (ofText "qs:filter=utm_source&filter=ref") ["utm_source", "ref"] :=
    ⟨_, _, rfl, rfl, rfl, rfl⟩
  obtain ⟨q, _, whole, alike⟩ := sent_alike_iff read (by decide)
  have spelled : query.toList = '?' :: "x=1&b+c=%41&&y".toList := by decide
  have marked := spelled.symm.trans ((congrArg String.toList whole).trans String.toList_ofList)
  cases marked
  exact ⟨read, bare, keeps, removes, (alike bare keeps removes (by decide)).mpr (by decide)⟩

/-- Of "??x=1" the key is "?x" where the query is sent on as it is, and "x" where keys are removed of
which it has none. -/
theorem mark_lost_by_removing :
    Url.Location.ofText "/a??x=1" = .ok ⟨"", "/a", "??x=1"⟩ ∧
      Keeps (ofText "qs:preserve=1") ∧ Removes (ofText "qs:filter=y") ["y"] ∧
      (∀ pair ∈ decodePairs "?x=1".toList, String.ofList pair.1 ∉ ["y"]) ∧
      apply (ofText "qs:preserve=1") "/b" "??x=1" = "/b??x=1" ∧
      apply (ofText "qs:filter=y") "/b" "??x=1" = "/b?x=1" ∧
      decodePairs "?x=1".toList ≠ decodePairs "x=1".toList :=
  ⟨rfl, ⟨_, rfl, rfl⟩, ⟨_, _, rfl, rfl, rfl, rfl⟩, by decide, by decide, by decide, by decide⟩

end Operations
end Signpost
