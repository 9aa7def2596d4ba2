import Signpost.Pattern.Match

/-!
# Where a pattern is found

A match cuts a text into what stands before it, what it covers and what stands behind. `IsLeftmost`
says this of a match, and that the pattern matches nowhere further to the left.

## Main result

`search_eq_some_iff`: a search finds the leftmost match.

## Proof strategy

Looks and references may read elsewhere, but what remains to be matched always goes on from a spot
further on in the same text. `Advances` says this of an item with any work behind it; the ways in which
items are repeated keep it, and so all patterns have it (`advances_run`).
-/
namespace Signpost

variable {spot mid later stop : Spot} {item : Rest → Rest} {rest : Rest}

/-! ### Further on in a text -/

namespace Spot

/-- The later spot lies further on in the same text. -/
def Leads (spot later : Spot) : Prop :=
  ∃ passed, spot.after = passed ++ later.after ∧ later.before = passed.reverse ++ spot.before

theorem Leads.refl (spot : Spot) : spot.Leads spot :=
  ⟨[], rfl, rfl⟩

theorem Leads.trans (first : spot.Leads mid) (second : mid.Leads later) : spot.Leads later := by
  obtain ⟨passed, ahead, behind⟩ := first
  obtain ⟨more, aheadMore, behindMore⟩ := second
  refine ⟨passed ++ more, ?_, ?_⟩
  · rw [ahead, aheadMore, List.append_assoc]
  · rw [behindMore, behind, List.reverse_append, List.append_assoc]

theorem leads_of_step? {c : Char} (stepped : spot.step? = some (c, later)) : spot.Leads later := by
  unfold step? at stepped
  split at stepped
  · cases stepped
  next d rest next =>
    cases stepped
    exact ⟨[c], next, rfl⟩

theorem leads_of_follow? {folding : Folding} {text : List Char}
    (followed : spot.follow? folding text = some later) : spot.Leads later := by
  induction text generalizing spot with
  | nil =>
    cases followed
    exact .refl later
  | cons c rest ih =>
    rw [follow?] at followed
    split at followed
    · cases followed
    next d next stepped =>
      split at followed
      · exact (leads_of_step? stepped).trans (ih followed)
      · cases followed

theorem textTo_append (leads : spot.Leads later) : spot.textTo later ++ later.after = spot.after := by
  obtain ⟨passed, ahead, _⟩ := leads
  simp [textTo, ahead]

end Spot

/-! ### Items with work behind them -/

/-- Whatever remains after the item, it goes on from a spot further on. -/
def Advances (item : Rest → Rest) : Prop :=
  ∀ rest spot stop, item rest spot = some stop → ∃ mid, spot.Leads mid ∧ rest mid = some stop

theorem Advances.exactly (advances : Advances item) (n : Nat) : Advances (exactly item n) := by
  induction n with
  | zero =>
    intro rest spot stop found
    exact ⟨spot, .refl spot, found⟩
  | succ n ih =>
    intro rest spot stop found
    obtain ⟨mid, first, found⟩ := advances _ spot stop found
    obtain ⟨later, others, found⟩ := ih rest mid stop found
    exact ⟨later, first.trans others, found⟩

theorem Advances.upTo (advances : Advances item) (reluctant : Bool) (n : Nat) (last : Option Nat) :
    Advances fun rest => upTo item reluctant rest n last := by
  induction n generalizing last with
  | zero =>
    intro rest spot stop found
    exact ⟨spot, .refl spot, found⟩
  | succ n ih =>
    intro rest spot stop found
    -- Either the item is tried once more, or what remains goes on from here.
    have again (tried : item (Signpost.upTo item reluctant rest n (some spot.after.length)) spot =
        some stop) : ∃ mid, spot.Leads mid ∧ rest mid = some stop := by
      obtain ⟨mid, first, found⟩ := advances _ spot stop tried
      obtain ⟨later, others, found⟩ := ih _ rest mid stop found
      exact ⟨later, first.trans others, found⟩
    have here (left : rest spot = some stop) : ∃ mid, spot.Leads mid ∧ rest mid = some stop :=
      ⟨spot, .refl spot, left⟩
    simp only [Signpost.upTo] at found
    split at found
    · exact here found
    · split at found
      · split at found
        next result left =>
          cases found
          exact here left
        · exact again found
      · split at found
        next result tried =>
          cases found
          exact again tried
        · exact here found

theorem Advances.between (advances : Advances item) (low : Nat) (high : Option Nat)
    (reluctant : Bool) : Advances (between item low high reluctant) := by
  intro rest spot stop found
  obtain ⟨mid, first, found⟩ := advances.exactly low _ spot stop found
  obtain ⟨later, others, found⟩ := advances.upTo reluctant _ none rest mid stop found
  exact ⟨later, first.trans others, found⟩

theorem Advances.committed (advances : Advances item) : Advances (committed item) := by
  intro rest spot stop found
  obtain ⟨mid, matched, found⟩ := Option.bind_eq_some_iff.mp found
  obtain ⟨later, leads, same⟩ := advances some spot mid matched
  cases same
  exact ⟨mid, leads, found⟩

theorem advances_run (pattern : Pattern) : Advances pattern.run := by
  induction pattern with
  | empty =>
    intro rest spot stop found
    exact ⟨spot, .refl spot, found⟩
  | char set =>
    intro rest spot stop found
    simp only [Pattern.run] at found
    split at found
    · cases found
    next c next stepped =>
      split at found
      · exact ⟨next, Spot.leads_of_step? stepped, found⟩
      · cases found
  | place kind =>
    intro rest spot stop found
    simp only [Pattern.run] at found
    split at found
    · exact ⟨spot, .refl spot, found⟩
    · cases found
  | seq first second firstAdvances secondAdvances =>
    intro rest spot stop found
    obtain ⟨mid, leads, found⟩ := firstAdvances _ spot stop found
    obtain ⟨later, onward, found⟩ := secondAdvances rest mid stop found
    exact ⟨later, leads.trans onward, found⟩
  | either first second firstAdvances secondAdvances =>
    intro rest spot stop found
    simp only [Pattern.run] at found
    split at found
    next result matched =>
      cases found
      exact firstAdvances rest spot stop matched
    · exact secondAdvances rest spot stop found
  | iterate low high greed body advances =>
    cases greed with
    | possessive => exact (advances.committed.between low high false).committed
    | greedy => exact advances.between low high false
    | reluctant => exact advances.between low high true
  | group number body advances =>
    intro rest spot stop found
    obtain ⟨mid, leads, found⟩ := advances _ spot stop found
    -- Closing a group stays at its spot.
    exact ⟨mid.close number spot, leads, found⟩
  | reference number folding =>
    intro rest spot stop found
    simp only [Pattern.run] at found
    split at found
    · cases found
    next text matched =>
      obtain ⟨mid, followed, found⟩ := Option.bind_eq_some_iff.mp found
      exact ⟨mid, Spot.leads_of_follow? followed, found⟩
  | look direction negated body advances =>
    intro rest spot stop found
    -- A look leaves what remains where it was, if with other groups.
    cases direction <;> cases negated <;> simp only [Pattern.run] at found
    case ahead.false | behind.false =>
      obtain ⟨seen, _, found⟩ := Option.bind_eq_some_iff.mp found
      exact ⟨{ spot with groups := seen.groups }, .refl spot, found⟩
    case ahead.true | behind.true =>
      split at found
      · exact ⟨spot, .refl spot, found⟩
      · cases found
  | atomic body advances => exact advances.committed
  | ifGroup number yes no yesAdvances noAdvances =>
    intro rest spot stop found
    simp only [Pattern.run] at found
    split at found
    · exact yesAdvances rest spot stop found
    · exact noAdvances rest spot stop found

/-! ### Searches -/

namespace Pattern

variable {pattern : Pattern} {text before after : List Char} {found : Match}

/-- The match cuts the text in three, and no match of the pattern begins further to the left. -/
structure IsLeftmost (pattern : Pattern) (text : List Char) (found : Match) : Prop where
  cuts : found.before ++ found.matched ++ found.after = text
  here : pattern.matchAt ⟨found.before.reverse, found.matched ++ found.after, []⟩ = some found
  first : ∀ before after, before ++ after = text → before.length < found.before.length →
    pattern.matchAt ⟨before.reverse, after, []⟩ = none

/-- A match begins at its spot. -/
theorem spot_of_matchAt (matched : pattern.matchAt ⟨before, after, []⟩ = some found) :
    found.before = before.reverse ∧ found.matched ++ found.after = after := by
  obtain ⟨stop, reached, rfl⟩ := Option.map_eq_some_iff.mp matched
  obtain ⟨mid, leads, same⟩ := advances_run pattern some _ stop reached
  cases same
  exact ⟨rfl, Spot.textTo_append leads⟩

theorem searchFrom_eq_some_iff :
    pattern.searchFrom before text = some found ↔
      ∃ passed after, passed ++ after = text ∧
        pattern.matchAt ⟨passed.reverse ++ before, after, []⟩ = some found ∧
        ∀ fewer more, fewer ++ more = text → fewer.length < passed.length →
          pattern.matchAt ⟨fewer.reverse ++ before, more, []⟩ = none := by
  induction text generalizing before with
  | nil =>
    constructor
    · intro matched
      exact ⟨[], [], rfl, matched, fun fewer more _ less => absurd less (Nat.not_lt_zero _)⟩
    · rintro ⟨passed, after, split, matched, _⟩
      obtain ⟨rfl, rfl⟩ := List.append_eq_nil_iff.mp split
      exact matched
  | cons c rest ih =>
    rw [searchFrom]
    cases here : pattern.matchAt ⟨before, c :: rest, []⟩ with
    | some other =>
      constructor
      · intro same
        cases same
        exact ⟨[], c :: rest, rfl, here, fun fewer more _ less => absurd less (Nat.not_lt_zero _)⟩
      · rintro ⟨passed, after, split, matched, first⟩
        cases passed with
        | nil =>
          rw [List.nil_append] at split
          subst split
          exact here.symm.trans matched
        | cons d others =>
          have none := first [] (c :: rest) rfl (Nat.succ_pos _)
          cases here.symm.trans none
    | none =>
      simp only [ih]
      constructor
      · rintro ⟨passed, after, split, matched, first⟩
        refine ⟨c :: passed, after, congrArg _ split, by simpa using matched, ?_⟩
        intro fewer more splitHere less
        cases fewer with
        | nil =>
          rw [List.nil_append] at splitHere
          subst splitHere
          exact here
        | cons d others =>
          cases splitHere
          simpa using first others more rfl (Nat.lt_of_succ_lt_succ less)
      · rintro ⟨passed, after, split, matched, first⟩
        cases passed with
        | nil =>
          rw [List.nil_append] at split
          subst split
          cases here.symm.trans matched
        | cons d others =>
          cases split
          refine ⟨others, after, rfl, by simpa using matched, fun fewer more split less => ?_⟩
          simpa using first (c :: fewer) more (congrArg _ split) (Nat.succ_lt_succ less)

/-- A search finds the leftmost match. -/
theorem search_eq_some_iff : pattern.search text = some found ↔ IsLeftmost pattern text found := by
  rw [search, searchFrom_eq_some_iff]
  constructor
  · rintro ⟨passed, after, split, matched, first⟩
    obtain ⟨start, covered⟩ := spot_of_matchAt matched
    rw [List.append_nil, List.reverse_reverse] at start
    subst start
    refine ⟨?_, ?_, fun before after split less => ?_⟩
    · rw [List.append_assoc, covered, split]
    · simpa [covered] using matched
    · simpa using first before after split less
  · rintro ⟨cuts, here, first⟩
    refine ⟨found.before, found.matched ++ found.after, ?_, by simpa using here, ?_⟩
    · rw [← cuts, List.append_assoc]
    · intro fewer more split less
      simpa using first fewer more split less

end Pattern
end Signpost
