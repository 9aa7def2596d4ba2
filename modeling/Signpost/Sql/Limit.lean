import Signpost.Sql.Clause

/-!
# How large a condition may be

A database takes conditions only up to a height and with no more placeholders than it has numbers for.
The condition of a query grows from left to right: alternatives and clauses are joined to what stands
before them one by one, and each joint is a level on top of the higher side. Clauses joined to one that
is false whatever the row leave nothing but that.
-/
namespace Signpost.Sql

/-- What a database takes. The conditions that the service asks of itself are small enough. -/
structure Limits where
  depth : Nat := 1000
  parameters : Nat := 32766
  takes_depth : 10 ≤ depth := by decide
  takes_parameters : 10 ≤ parameters := by decide
  deriving DecidableEq, Repr

instance : Inhabited Limits := ⟨{}⟩

/-- Why a condition is too large. -/
inductive Oversize
  | depth
  | parameters
  deriving DecidableEq, Repr

/-- A condition as far as it is joined: its height, none for nothing, and whether it is false whatever
the row. -/
structure Joined where
  height : Nat := 0
  isFalse : Bool := false

/-- What stands before, with a part of some height joined to it. -/
def Joined.add (joined : Joined) (height : Nat) (isFalse : Bool) : Joined :=
  if joined.height = 0 then ⟨height, isFalse⟩
  else if joined.isFalse || isFalse then ⟨1, true⟩
  else ⟨max joined.height height + 1, false⟩

/-- The number of terms of a clause. -/
def Clause.size : Clause → Nat
  | .term _ => 1
  | .anyOf terms => terms.length

/-- The number of terms of clauses. -/
def sizeOfAll : List Clause → Nat
  | [] => 0
  | clause :: rest => clause.size + sizeOfAll rest

namespace Limits

variable (limits : Limits)

/-- The number of placeholders with those of one more term, which makes a condition of some height. Of
two placeholders the first is numbered before the term is joined. -/
def addTerm (height count arity : Nat) : Except Oversize Nat :=
  if arity = 2 && limits.parameters ≤ count then .error .parameters
  else if limits.depth < height then .error .depth
  else if limits.parameters < count + arity then .error .parameters
  else .ok (count + arity)

/-- Height and number of placeholders with alternatives joined to those before. -/
def addTerms (height count : Nat) : List Term → Except Oversize (Nat × Nat)
  | [] => .ok (height, count)
  | term :: rest => do
    let height := if height = 0 then 2 else height + 1
    let count ← limits.addTerm height count term.comparison.arity
    addTerms height count rest

/-- The condition and the number of placeholders with one more clause. -/
def addClause (joined : Joined) (count : Nat) : Clause → Except Oversize (Joined × Nat)
  | .term term => do
    let joined := joined.add 2 false
    return (joined, ← limits.addTerm joined.height count term.comparison.arity)
  | .anyOf [] => .ok (joined.add 1 true, count)
  | .anyOf terms => do
    let (height, count) ← limits.addTerms 0 count terms
    let joined := joined.add height false
    if limits.depth < joined.height then .error .depth else .ok (joined, count)

/-- The condition and the number of placeholders with all clauses. -/
def addClauses (joined : Joined) (count : Nat) : List Clause → Except Oversize (Joined × Nat)
  | [] => .ok (joined, count)
  | clause :: rest => do
    let (joined, count) ← limits.addClause joined count clause
    addClauses joined count rest

/-- The clauses make no condition that is too large. -/
def check (clauses : List Clause) : Except Oversize Unit := do
  let _ ← limits.addClauses {} 0 clauses

/-- The failure of a query whose condition is too large. -/
def failure : Oversize → Store.Failure
  | .depth => .deepCondition limits.depth
  | .parameters => .manyParameters

/-! ### Small conditions -/

theorem arity_le (comparison : Comparison) : comparison.arity ≤ 2 := by
  cases comparison <;> decide

section

variable {limits} {height count arity seen : Nat} {joined : Joined}

theorem addTerm_of_small (fewArity : arity ≤ 2) (low : height ≤ 10) (few : count + 2 ≤ 10) :
    limits.addTerm height count arity = .ok (count + arity) := by
  have depth := limits.takes_depth
  have parameters := limits.takes_parameters
  have first : (decide (arity = 2) && decide (limits.parameters ≤ count)) = false := by
    simp only [Bool.and_eq_false_iff, decide_eq_false_iff_not]
    omega
  rw [addTerm, first, if_neg Bool.false_ne_true, if_neg (by omega), if_neg (by omega)]

theorem addTerms_of_small (terms : List Term) (low : max height 1 + terms.length ≤ 10)
    (few : count + 2 * terms.length ≤ 10) : ∃ height' count',
      limits.addTerms height count terms = .ok (height', count') ∧
        height' ≤ max height 1 + terms.length ∧ count' ≤ count + 2 * terms.length := by
  induction terms generalizing height count with
  | nil => exact ⟨height, count, rfl, Nat.le_max_left _ _, Nat.le_refl _⟩
  | cons term rest ih =>
    rw [List.length_cons] at low few
    have two := arity_le term.comparison
    have joint : (if height = 0 then 2 else height + 1) = max height 1 + 1 := by split <;> omega
    have added : limits.addTerm (max height 1 + 1) count term.comparison.arity =
        .ok (count + term.comparison.arity) := addTerm_of_small two (by omega) (by omega)
    obtain ⟨height', count', others, lower, fewer⟩ :=
      @ih (max height 1 + 1) (count + term.comparison.arity) (by omega) (by omega)
    refine ⟨height', count', ?_, by rw [List.length_cons]; omega, by rw [List.length_cons]; omega⟩
    rw [addTerms, joint, added]
    exact others

/-- What has few terms is low: it has at most one level more than terms, and none at all without
them, unless it is false. -/
def Low (joined : Joined) (seen : Nat) : Prop :=
  joined.height ≤ seen + 1 ∧ (seen = 0 → joined.height = 0 ∨ joined.isFalse = true)

theorem Low.add (low : Low joined seen) {size : Nat} (some : 0 < size) (isFalse : Bool)
    (below : height ≤ size + 1) : Low (joined.add height isFalse) (seen + size) := by
  obtain ⟨lower, nothing⟩ := low
  unfold Joined.add
  split
  · exact ⟨by simp only; omega, by omega⟩
  · split
    · exact ⟨by simp only; omega, by omega⟩
    next present both =>
      have seenSome : seen ≠ 0 := fun none => by
        rcases nothing none with absent | isFalse
        · exact present absent
        · simp [isFalse] at both
      exact ⟨by simp only; omega, by omega⟩

theorem addClause_of_small (clause : Clause) (low : Low joined seen) (few : count ≤ 2 * seen)
    (small : seen + clause.size ≤ 4) : ∃ joined' count',
      limits.addClause joined count clause = .ok (joined', count') ∧
        Low joined' (seen + clause.size) ∧ count' ≤ 2 * (seen + clause.size) := by
  cases clause with
  | term term =>
    have one : Clause.size (.term term) = 1 := rfl
    have two := arity_le term.comparison
    have lower : Low (joined.add 2 false) (seen + 1) := low.add Nat.one_pos false (Nat.le_refl _)
    have added : limits.addTerm (joined.add 2 false).height count term.comparison.arity =
        .ok (count + term.comparison.arity) :=
      addTerm_of_small two (by have := lower.1; omega) (by omega)
    refine ⟨joined.add 2 false, count + term.comparison.arity, ?_, lower, by omega⟩
    rw [addClause, added]
    rfl
  | anyOf terms =>
    cases terms with
    | nil =>
      -- The clause adds no term, but it is false, and then so is the condition.
      refine ⟨joined.add 1 true, count, rfl, ?_, few⟩
      obtain ⟨lower, nothing⟩ := low
      unfold Joined.add
      split
      · exact ⟨by simp only; omega, fun _ => Or.inr rfl⟩
      · simp only [Bool.or_true, if_true]
        exact ⟨by simp only; omega, fun _ => Or.inr rfl⟩
    | cons first rest =>
      have size : Clause.size (.anyOf (first :: rest)) = rest.length + 1 := rfl
      obtain ⟨height, count', made, below, fewer⟩ :=
        @addTerms_of_small limits 0 count (first :: rest) (by rw [List.length_cons]; omega)
          (by rw [List.length_cons]; omega)
      rw [List.length_cons] at below fewer
      have lower : Low (joined.add height false) (seen + (rest.length + 1)) :=
        low.add (Nat.succ_pos rest.length) false (by omega)
      have depth := limits.takes_depth
      refine ⟨joined.add height false, count', ?_, lower, by omega⟩
      simp only [addClause, made, Bind.bind, Except.bind]
      rw [if_neg (by have := lower.1; omega)]

theorem addClauses_of_small (clauses : List Clause) (low : Low joined seen) (few : count ≤ 2 * seen)
    (small : seen + sizeOfAll clauses ≤ 4) :
    ∃ built, limits.addClauses joined count clauses = .ok built := by
  induction clauses generalizing joined seen count with
  | nil => exact ⟨_, rfl⟩
  | cons clause rest ih =>
    rw [sizeOfAll] at small
    obtain ⟨joined', count', added, lower, fewer⟩ :=
      @addClause_of_small limits count seen joined clause low few (by omega)
    obtain ⟨built, others⟩ := ih lower fewer (by omega)
    refine ⟨built, ?_⟩
    simp only [addClauses, added, Bind.bind, Except.bind]
    exact others

/-- Every database takes a condition of few terms. -/
theorem check_of_small {clauses : List Clause} (small : sizeOfAll clauses ≤ 4) :
    limits.check clauses = .ok () := by
  have nothing : Low {} 0 := ⟨Nat.zero_le _, fun _ => Or.inl rfl⟩
  obtain ⟨built, made⟩ := @addClauses_of_small limits 0 0 {} clauses nothing (Nat.le_refl _) (by omega)
  rw [check, made]
  rfl

end

end Limits
end Signpost.Sql
