/-!
# Splitting text at a character

`pieces` splits at every occurrence and `cut?` at the first one. Main statements: joining the
pieces again gives the text back, no piece holds the separator, and pieces without it are found again
once they have been joined.
-/
namespace Signpost.Text

/-- The pieces between the occurrences of the separator. -/
def pieces (sep : Char) : List Char → List (List Char)
  | [] => [[]]
  | c :: rest =>
    if c = sep then [] :: pieces sep rest
    else
      match pieces sep rest with
      | [] => [[c]]
      | piece :: others => (c :: piece) :: others

/-- What stands before and after the first occurrence of the separator. -/
def cut? (sep : Char) : List Char → Option (List Char × List Char)
  | [] => none
  | c :: rest =>
    if c = sep then some ([], rest)
    else (cut? sep rest).map fun halves => (c :: halves.1, halves.2)

/-- What stands before and after the first occurrence of the separator; without one, all stands
before it. -/
def cut (sep : Char) (cs : List Char) : List Char × List Char :=
  (cut? sep cs).getD (cs, [])

/-- What follows the last occurrence of the separator; without one, the whole text. -/
def afterLast (sep : Char) (cs : List Char) : List Char :=
  (cs.reverse.takeWhile (· != sep)).reverse

/-- The pieces with the separator between them. -/
def join (sep : Char) : List (List Char) → List Char
  | [] => []
  | [piece] => piece
  | piece :: rest => piece ++ sep :: join sep rest

theorem pieces_ne_nil (sep : Char) (cs : List Char) : pieces sep cs ≠ [] := by
  cases cs with
  | nil => simp [pieces]
  | cons c rest =>
    rw [pieces]
    split
    · simp
    · split <;> simp

theorem join_pieces (sep : Char) (cs : List Char) : join sep (pieces sep cs) = cs := by
  induction cs with
  | nil => rfl
  | cons c rest ih =>
    rw [pieces]
    split
    · rename_i h
      subst h
      cases hp : pieces c rest with
      | nil => exact absurd hp (pieces_ne_nil c rest)
      | cons piece others => rw [hp] at ih; simp [join, ih]
    · cases hp : pieces sep rest with
      | nil => exact absurd hp (pieces_ne_nil sep rest)
      | cons piece others =>
        rw [hp] at ih
        cases others with
        | nil => simpa [join] using ih
        | cons next more => simpa [join] using ih

theorem not_mem_of_mem_pieces {sep : Char} {cs piece : List Char} (h : piece ∈ pieces sep cs) :
    sep ∉ piece := by
  induction cs generalizing piece with
  | nil => simp only [pieces, List.mem_singleton] at h; simp [h]
  | cons c rest ih =>
    rw [pieces] at h
    split at h
    · rcases List.mem_cons.1 h with rfl | h
      · simp
      · exact ih h
    · rename_i hc
      split at h
      · simp only [List.mem_singleton] at h
        simp [h, Ne.symm hc]
      · rename_i first others hp
        rcases List.mem_cons.1 h with rfl | h
        · have : sep ∉ first := ih (by simp [hp])
          simp [this, Ne.symm hc]
        · exact ih (by simp [hp, h])

theorem eq_of_cut? {sep : Char} {cs before after : List Char}
    (h : cut? sep cs = some (before, after)) : cs = before ++ sep :: after := by
  induction cs generalizing before with
  | nil => simp [cut?] at h
  | cons c rest ih =>
    rw [cut?] at h
    split at h
    · simp_all
    · rename_i hc
      cases hr : cut? sep rest with
      | none => simp [hr] at h
      | some halves =>
        obtain ⟨left, right⟩ := halves
        simp only [hr, Option.map_some, Option.some.injEq, Prod.mk.injEq] at h
        obtain ⟨rfl, rfl⟩ := h
        simp [ih hr]

section

variable {sep : Char}

theorem cut?_of_absent {cs : List Char} (absent : sep ∉ cs) : cut? sep cs = none := by
  induction cs with
  | nil => rfl
  | cons c rest ih =>
    rw [List.mem_cons, not_or] at absent
    rw [cut?, if_neg (Ne.symm absent.1), ih absent.2]
    rfl

theorem cut?_append {before : List Char} (absent : sep ∉ before) (after : List Char) :
    cut? sep (before ++ sep :: after) = some (before, after) := by
  induction before with
  | nil => simp [cut?]
  | cons c rest ih =>
    rw [List.mem_cons, not_or] at absent
    rw [List.cons_append, cut?, if_neg (Ne.symm absent.1), ih absent.2]
    rfl

theorem cut_of_absent {cs : List Char} (absent : sep ∉ cs) : cut sep cs = (cs, []) := by
  rw [cut, cut?_of_absent absent]
  rfl

theorem cut_append {before : List Char} (absent : sep ∉ before) (after : List Char) :
    cut sep (before ++ sep :: after) = (before, after) := by
  rw [cut, cut?_append absent]
  rfl

theorem cut_cases (sep : Char) (cs : List Char) :
    (sep ∉ cs ∧ cut sep cs = (cs, [])) ∨
      ∃ before after, cs = before ++ sep :: after ∧ sep ∉ before ∧ cut sep cs = (before, after) := by
  by_cases present : sep ∈ cs
  · obtain ⟨before, after, rfl, absent⟩ := List.eq_append_cons_of_mem present
    exact Or.inr ⟨before, after, rfl, absent, cut_append absent after⟩
  · exact Or.inl ⟨present, cut_of_absent present⟩

/-- What has no separator in front of a text stays in front of its first half. -/
theorem cut_bare_append {front : List Char} (absent : sep ∉ front) (cs : List Char) :
    cut sep (front ++ cs) = (front ++ (cut sep cs).1, (cut sep cs).2) := by
  rcases cut_cases sep cs with ⟨none, halves⟩ | ⟨before, after, rfl, bare, halves⟩
  · rw [halves, cut_of_absent (by simp [absent, none])]
  · rw [halves, ← List.append_assoc, cut_append (by simp [absent, bare])]

theorem pieces_of_absent {cs : List Char} (absent : sep ∉ cs) : pieces sep cs = [cs] := by
  induction cs with
  | nil => rfl
  | cons c rest ih =>
    rw [List.mem_cons, not_or] at absent
    rw [pieces, if_neg (Ne.symm absent.1), ih absent.2]

theorem pieces_append {piece : List Char} (absent : sep ∉ piece) (rest : List Char) :
    pieces sep (piece ++ sep :: rest) = piece :: pieces sep rest := by
  induction piece with
  | nil => simp [pieces]
  | cons c tail ih =>
    rw [List.mem_cons, not_or] at absent
    rw [List.cons_append, pieces, if_neg (Ne.symm absent.1), ih absent.2]

/-- Pieces that have been joined are found again. -/
theorem pieces_join {parts : List (List Char)} (nonempty : parts ≠ [])
    (bare : ∀ part ∈ parts, sep ∉ part) : pieces sep (join sep parts) = parts := by
  induction parts with
  | nil => exact absurd rfl nonempty
  | cons part rest ih =>
    have absent : sep ∉ part := bare part (.head _)
    cases rest with
    | nil => exact pieces_of_absent absent
    | cons next others =>
      have others := ih (List.cons_ne_nil _ _) fun p member => bare p (.tail _ member)
      simp only [join, pieces_append absent, others]

theorem afterLast_append (cs : List Char) {tail : List Char} (absent : sep ∉ tail) :
    afterLast sep (cs ++ tail) = afterLast sep cs ++ tail := by
  have passed : ∀ c ∈ tail.reverse, (c != sep) = true := by
    intro c member
    exact bne_iff_ne.mpr fun same => absent (same ▸ List.mem_reverse.mp member)
  rw [afterLast, List.reverse_append, List.takeWhile_append_of_pos passed, List.reverse_append,
    List.reverse_reverse]
  rfl

theorem afterLast_append_cons (sep : Char) (front back : List Char) :
    afterLast sep (front ++ sep :: back) = afterLast sep back := by
  rw [afterLast, afterLast, List.reverse_append, List.reverse_cons, List.append_assoc,
    List.takeWhile_append]
  split
  next whole =>
    -- The separator in front of the back part ends the run.
    have all := (List.takeWhile_prefix _).eq_of_length whole
    simp [all]
  next => rfl

theorem afterLast_suffix (sep : Char) (cs : List Char) : afterLast sep cs <:+ cs := by
  rw [afterLast, ← List.reverse_prefix, List.reverse_reverse]
  exact List.takeWhile_prefix _

theorem not_mem_afterLast (sep : Char) (cs : List Char) : sep ∉ afterLast sep cs := by
  intro member
  rw [afterLast, List.mem_reverse] at member
  have passed := List.all_eq_true.mp List.all_takeWhile sep member
  simp at passed

theorem getLast?_of_join {parts : List (List Char)} (nonempty : parts ≠ [])
    (bare : ∀ part ∈ parts, sep ∉ part) :
    parts.getLast? = some (afterLast sep (join sep parts)) := by
  induction parts with
  | nil => exact absurd rfl nonempty
  | cons part rest ih =>
    cases rest with
    | nil =>
      have whole := afterLast_append [] (bare part (.head _))
      rw [List.getLast?_singleton, join, ← List.nil_append part, whole]
      rfl
    | cons next others =>
      have last := ih (List.cons_ne_nil _ _) fun p member => bare p (.tail _ member)
      have joined : join sep (part :: next :: others) = part ++ sep :: join sep (next :: others) := rfl
      rw [List.getLast?_cons_cons, last, joined, afterLast_append_cons]

/-- The last piece is what follows the last separator. -/
theorem getLast?_pieces (sep : Char) (cs : List Char) :
    (pieces sep cs).getLast? = some (afterLast sep cs) := by
  rw [getLast?_of_join (pieces_ne_nil sep cs) fun _ => not_mem_of_mem_pieces, join_pieces]

theorem join_concat_append (sep : Char) (front : List (List Char)) (last tail : List Char) :
    join sep (front ++ [last]) ++ tail = join sep (front ++ [last ++ tail]) := by
  induction front with
  | nil => rfl
  | cons piece rest ih =>
    have joined (ending : List Char) :
        join sep (piece :: rest ++ [ending]) = piece ++ sep :: join sep (rest ++ [ending]) := by
      cases rest <;> rfl
    rw [joined, joined, ← ih, List.append_assoc, List.cons_append]

/-- What has no separator behind a text goes to its last piece. -/
theorem pieces_append_of_absent (cs : List Char) {tail : List Char} (absent : sep ∉ tail) :
    pieces sep (cs ++ tail) = (pieces sep cs).dropLast ++ [afterLast sep cs ++ tail] := by
  have ending := List.getLast?_eq_some_iff.mp (getLast?_pieces sep cs)
  obtain ⟨front, whole⟩ := ending
  have bare : ∀ piece ∈ front ++ [afterLast sep cs ++ tail], sep ∉ piece := by
    intro piece member
    rcases List.mem_append.mp member with earlier | last
    · exact not_mem_of_mem_pieces (whole ▸ List.mem_append_left _ earlier)
    · rw [List.mem_singleton.mp last, List.mem_append, not_or]
      exact ⟨not_mem_afterLast sep cs, absent⟩
  have text : cs ++ tail = join sep (front ++ [afterLast sep cs ++ tail]) := by
    rw [← join_concat_append, ← whole, join_pieces]
  rw [text, pieces_join (by simp) bare, whole, List.dropLast_concat]

theorem mem_join {parts : List (List Char)} {c : Char} (member : c ∈ join sep parts) :
    c = sep ∨ ∃ part ∈ parts, c ∈ part := by
  fun_induction join sep parts with
  | case1 => cases member
  | case2 part => exact Or.inr ⟨part, .head _, member⟩
  | case3 part rest _ ih =>
    rcases List.mem_append.mp member with here | behind
    · exact Or.inr ⟨part, .head _, here⟩
    · rcases List.mem_cons.mp behind with separator | later
      · exact Or.inl separator
      · rcases ih later with separator | ⟨other, there, inside⟩
        · exact Or.inl separator
        · exact Or.inr ⟨other, .tail _ there, inside⟩

theorem mem_of_mem_pieces {cs piece : List Char} {c : Char} (member : piece ∈ pieces sep cs)
    (inside : c ∈ piece) : c ∈ cs := by
  have joined {parts : List (List Char)} (member : piece ∈ parts) : c ∈ join sep parts := by
    fun_induction join sep parts with
    | case1 => cases member
    | case2 part =>
      cases List.mem_singleton.mp member
      exact inside
    | case3 part rest _ ih =>
      rcases List.mem_cons.mp member with rfl | later
      · exact List.mem_append_left _ inside
      · exact List.mem_append_right _ (.tail _ (ih later))
  rw [← join_pieces sep cs]
  exact joined member

end

end Signpost.Text
