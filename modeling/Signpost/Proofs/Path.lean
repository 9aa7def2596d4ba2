import Mathlib.Data.List.Infix
import Signpost.Url.Location

/-!
# Paths in normal form

A path in normal form begins with exactly one slash, has no dot segments, and does not end with a
semicolon that has no parameters behind it.

## Main result

`normal_iff`: a path is in normal form exactly if it begins with one slash and resolving it leaves it
as it is.

## Proof strategy

What resolving gives begins with a slash, and its segments are segments of the path that are no dot
segments, or empty ones (`mem_withoutDots`); joining them and splitting them again changes nothing.
So it has neither dot segments nor a semicolon to drop (`exists_resolved`).
-/
namespace Signpost.Url

open Text (pieces afterLast join)

variable {path name parameters segment last : List Char} {parts walked : List (List Char)}

/-! ### The parameters of a path -/

/-- The name with the parameters behind it, if there are any. -/
def withParameters (name parameters : List Char) : List Char :=
  name ++ if parameters.isEmpty then [] else ';' :: parameters

theorem splitParameters_of_bare (bare : ';' ∉ afterLast '/' path) :
    splitParameters path = (path, []) := by
  simp only [splitParameters, Text.cut?_of_absent bare]

theorem splitParameters_append (bare : ';' ∉ afterLast '/' name) (flat : '/' ∉ parameters) :
    splitParameters (name ++ ';' :: parameters) = (name, parameters) := by
  have absent : '/' ∉ ';' :: parameters := by simpa using flat
  have suffix := Text.afterLast_suffix '/' name
  -- What stands before the last segment of the whole is what stands before that of the name.
  have front : (name ++ ';' :: parameters).take
      ((name ++ ';' :: parameters).length - (afterLast '/' name ++ ';' :: parameters).length) =
        name.take (name.length - (afterLast '/' name).length) := by
    have count : (name ++ ';' :: parameters).length -
        (afterLast '/' name ++ ';' :: parameters).length =
          name.length - (afterLast '/' name).length := by
      have short := suffix.length_le
      simp only [List.length_append]
      omega
    rw [count, List.take_append_of_le_length (Nat.sub_le _ _)]
  simp only [splitParameters, Text.afterLast_append name absent, Text.cut?_append bare, front]
  rw [List.suffix_iff_eq_append.mp suffix]

theorem splitParameters_withParameters (bare : ';' ∉ afterLast '/' name) (flat : '/' ∉ parameters) :
    splitParameters (withParameters name parameters) = (name, parameters) := by
  cases parameters with
  | nil =>
    rw [withParameters, List.isEmpty_nil, if_pos rfl, List.append_nil]
    exact splitParameters_of_bare bare
  | cons c rest => exact splitParameters_append bare flat

/-- A path is its name, or its name with a semicolon and the parameters behind it. -/
theorem splitParameters_cases (path : List Char) :
    ';' ∉ afterLast '/' (splitParameters path).1 ∧ '/' ∉ (splitParameters path).2 ∧
      ((path = (splitParameters path).1 ∧ (splitParameters path).2 = []) ∨
        path = (splitParameters path).1 ++ ';' :: (splitParameters path).2) := by
  by_cases marked : ';' ∈ afterLast '/' path
  · obtain ⟨ending, parameters, cut, bare⟩ := List.eq_append_cons_of_mem marked
    obtain ⟨front, whole⟩ := Text.afterLast_suffix '/' path
    have flat := Text.not_mem_afterLast '/' path
    rw [cut] at flat
    simp only [List.mem_append, List.mem_cons, not_or] at flat
    -- The last segment begins right behind the front, so the front ends with a slash or is empty.
    have front_nil : afterLast '/' front = [] := by
      have both := Text.afterLast_append front (Text.not_mem_afterLast '/' path)
      rw [whole] at both
      exact List.self_eq_append_left.mp both
    have name : afterLast '/' (front ++ ending) = ending := by
      rw [Text.afterLast_append front flat.1, front_nil, List.nil_append]
    have split : path = (front ++ ending) ++ ';' :: parameters := by
      rw [List.append_assoc, ← cut, whole]
    rw [split, splitParameters_append (by rwa [name]) flat.2.2]
    exact ⟨by rwa [name], flat.2.2, Or.inr rfl⟩
  · rw [splitParameters_of_bare marked]
    exact ⟨marked, List.not_mem_nil, Or.inl ⟨rfl, rfl⟩⟩

theorem head?_splitParameters (slash : path.head? = some '/') :
    (splitParameters path).1.head? = some '/' := by
  obtain ⟨_, _, ⟨whole, _⟩ | whole⟩ := splitParameters_cases path
  · rwa [← whole]
  · rw [whole, List.head?_append] at slash
    cases front : (splitParameters path).1 with
    | nil => simp [front] at slash
    | cons c rest => simpa [front] using slash

theorem tidyPath_eq (path : List Char) :
    tidyPath path = withParameters (splitParameters path).1 (splitParameters path).2 := rfl

/-- Nothing but a semicolon at the end is dropped. -/
theorem isPrefix_tidyPath (path : List Char) : tidyPath path <+: path := by
  obtain ⟨_, _, ⟨whole, none⟩ | whole⟩ := splitParameters_cases path
  · rw [tidyPath_eq, withParameters, none, List.isEmpty_nil, if_pos rfl, List.append_nil, ← whole]
  · rw [tidyPath_eq, withParameters]
    split
    · rw [List.append_nil]
      exact ⟨_, whole.symm⟩
    · rw [← whole]

theorem head?_tidyPath (slash : path.head? = some '/') : (tidyPath path).head? = some '/' := by
  rw [tidyPath_eq, withParameters, List.head?_append, head?_splitParameters slash]
  rfl

/-- The parameters of a path stand behind its last slash. -/
theorem splitParameters_cons_slash (path : List Char) :
    splitParameters ('/' :: path) = ('/' :: (splitParameters path).1, (splitParameters path).2) := by
  obtain ⟨bare, flat, whole⟩ := splitParameters_cases path
  have same (cs : List Char) : afterLast '/' ('/' :: cs) = afterLast '/' cs :=
    Text.afterLast_append_cons '/' [] cs
  rcases whole with ⟨whole, none⟩ | whole
  · rw [none]
    conv_lhs => rw [whole]
    exact splitParameters_of_bare (by rwa [same])
  · conv_lhs => rw [whole, ← List.cons_append]
    exact splitParameters_append (by rwa [same]) flat

/-! ### Dot segments -/

/-- A segment that leads nowhere or back. -/
def IsDots (segment : List Char) : Prop :=
  segment = ['.'] ∨ segment = ['.', '.']

instance (segment : List Char) : Decidable (IsDots segment) :=
  inferInstanceAs (Decidable (_ ∨ _))

theorem walk_of_not_dots (plain : ¬ IsDots segment) (walked : List (List Char)) :
    walk walked segment = segment :: walked := by
  rw [IsDots, not_or] at plain
  simp [walk, plain]

theorem mem_walk {other : List Char} (member : other ∈ walk walked segment) :
    other ∈ walked ∨ (other = segment ∧ ¬ IsDots segment) := by
  unfold walk at member
  split at member
  · exact Or.inl (List.mem_of_mem_drop member)
  · split at member
    · exact Or.inl member
    next notDouble notSingle =>
      rcases List.mem_cons.mp member with rfl | earlier
      · refine Or.inr ⟨rfl, ?_⟩
        rintro (single | double)
        · exact notSingle (beq_iff_eq.mpr single)
        · exact notDouble (beq_iff_eq.mpr double)
      · exact Or.inl earlier

theorem mem_foldl_walk (member : segment ∈ parts.foldl walk walked) :
    segment ∈ walked ∨ (segment ∈ parts ∧ ¬ IsDots segment) := by
  induction parts generalizing walked with
  | nil => exact Or.inl member
  | cons part rest ih =>
    rcases ih member with stepped | ⟨later, plain⟩
    · rcases mem_walk stepped with earlier | ⟨rfl, plain⟩
      · exact Or.inl earlier
      · exact Or.inr ⟨.head _, plain⟩
    · exact Or.inr ⟨.tail _ later, plain⟩

/-- Only segments that are no dot segments are left, and an empty one where the last is. -/
theorem mem_withoutDots (member : segment ∈ withoutDots parts) :
    segment = [] ∨ (segment ∈ parts ∧ ¬ IsDots segment) := by
  have kept (left : segment ∈ parts.foldl walk []) : segment ∈ parts ∧ ¬ IsDots segment :=
    (mem_foldl_walk left).resolve_left List.not_mem_nil
  simp only [withoutDots] at member
  split at member
  · rcases List.mem_cons.mp (List.mem_reverse.mp member) with empty | left
    · exact Or.inl empty
    · exact Or.inr (kept left)
  · exact Or.inr (kept (List.mem_reverse.mp member))

theorem getLast?_withoutDots (ending : parts.getLast? = some last) :
    (withoutDots parts).getLast? = some [] ∨ (withoutDots parts).getLast? = some last := by
  simp only [withoutDots, ending, Option.getD_some]
  split
  · left
    simp
  next plain =>
    right
    obtain ⟨front, rfl⟩ := List.getLast?_eq_some_iff.mp ending
    have plain : ¬ IsDots last := by simpa [IsDots] using plain
    rw [List.foldl_append, List.foldl_cons, List.foldl_nil, walk_of_not_dots plain]
    simp

theorem foldl_walk_of_plain (plain : ∀ segment ∈ parts, ¬ IsDots segment)
    (walked : List (List Char)) : parts.foldl walk walked = parts.reverse ++ walked := by
  induction parts generalizing walked with
  | nil => rfl
  | cons part rest ih =>
    have others := ih fun segment member => plain segment (.tail _ member)
    rw [List.foldl_cons, walk_of_not_dots (plain part (.head _)), others]
    simp

theorem withoutDots_of_plain (nonempty : parts ≠ []) (plain : ∀ segment ∈ parts, ¬ IsDots segment) :
    withoutDots parts = parts := by
  have last : ¬ IsDots (parts.getLast?.getD []) := by
    rw [List.getLast?_eq_some_getLast nonempty]
    exact plain _ (List.getLast_mem nonempty)
  have walked := foldl_walk_of_plain plain []
  simp only [IsDots, not_or] at last
  simp [withoutDots, walked, last]

/-! ### What resolving gives -/

/-- The name has no dot segments, and no semicolon in its last segment. -/
structure Plain (name : List Char) : Prop where
  dotless : ∀ segment ∈ pieces '/' name, ¬ IsDots segment
  bare : ';' ∉ afterLast '/' name

theorem Plain.cons_slash (plain : Plain name) : Plain ('/' :: name) where
  dotless := by
    rw [pieces, if_pos rfl, List.forall_mem_cons]
    exact ⟨by decide, plain.dotless⟩
  bare := by
    have same : afterLast '/' ('/' :: name) = afterLast '/' name :=
      Text.afterLast_append_cons '/' [] name
    rw [same]
    exact plain.bare

theorem Plain.rooted (plain : Plain name) : Plain (rooted name) := by
  unfold Url.rooted
  split
  · exact plain
  · exact plain.cons_slash

theorem head?_rooted (path : List Char) : (rooted path).head? = some '/' := by
  unfold rooted
  split
  next slash => exact beq_iff_eq.mp slash
  next => rfl

theorem mem_segments (member : segment ∈ segments path) :
    segment = [] ∨ segment ∈ pieces '/' path := by
  unfold segments at member
  split at member
  · exact Or.inr member
  · simp only [List.cons_append, List.mem_cons, List.mem_append, List.mem_filter,
      List.not_mem_nil, or_false] at member
    rcases member with empty | ⟨inner, _⟩ | ending
    · exact Or.inl empty
    · exact Or.inr (List.mem_of_mem_dropLast inner)
    · rw [ending, Text.getLast?_pieces, Option.getD_some]
      exact Or.inr (List.mem_of_getLast? (Text.getLast?_pieces '/' path))

theorem getLast?_segments (path : List Char) :
    (segments path).getLast? = some (afterLast '/' path) := by
  unfold segments
  split
  · exact Text.getLast?_pieces '/' path
  · simp only [List.getLast?_concat, Text.getLast?_pieces, Option.getD_some]

/-- The segments without dot segments make up a plain name, if there is no semicolon in the last. -/
theorem plain_join (bare : ';' ∉ afterLast '/' path) :
    Plain (join '/' (withoutDots (segments path))) := by
  have nonempty : withoutDots (segments path) ≠ [] := by
    intro none
    have ending := getLast?_withoutDots (getLast?_segments path)
    simp [none] at ending
  have slashless : ∀ segment ∈ withoutDots (segments path), '/' ∉ segment := by
    intro segment member
    rcases mem_withoutDots member with rfl | ⟨member, _⟩
    · exact List.not_mem_nil
    · rcases mem_segments member with rfl | piece
      · exact List.not_mem_nil
      · exact Text.not_mem_of_mem_pieces piece
  refine ⟨fun segment member => ?_, ?_⟩
  · rw [Text.pieces_join nonempty slashless] at member
    rcases mem_withoutDots member with rfl | ⟨_, plain⟩
    · decide
    · exact plain
  · have ending := Text.getLast?_of_join nonempty slashless
    rcases getLast?_withoutDots (getLast?_segments path) with empty | kept
    · rw [empty, Option.some.injEq] at ending
      rw [← ending]
      exact List.not_mem_nil
    · rw [kept, Option.some.injEq] at ending
      rwa [← ending]

/-- A resolved path is a plain name that begins with a slash, with the parameters of the path. -/
theorem exists_resolved (path : List Char) :
    ∃ name, resolvePath path = withParameters name (splitParameters path).2 ∧
      name.head? = some '/' ∧ Plain name := by
  obtain ⟨bare, _, _⟩ := splitParameters_cases path
  have slash : Plain ['/'] := ⟨by decide, by decide⟩
  unfold resolvePath
  generalize splitParameters path = halves at bare
  refine ⟨_, rfl, head?_rooted _, Plain.rooted ?_⟩
  -- The root stands in for an empty path and for one of which nothing is left.
  split
  · exact slash
  · split
    · exact slash
    · exact plain_join bare

/-- A resolved path has no characters but those of the path, slashes and semicolons. -/
theorem forall_mem_resolvePath {allowed : Char → Prop} (slash : allowed '/') (semicolon : allowed ';')
    (all : ∀ c ∈ path, allowed c) : ∀ c ∈ resolvePath path, allowed c := by
  have ofName : ∀ c ∈ (splitParameters path).1, allowed c := by
    obtain ⟨_, _, ⟨whole, _⟩ | whole⟩ := splitParameters_cases path
    · rwa [← whole]
    · exact fun c member => all c (whole ▸ List.mem_append_left _ member)
  have ofParameters : ∀ c ∈ (splitParameters path).2, allowed c := by
    obtain ⟨_, _, ⟨_, none⟩ | whole⟩ := splitParameters_cases path
    · simp [none]
    · exact fun c member => all c (whole ▸ List.mem_append_right _ (.tail _ member))
  have ofJoined : ∀ c ∈ join '/' (withoutDots (segments (splitParameters path).1)), allowed c := by
    intro c member
    rcases Text.mem_join member with rfl | ⟨segment, left, inside⟩
    · exact slash
    · rcases mem_withoutDots left with rfl | ⟨kept, _⟩
      · cases inside
      · rcases mem_segments kept with rfl | piece
        · cases inside
        · exact ofName c (Text.mem_of_mem_pieces piece inside)
  have ofRoot : ∀ c ∈ ['/'], allowed c := List.forall_mem_singleton.mpr slash
  have ofRooted {cs : List Char} (every : ∀ c ∈ cs, allowed c) : ∀ c ∈ rooted cs, allowed c := by
    unfold rooted
    split
    · exact every
    · exact List.forall_mem_cons.mpr ⟨slash, every⟩
  unfold resolvePath
  generalize splitParameters path = halves at ofName ofParameters ofJoined
  refine List.forall_mem_append.mpr ⟨ofRooted ?_, ?_⟩
  · split
    · exact ofRoot
    · split
      · exact ofRoot
      · exact ofJoined
  · split
    · exact fun c member => nomatch member
    · exact List.forall_mem_cons.mpr ⟨semicolon, ofParameters⟩

/-! ### Normal form -/

/-- The text begins with exactly one slash. -/
def IsRooted (text : List Char) : Prop :=
  ∃ rest, text = '/' :: rest ∧ rest.head? ≠ some '/'

theorem IsRooted.head? {text : List Char} (rooted : IsRooted text) : text.head? = some '/' := by
  obtain ⟨rest, rfl, _⟩ := rooted
  rfl

/-- A path in normal form: it begins with exactly one slash, no segment before its parameters is a
dot segment, and it does not end with a semicolon that has no parameters behind it. -/
structure Normal (path : List Char) : Prop where
  rooted : IsRooted path
  dotless : ∀ segment ∈ pieces '/' (splitParameters path).1, ¬ IsDots segment
  tidy : tidyPath path = path

theorem splitParameters_resolvePath (path : List Char) :
    Plain (splitParameters (resolvePath path)).1 ∧
      (splitParameters (resolvePath path)).2 = (splitParameters path).2 := by
  obtain ⟨_, flat, _⟩ := splitParameters_cases path
  obtain ⟨name, resolved, _, plain⟩ := exists_resolved path
  rw [resolved, splitParameters_withParameters plain.bare flat]
  exact ⟨plain, rfl⟩

theorem head?_resolvePath (path : List Char) : (resolvePath path).head? = some '/' := by
  obtain ⟨name, resolved, slash, _⟩ := exists_resolved path
  rw [resolved, withParameters, List.head?_append, slash]
  rfl

theorem tidyPath_resolvePath (path : List Char) : tidyPath (resolvePath path) = resolvePath path := by
  obtain ⟨_, flat, _⟩ := splitParameters_cases path
  obtain ⟨name, resolved, _, plain⟩ := exists_resolved path
  rw [resolved, tidyPath_eq, splitParameters_withParameters plain.bare flat]

theorem resolvePath_eq_self (slash : path.head? = some '/')
    (dotless : ∀ segment ∈ pieces '/' (splitParameters path).1, ¬ IsDots segment)
    (tidy : tidyPath path = path) : resolvePath path = path := by
  have begins := head?_splitParameters slash
  have nonempty : (splitParameters path).1.isEmpty = false := by
    cases front : (splitParameters path).1 with
    | nil => simp [front] at begins
    | cons c rest => rfl
  have whole : join '/' (withoutDots (segments (splitParameters path).1)) =
      (splitParameters path).1 := by
    rw [segments, if_pos (beq_iff_eq.mpr begins),
      withoutDots_of_plain (Text.pieces_ne_nil _ _) dotless, Text.join_pieces]
  have resolved : resolvePath path =
      withParameters (splitParameters path).1 (splitParameters path).2 := by
    simp only [resolvePath, nonempty, whole, Url.rooted, begins, Bool.false_and, Bool.false_eq_true,
      if_false, beq_self_eq_true, if_true]
    rfl
  rw [resolved, ← tidyPath_eq, tidy]

/-- A path is in normal form exactly if it begins with one slash and is resolved to itself. -/
theorem normal_iff : Normal path ↔ IsRooted path ∧ resolvePath path = path := by
  constructor
  · rintro ⟨rooted, dotless, tidy⟩
    obtain ⟨rest, rfl, _⟩ := id rooted
    exact ⟨rooted, resolvePath_eq_self rfl dotless tidy⟩
  · rintro ⟨rooted, same⟩
    refine ⟨rooted, ?_, ?_⟩
    · rw [← same]
      exact (splitParameters_resolvePath path).1.dotless
    · rw [← same]
      exact tidyPath_resolvePath path

end Signpost.Url
