import Signpost.Proofs.Location

/-!
# Bare paths

A text that begins with one slash names a path, which is resolved against the root.

## Main result

`ofText_dotless`: every such text is read, and what is read has no host and a path without dot segments.

## Proof strategy

Resolving gives a name without dot segments and behind it the parameters of the path
(`exists_resolved`). Parameters have no slash and follow a semicolon, so that the segment they end
is no dot segment (`dotless_withParameters`).
-/
namespace Signpost.Url

open Text (pieces join afterLast)

variable {name parameters : List Char} {text : String}

/-! ### The parameters behind a name -/

theorem dotless_withParameters (dotless : ∀ segment ∈ pieces '/' name, ¬ IsDots segment)
    (flat : '/' ∉ parameters) :
    ∀ segment ∈ pieces '/' (withParameters name parameters), ¬ IsDots segment := by
  cases parameters with
  | nil =>
    rw [withParameters, List.isEmpty_nil, if_pos rfl, List.append_nil]
    exact dotless
  | cons c rest =>
    have absent : '/' ∉ ';' :: c :: rest := by simpa using flat
    intro segment member
    rw [withParameters, List.isEmpty_cons, if_neg Bool.false_ne_true,
      Text.pieces_append_of_absent name absent] at member
    rcases List.mem_append.mp member with earlier | ending
    · exact dotless segment (List.mem_of_mem_dropLast earlier)
    · -- The last segment has the semicolon in it, which no dot segment has.
      rw [List.mem_singleton.mp ending]
      have semicolon : ';' ∈ afterLast '/' name ++ ';' :: c :: rest := by simp
      intro dots
      rcases dots with single | double
      · simp [single] at semicolon
      · simp [double] at semicolon

theorem dotless_resolvePath (path : List Char) :
    ∀ segment ∈ pieces '/' (resolvePath path), ¬ IsDots segment := by
  obtain ⟨_, flat, _⟩ := splitParameters_cases path
  obtain ⟨name, resolved, _, plain⟩ := exists_resolved path
  rw [resolved]
  exact dotless_withParameters plain.dotless flat

/-! ### Texts that begin with one slash -/

theorem clean_of_rooted {text : List Char} (rooted : IsRooted text)
    (kept : ∀ c ∈ text, isLineBreakOrTab c = false) : clean text = text := by
  obtain ⟨rest, rfl, _⟩ := rooted
  rw [clean_cons rfl, List.filter_eq_self.mpr fun c member => by simp [kept c (.tail _ member)]]

theorem isLineBreakOrTab_of_absent {text : List Char}
    (absent : '\t' ∉ text ∧ '\r' ∉ text ∧ '\n' ∉ text) :
    ∀ c ∈ text, isLineBreakOrTab c = false := by
  intro c member
  have noTab : c ≠ '\t' := ne_of_mem_of_not_mem member absent.1
  have noReturn : c ≠ '\r' := ne_of_mem_of_not_mem member absent.2.1
  have noLine : c ≠ '\n' := ne_of_mem_of_not_mem member absent.2.2
  simp [isLineBreakOrTab, noTab, noReturn, noLine]

theorem ofText_of_kept (rooted : IsRooted text.toList)
    (kept : ∀ c ∈ text.toList, isLineBreakOrTab c = false) :
    Location.ofText text = .ok (Location.ofParts [] (resolvePath (pathAndQuery text.toList).1)
      (pathAndQuery text.toList).2) := by
  have cleaned := clean_of_rooted rooted kept
  rw [ofText_of_rooted rooted (by rwa [cleaned]), cleaned]

/-- A text that begins with one slash is read without a host, as a path that begins with a slash, has
no dot segments, and has no character that would end it. -/
theorem ofText_dotless (rooted : IsRooted text.toList)
    (absent : '\t' ∉ text.toList ∧ '\r' ∉ text.toList ∧ '\n' ∉ text.toList) :
    ∃ location, Location.ofText text = .ok location ∧ location.host = "" ∧
      location.path.toList.head? = some '/' ∧
      (∀ segment ∈ pieces '/' location.path.toList, segment ≠ ['.'] ∧ segment ≠ ['.', '.']) ∧
      '?' ∉ location.path.toList ∧ '#' ∉ location.path.toList := by
  have read := ofText_of_kept rooted (isLineBreakOrTab_of_absent absent)
  obtain ⟨noMark, noHash, _⟩ := bare_pathAndQuery text.toList
  have bare : ∀ c ∈ resolvePath (pathAndQuery text.toList).1, c ≠ '?' ∧ c ≠ '#' := by
    apply forall_mem_resolvePath
    · decide
    · decide
    · intro c member
      exact ⟨ne_of_mem_of_not_mem member noMark, ne_of_mem_of_not_mem member noHash⟩
  refine ⟨_, read, rfl, ?_⟩
  rw [path_ofParts (resolvePath_ne_nil _)]
  refine ⟨head?_resolvePath _, ?_, fun mark => (bare _ mark).1 rfl, fun hash => (bare _ hash).2 rfl⟩
  intro segment member
  have plain := dotless_resolvePath _ segment member
  rwa [IsDots, not_or] at plain

/-- Of "/a/./../..//b/..;x/.;p?q/../r#/.." nothing but empty segments, the segment before its
parameters and the query are left. -/
theorem ofText_dotless_of_climb :
    IsRooted "/a/./../..//b/..;x/.;p?q/../r#/..".toList ∧
      ('\t' ∉ "/a/./../..//b/..;x/.;p?q/../r#/..".toList ∧
        '\r' ∉ "/a/./../..//b/..;x/.;p?q/../r#/..".toList ∧
        '\n' ∉ "/a/./../..//b/..;x/.;p?q/../r#/..".toList) ∧
      ∃ location, Location.ofText "/a/./../..//b/..;x/.;p?q/../r#/.." = .ok location ∧
        location.host = "" ∧ location.path.toList.head? = some '/' ∧
        (∀ segment ∈ pieces '/' location.path.toList, segment ≠ ['.'] ∧ segment ≠ ['.', '.']) ∧
        '?' ∉ location.path.toList ∧ '#' ∉ location.path.toList := by
  have rooted : IsRooted "/a/./../..//b/..;x/.;p?q/../r#/..".toList := ⟨_, rfl, by decide⟩
  have absent : '\t' ∉ "/a/./../..//b/..;x/.;p?q/../r#/..".toList ∧
      '\r' ∉ "/a/./../..//b/..;x/.;p?q/../r#/..".toList ∧
      '\n' ∉ "/a/./../..//b/..;x/.;p?q/../r#/..".toList := by decide
  exact ⟨rooted, absent, ofText_dotless rooted absent⟩

end Signpost.Url
