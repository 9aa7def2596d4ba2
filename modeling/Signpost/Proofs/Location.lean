import Signpost.Proofs.Path

/-!
# Locations read again

A location is read from a text, and its path with its query is a text in turn.

## Main results

* `reread_iff_normal`: what is read from the path and the query of a location is that path and query
  again, without a host, exactly if the path is in normal form.
* `absolute_alike_iff`: a path behind a host name and the path alone are read alike exactly if the path
  is in normal form.

## Proof strategy

What a location is read from is never shorter than its path with its query, and it is longer where it
begins with two slashes, and where the path does not begin with a slash (`Drawn`). So a path and query
that are found again begin with one slash. Such a text is read by resolving its path (`ofText_of_rooted`),
which is what `normal_iff` is about.
-/
namespace Signpost.Url

open Text (cut)

variable {scheme name path query rest front text host authority : List Char} {parts : Parts}
  {location : Location} {c : Char}

/-! ### Paths with queries -/

/-- The path and the query of a text that has no authority; its fragment is dropped. -/
def pathAndQuery (cs : List Char) : List Char × List Char :=
  cut '?' (cut '#' cs).1

/-- A query with its mark; an empty one has none. -/
def marked (query : List Char) : List Char :=
  if query.isEmpty then [] else '?' :: query

theorem mem_marked (member : c ∈ marked query) : c = '?' ∨ c ∈ query := by
  unfold marked at member
  split at member
  · cases member
  · exact List.mem_cons.mp member

/-- A character that may stand in the path of a location. -/
def isPathChar (c : Char) : Bool :=
  c != '?' && c != '#' && !isLineBreakOrTab c

/-- A character that may stand in the query of a location. -/
def isQueryChar (c : Char) : Bool :=
  c != '#' && !isLineBreakOrTab c

theorem isPrefix_pathAndQuery (cs : List Char) :
    (pathAndQuery cs).1 ++ marked (pathAndQuery cs).2 <+: cs := by
  have ofCut (cs : List Char) : (cut '?' cs).1 ++ marked (cut '?' cs).2 <+: cs := by
    rcases Text.cut_cases '?' cs with ⟨_, halves⟩ | ⟨before, after, rfl, _, halves⟩
    · rw [halves]
      exact ⟨[], by simp [marked]⟩
    · rw [halves, marked]
      split
      · exact ⟨'?' :: after, by simp⟩
      · exact List.prefix_rfl
  refine (ofCut _).trans ?_
  rcases Text.cut_cases '#' cs with ⟨_, halves⟩ | ⟨before, after, rfl, _, halves⟩
  · rw [halves]
  · rw [halves]
    exact List.prefix_append _ _

theorem bare_pathAndQuery (cs : List Char) :
    '?' ∉ (pathAndQuery cs).1 ∧ '#' ∉ (pathAndQuery cs).1 ∧ '#' ∉ (pathAndQuery cs).2 := by
  have whole : '#' ∉ (cut '#' cs).1 := by
    rcases Text.cut_cases '#' cs with ⟨absent, halves⟩ | ⟨_, _, _, absent, halves⟩ <;> rwa [halves]
  unfold pathAndQuery
  rcases Text.cut_cases '?' (cut '#' cs).1 with ⟨absent, halves⟩ | ⟨before, after, split, absent, halves⟩
  · rw [halves]
    exact ⟨absent, whole, List.not_mem_nil⟩
  · rw [split] at whole
    rw [halves]
    exact ⟨absent, fun member => whole (List.mem_append_left _ member),
      fun member => whole (List.mem_append_right _ (.tail _ member))⟩

theorem pathAndQuery_append (bare : ∀ c ∈ front, c ≠ '?' ∧ c ≠ '#') (cs : List Char) :
    pathAndQuery (front ++ cs) = (front ++ (pathAndQuery cs).1, (pathAndQuery cs).2) := by
  have noMark : '?' ∉ front := fun member => (bare _ member).1 rfl
  have noHash : '#' ∉ front := fun member => (bare _ member).2 rfl
  rw [pathAndQuery, Text.cut_bare_append noHash, Text.cut_bare_append noMark]
  rfl

theorem pathAndQuery_marked (noHash : '#' ∉ query) : pathAndQuery (marked query) = ([], query) := by
  unfold marked
  split
  next empty =>
    rw [List.isEmpty_iff.mp empty]
    rfl
  next =>
    have bare : '#' ∉ '?' :: query := by simpa using noHash
    rw [pathAndQuery, Text.cut_of_absent bare]
    exact Text.cut_append List.not_mem_nil query

theorem pathAndQuery_cons_slash (cs : List Char) :
    pathAndQuery ('/' :: cs) = ('/' :: (pathAndQuery cs).1, (pathAndQuery cs).2) := by
  have bare : ∀ c ∈ ['/'], c ≠ '?' ∧ c ≠ '#' := List.forall_mem_singleton.mpr (by decide)
  exact pathAndQuery_append bare cs

/-- The path of a text with one slash in front begins with one slash. -/
theorem IsRooted.pathAndQuery (rooted : IsRooted text) : IsRooted (pathAndQuery text).1 := by
  obtain ⟨rest, rfl, single⟩ := rooted
  refine ⟨(Url.pathAndQuery rest).1, congrArg Prod.fst (pathAndQuery_cons_slash rest), ?_⟩
  intro second
  obtain ⟨behind, whole⟩ := isPrefix_pathAndQuery rest
  rw [← whole, List.append_assoc, List.head?_append, second] at single
  exact single rfl

/-! ### Cleaned texts -/

theorem clean_cons (solid : isLeadingJunk c = false) (cs : List Char) :
    clean (c :: cs) = c :: cs.filter (!isLineBreakOrTab ·) := by
  have kept : isLineBreakOrTab c = false := by
    simp only [isLeadingJunk, decide_eq_false_iff_not] at solid
    simp only [isLineBreakOrTab, Bool.or_eq_false_iff, beq_eq_false_iff_ne]
    refine ⟨⟨?_, ?_⟩, ?_⟩ <;> rintro rfl <;> exact solid (by decide)
  rw [clean, List.dropWhile_cons_of_neg (by simp [solid]), List.filter_cons_of_pos (by simp [kept])]

theorem scheme?_cons_slash (cs : List Char) : scheme? ('/' :: cs) = none := by
  rw [scheme?, Text.cut?, if_neg (by decide)]
  cases Text.cut? ':' cs <;> rfl

/-- What is left of a text once its characters that are dropped are gone. -/
theorem kept_of_mem_clean (member : c ∈ clean text) : isLineBreakOrTab c = false := by
  simpa using (List.mem_filter.mp member).2

theorem length_clean_le (text : List Char) : (clean text).length ≤ text.length :=
  (List.length_filter_le _ _).trans (List.dropWhile_suffix _).length_le

/-! ### The parts of a text -/

theorem split_eq {after : List Char}
    (named : (scheme? (clean text)).getD (scheme, clean text) = (name, rest))
    (names : authorityAndRest rest = (authority, after)) :
    Parts.split scheme text = (checkBrackets authority).bind fun _ =>
      (checkLookalikes authority).bind fun _ =>
        .ok ⟨name, authority, (pathAndQuery after).1, (pathAndQuery after).2⟩ := by
  simp only [Parts.split, named, names]
  rfl

theorem split_cases (read : Parts.split scheme text = .ok parts) :
    ∃ rest, (scheme? (clean text)).getD (scheme, clean text) = (parts.scheme, rest) ∧
      parts.authority = (authorityAndRest rest).1 ∧
      parts.path = (pathAndQuery (authorityAndRest rest).2).1 ∧
      parts.query = (pathAndQuery (authorityAndRest rest).2).2 := by
  simp only [Parts.split, Bind.bind, Except.bind] at read
  split at read
  · cases read
  · split at read
    · cases read
    · cases read
      exact ⟨_, rfl, rfl, rfl, rfl⟩

theorem named_cases {cs : List Char} (named : (scheme? cs).getD (scheme, cs) = (name, rest)) :
    (name = scheme ∧ rest = cs) ∨ ∃ front, cs = front ++ ':' :: rest := by
  cases read : scheme? cs with
  | none =>
    rw [read] at named
    cases named
    exact Or.inl ⟨rfl, rfl⟩
  | some halves =>
    rw [read] at named
    cases named
    unfold scheme? at read
    split at read
    next before after cut =>
      split at read <;> cases read
      exact Or.inr ⟨before, Text.eq_of_cut? cut⟩
    next => cases read

/-- Behind two slashes stands the authority, up to what ends it. -/
theorem authorityAndRest_slashes (cs : List Char) :
    ∃ authority after, authorityAndRest ('/' :: '/' :: cs) = (authority, after) ∧
      cs = authority ++ after ∧ (∀ c ∈ authority, endsAuthority c = false) ∧
      after.head?.all endsAuthority = true := by
  refine ⟨_, _, rfl, List.takeWhile_append_dropWhile.symm, fun c member => ?_, ?_⟩
  · simpa using List.all_eq_true.mp List.all_takeWhile c member
  · have stops := List.head?_dropWhile_not (!endsAuthority ·) cs
    cases head : (cs.dropWhile (!endsAuthority ·)).head? with
    | none => rfl
    | some c => simpa [head] using stops

theorem authorityAndRest_single {cs : List Char} (single : ¬ ['/', '/'] <+: cs) :
    authorityAndRest cs = ([], cs) := by
  unfold authorityAndRest
  split
  next rest => exact absurd ⟨rest, rfl⟩ single
  next => rfl

theorem authorityAndRest_suffix (cs : List Char) : (authorityAndRest cs).2 <:+ cs := by
  by_cases slashes : ['/', '/'] <+: cs
  · obtain ⟨rest, rfl⟩ := slashes
    obtain ⟨authority, after, halves, rfl, _, _⟩ := authorityAndRest_slashes rest
    exact ⟨'/' :: '/' :: authority, by simp [halves]⟩
  · rw [authorityAndRest_single slashes]

theorem scheme?_full (full : name ∈ ["http".toList, "https".toList]) (rest : List Char) :
    scheme? (clean (name ++ "://".toList ++ rest)) =
      some (name, '/' :: '/' :: rest.filter (!isLineBreakOrTab ·)) := by
  simp only [List.mem_cons, List.not_mem_nil, or_false] at full
  have solid : isLeadingJunk 'h' = false := rfl
  rcases full with rfl | rfl
  · exact congrArg scheme? (clean_cons solid _)
  · exact congrArg scheme? (clean_cons solid _)

/-- The three ways in which a text is read. -/
theorem ofText_cases (text : String) :
    (∃ name ∈ ["http".toList, "https".toList], ∃ rest,
      (text.toList = name ++ "://".toList ++ rest ∨ text.toList = '/' :: '/' :: rest) ∧
      Location.ofText text = Location.ofUrl (name ++ "://".toList ++ rest)) ∨
    (¬ ['/', '/'] <+: text.toList ∧ Location.ofText text = Location.ofPath text.toList) := by
  simp only [Location.ofText]
  split
  next slashes =>
    obtain ⟨rest, whole⟩ := List.isPrefixOf_iff_prefix.mp slashes
    refine Or.inl ⟨"https".toList, by decide, rest, Or.inr whole.symm, ?_⟩
    rw [← whole]
    rfl
  next single =>
    split
    next full =>
      rcases Bool.or_eq_true_iff.mp full with http | https
      · obtain ⟨rest, whole⟩ := List.isPrefixOf_iff_prefix.mp http
        exact Or.inl ⟨"http".toList, by decide, rest, Or.inl whole.symm, by rw [← whole]; rfl⟩
      · obtain ⟨rest, whole⟩ := List.isPrefixOf_iff_prefix.mp https
        exact Or.inl ⟨"https".toList, by decide, rest, Or.inl whole.symm, by rw [← whole]; rfl⟩
    next =>
      refine Or.inr ⟨fun slashes => single (List.isPrefixOf_iff_prefix.mpr slashes), rfl⟩

/-! ### What a location is read from -/

theorem pathAndQuery_chars (cs : List Char) (kept : ∀ c ∈ cs, isLineBreakOrTab c = false) :
    (∀ c ∈ (pathAndQuery cs).1, isPathChar c = true) ∧
      ∀ c ∈ (pathAndQuery cs).2, isQueryChar c = true := by
  obtain ⟨noMark, noHash, noHashBehind⟩ := bare_pathAndQuery cs
  have inside := (isPrefix_pathAndQuery cs).subset
  constructor
  · intro c member
    have notMark : c ≠ '?' := ne_of_mem_of_not_mem member noMark
    have notHash : c ≠ '#' := ne_of_mem_of_not_mem member noHash
    simp [isPathChar, notMark, notHash, kept c (inside (List.mem_append_left _ member))]
  · intro c member
    have notHash : c ≠ '#' := ne_of_mem_of_not_mem member noHashBehind
    have marked : c ∈ marked (pathAndQuery cs).2 := by
      rw [marked, if_neg (by simpa using List.ne_nil_of_mem member)]
      exact .tail _ member
    simp [isQueryChar, notHash, kept c (inside (List.mem_append_right _ marked))]

/-- What follows an authority has no path, or one that begins with a slash. -/
theorem pathAndQuery_of_ends {cs : List Char} (ends : cs.head?.all endsAuthority = true) :
    (pathAndQuery cs).1 = [] ∨ (pathAndQuery cs).1.head? = some '/' := by
  obtain ⟨noMark, noHash, _⟩ := bare_pathAndQuery cs
  obtain ⟨behind, whole⟩ := isPrefix_pathAndQuery cs
  cases front : (pathAndQuery cs).1 with
  | nil => exact Or.inl rfl
  | cons c path =>
    rw [front] at noMark noHash whole
    rw [← whole] at ends
    simp only [List.mem_cons, not_or] at noMark noHash
    have slash : c = '/' := by
      simpa [endsAuthority, Ne.symm noMark.1, Ne.symm noHash.1] using ends
    exact Or.inr (congrArg some slash)

theorem pathWithQuery_ofParts (nonempty : path ≠ []) :
    (Location.ofParts host path query).pathWithQuery.toList = path ++ marked query := by
  have absent : path.isEmpty = false := by simpa using nonempty
  simp only [Location.pathWithQuery, Location.ofParts, absent, Bool.false_eq_true, if_false, marked,
    String.toList_append, String.toList_ofList]
  split
  · rfl
  · rw [String.toList_ofList]

/-- The path and the query of a location have no characters that would end them. Where the path does
not begin with a slash, and where the text begins with two, something of the text was dropped. -/
structure Drawn (text : List Char) (location : Location) : Prop where
  pathChars : ∀ c ∈ location.path.toList, isPathChar c = true
  queryChars : ∃ query, location.query.toList = marked query ∧ ∀ c ∈ query, isQueryChar c = true
  rooted_or_shorter : location.path.toList.head? = some '/' ∨
    location.pathWithQuery.toList.length < text.length
  shorter : ['/', '/'] <+: text → location.pathWithQuery.toList.length < text.length

theorem drawn_ofParts (pathChars : ∀ c ∈ path, isPathChar c = true)
    (queryChars : ∀ c ∈ query, isQueryChar c = true)
    (rooted_or_shorter : path = [] ∨ path.head? = some '/' ∨
      (path ++ marked query).length < text.length)
    (shorter : ['/', '/'] <+: text → (path ++ marked query).length + 2 ≤ text.length) :
    Drawn text (Location.ofParts host path query) := by
  have queries : (Location.ofParts host path query).query.toList = marked query := by
    simp only [Location.ofParts, marked]
    split
    · rfl
    · rw [String.toList_ofList]
  by_cases empty : path = []
  · -- The root stands in for the empty path.
    subst empty
    have root : (Location.ofParts host [] query).path.toList = ['/'] := by simp [Location.ofParts]
    refine ⟨?_, ⟨query, queries, queryChars⟩, Or.inl (by rw [root]; rfl), fun slashes => ?_⟩
    · rw [root]
      exact List.forall_mem_singleton.mpr rfl
    · have short := shorter slashes
      rw [List.nil_append] at short
      rw [Location.pathWithQuery, String.toList_append, root, queries, List.length_append,
        List.length_singleton]
      omega
  · have paths : (Location.ofParts host path query).path.toList = path := by
      simp [Location.ofParts, empty]
    refine ⟨by rwa [paths], ⟨query, queries, queryChars⟩, ?_, fun slashes => ?_⟩
    · rw [paths, pathWithQuery_ofParts empty]
      exact rooted_or_shorter.resolve_left empty
    · have short := shorter slashes
      rw [pathWithQuery_ofParts empty]
      omega

theorem drawn_of_ofUrl (full : name ∈ ["http".toList, "https".toList])
    (whole : text = name ++ "://".toList ++ rest ∨ text = '/' :: '/' :: rest)
    (read : Location.ofUrl (name ++ "://".toList ++ rest) = .ok location) :
    Drawn text location := by
  simp only [Location.ofUrl, Bind.bind, Except.bind] at read
  split at read
  · cases read
  next parts split =>
    split at read <;> cases read
    obtain ⟨after, named, _, path, query⟩ := split_cases split
    rw [scheme?_full full, Option.getD_some, Prod.mk.injEq] at named
    obtain ⟨_, rfl⟩ := named
    obtain ⟨_, after, halves, filtered, _, ends⟩ :=
      authorityAndRest_slashes (rest.filter (!isLineBreakOrTab ·))
    rw [halves] at path query
    have suffix : after <:+ rest.filter (!isLineBreakOrTab ·) := ⟨_, filtered.symm⟩
    have chars := pathAndQuery_chars after fun c member => by
      simpa using (List.mem_filter.mp (suffix.subset member)).2
    rw [← path, ← query] at chars
    have short : (parts.path ++ marked parts.query).length ≤ rest.length := by
      rw [path, query]
      exact (isPrefix_pathAndQuery after).length_le.trans
        (suffix.length_le.trans (List.length_filter_le _ _))
    refine drawn_ofParts chars.1 chars.2 ?_ fun _ => ?_
    · rw [path]
      rcases pathAndQuery_of_ends ends with none | slash
      · exact Or.inl none
      · exact Or.inr (Or.inl slash)
    · have three : "://".toList.length = 3 := rfl
      rcases whole with rfl | rfl
      · simp only [List.length_append, three] at short ⊢
        omega
      · simpa using short

theorem drawn_of_ofPath (single : ¬ ['/', '/'] <+: text) (read : Location.ofPath text = .ok location) :
    Drawn text location := by
  simp only [Location.ofPath, Bind.bind, Except.bind] at read
  split at read
  · cases read
  next parts split =>
    obtain ⟨rest, named, authority, path, query⟩ := split_cases split
    have within : rest <:+ clean text := by
      rcases named_cases named with ⟨_, rfl⟩ | ⟨front, whole⟩
      · exact List.suffix_rfl
      · exact ⟨front ++ [':'], by simp [whole]⟩
    have chars := pathAndQuery_chars (authorityAndRest rest).2 fun c member =>
      kept_of_mem_clean (((authorityAndRest_suffix rest).trans within).subset member)
    rw [← path, ← query] at chars
    split at read
    next foreign =>
      cases read
      refine drawn_ofParts chars.1 chars.2 (Or.inr (Or.inr ?_)) fun slashes => absurd slashes single
      obtain ⟨ours, _⟩ | ⟨front, whole⟩ := named_cases named
      · simp [ours] at foreign
      · -- A scheme of its own was dropped from the text.
        have shorter := congrArg List.length whole
        have cleaned := length_clean_le text
        have drawn := (isPrefix_pathAndQuery (authorityAndRest rest).2).length_le
        have after := (authorityAndRest_suffix rest).length_le
        rw [← path, ← query] at drawn
        simp only [List.length_append, List.length_cons] at shorter drawn ⊢
        omega
    next =>
      split at read <;> cases read
      next hosted =>
        have tidied : ∀ c ∈ tidyPath parts.path, isPathChar c = true := fun c member =>
          chars.1 c ((isPrefix_tidyPath _).subset member)
        refine drawn_ofParts tidied chars.2 ?_ fun slashes => absurd slashes single
        -- An authority stands behind two slashes, and the path behind the authority.
        have slashes : ['/', '/'] <+: rest := by
          by_contra none
          simp [authority, authorityAndRest_single none] at hosted
        obtain ⟨behind, rfl⟩ := slashes
        obtain ⟨_, after, halves, _, _, ends⟩ := authorityAndRest_slashes behind
        rw [path, show authorityAndRest (['/', '/'] ++ behind) = _ from halves]
        rcases pathAndQuery_of_ends ends with none | slash
        · rw [none]
          exact Or.inl rfl
        · exact Or.inr (Or.inl (head?_tidyPath slash))
      next bare =>
        exact drawn_ofParts (forall_mem_resolvePath rfl rfl chars.1) chars.2
          (Or.inr (Or.inl (head?_resolvePath _))) fun slashes => absurd slashes single

theorem drawn_of_ofText {text : String} (read : Location.ofText text = .ok location) :
    Drawn text.toList location := by
  rcases ofText_cases text with ⟨name, full, rest, whole, same⟩ | ⟨single, same⟩
  · exact drawn_of_ofUrl full whole (same ▸ read)
  · exact drawn_of_ofPath single (same ▸ read)

/-! ### Reading a path -/

theorem IsRooted.not_slashes (rooted : IsRooted text) : ¬ ['/', '/'] <+: text := by
  rintro ⟨rest, rfl⟩
  obtain ⟨_, whole, single⟩ := rooted
  cases whole
  exact single rfl

theorem ofText_of_single {text : String} (rooted : IsRooted text.toList) :
    Location.ofText text = Location.ofPath text.toList := by
  rcases ofText_cases text with ⟨name, full, rest, whole, _⟩ | ⟨_, same⟩
  · exfalso
    rcases whole with whole | slashes
    · obtain ⟨_, slash, _⟩ := rooted
      simp only [List.mem_cons, List.not_mem_nil, or_false] at full
      rcases full with rfl | rfl <;> simp [whole] at slash
    · exact rooted.not_slashes ⟨rest, slashes.symm⟩
  · exact same

/-- A text that begins with one slash, also once it is cleaned, names a path to be resolved. -/
theorem ofText_of_rooted {text : String} (raw : IsRooted text.toList)
    (cleaned : IsRooted (clean text.toList)) :
    Location.ofText text = .ok (Location.ofParts [] (resolvePath (pathAndQuery (clean text.toList)).1)
      (pathAndQuery (clean text.toList)).2) := by
  have single : ¬ ['/', '/'] <+: clean text.toList := cleaned.not_slashes
  rw [ofText_of_single raw]
  obtain ⟨rest, whole, _⟩ := cleaned
  have named : (scheme? (clean text.toList)).getD (https, clean text.toList) =
      (https, clean text.toList) := by rw [whole, scheme?_cons_slash]; rfl
  simp only [Location.ofPath, split_eq named (authorityAndRest_single single)]
  rfl

/-- Without an authority, two slashes in front of a path are not what resolving gives. -/
theorem resolvePath_ne (slash : path = [] ∨ path.head? = some '/') :
    resolvePath path ≠ '/' :: '/' :: path := by
  rcases slash with rfl | slash
  · decide
  · intro same
    have plain := (splitParameters_resolvePath path).1
    have tidy := tidyPath_resolvePath path
    rw [same] at plain tidy
    rw [splitParameters_cons_slash, splitParameters_cons_slash] at plain
    have dotless : ∀ segment ∈ Text.pieces '/' (splitParameters path).1, ¬ IsDots segment := by
      intro segment member
      exact plain.dotless segment (by simp [Text.pieces, member])
    have tidied : tidyPath path = path := by
      simpa [tidyPath_eq, splitParameters_cons_slash, withParameters] using tidy
    rw [resolvePath_eq_self slash dotless tidied] at same
    have lengths := congrArg List.length same
    simp only [List.length_cons] at lengths
    omega

theorem IsRooted.append_marked (rooted : IsRooted path) (query : List Char) :
    IsRooted (path ++ marked query) := by
  obtain ⟨rest, rfl, single⟩ := rooted
  refine ⟨rest ++ marked query, rfl, ?_⟩
  cases rest with
  | nil =>
    unfold marked
    split <;> simp
  | cons c _ => exact single

theorem resolvePath_ne_nil (path : List Char) : resolvePath path ≠ [] := by
  intro none
  simpa [none] using head?_resolvePath path

theorem isRooted_of_marked (slash : (path ++ marked query).head? = some '/')
    (single : ¬ ['/', '/'] <+: path ++ marked query) : IsRooted path := by
  cases path with
  | nil =>
    unfold marked at slash
    split at slash <;> simp at slash
  | cons c rest =>
    rw [List.cons_append, List.head?_cons, Option.some.injEq] at slash
    subst slash
    refine ⟨rest, rfl, fun second => single ?_⟩
    obtain ⟨behind, rfl⟩ := List.head?_eq_some_iff.mp second
    exact ⟨behind ++ marked query, rfl⟩

/-- The characters of a path and a query neither end them nor are dropped. -/
theorem clean_marked (slash : path.head? = some '/') (pathChars : ∀ c ∈ path, isPathChar c = true)
    (queryChars : ∀ c ∈ query, isQueryChar c = true) :
    clean (path ++ marked query) = path ++ marked query ∧
      pathAndQuery (path ++ marked query) = (path, query) := by
  have bare : ∀ c ∈ path, c ≠ '?' ∧ c ≠ '#' := fun c member => by
    have allowed := pathChars c member
    simp only [isPathChar, Bool.and_eq_true, bne_iff_ne] at allowed
    exact allowed.1
  have noHash : '#' ∉ query := fun member => by
    have allowed := queryChars _ member
    simp [isQueryChar] at allowed
  have kept : ∀ c ∈ path ++ marked query, isLineBreakOrTab c = false := by
    intro c member
    rcases List.mem_append.mp member with inPath | behind
    · have allowed := pathChars c inPath
      simp only [isPathChar, Bool.and_eq_true, Bool.not_eq_true'] at allowed
      exact allowed.2
    · rcases mem_marked behind with rfl | inQuery
      · rfl
      · have allowed := queryChars c inQuery
        simp only [isQueryChar, Bool.and_eq_true, Bool.not_eq_true'] at allowed
        exact allowed.2
  constructor
  · obtain ⟨rest, rfl⟩ := List.head?_eq_some_iff.mp slash
    rw [List.cons_append] at kept ⊢
    rw [clean_cons rfl, List.filter_eq_self.mpr fun c member => by simp [kept c (.tail _ member)]]
  · rw [pathAndQuery_append bare, pathAndQuery_marked noHash, List.append_nil]

/-- The path and the query of a location are read as they are, if the path begins with one slash. -/
theorem ofText_marked {text : String} (whole : text.toList = path ++ marked query)
    (rooted : IsRooted path) (pathChars : ∀ c ∈ path, isPathChar c = true)
    (queryChars : ∀ c ∈ query, isQueryChar c = true) :
    Location.ofText text = .ok (Location.ofParts [] (resolvePath path) query) := by
  obtain ⟨cleaned, halves⟩ := clean_marked rooted.head? pathChars queryChars
  have raw := rooted.append_marked query
  rw [ofText_of_rooted (by rwa [whole]) (by rwa [whole, cleaned]), whole, cleaned, halves]

/-- A location read from its own path and query is the same, without the host, exactly if its path is
in normal form. -/
theorem reread_iff_normal {text : String} (read : Location.ofText text = .ok location) :
    (∃ again, Location.ofText location.pathWithQuery = .ok again ∧ again.host = "" ∧
        again.pathWithQuery = location.pathWithQuery) ↔
      Normal location.path.toList := by
  have drawn := drawn_of_ofText read
  obtain ⟨query, queries, queryChars⟩ := drawn.queryChars
  have whole : location.pathWithQuery.toList = location.path.toList ++ marked query := by
    rw [Location.pathWithQuery, String.toList_append, queries]
  rw [normal_iff]
  constructor
  · rintro ⟨again, readAgain, _, same⟩
    have again_drawn := drawn_of_ofText readAgain
    -- Nothing can have been dropped, so the text begins with one slash.
    have lasting : ¬ again.pathWithQuery.toList.length < location.pathWithQuery.toList.length := by
      rw [same]
      exact Nat.lt_irrefl _
    have single : ¬ ['/', '/'] <+: location.pathWithQuery.toList := fun slashes =>
      lasting (again_drawn.shorter slashes)
    have slash : location.pathWithQuery.toList.head? = some '/' := by
      rw [← same, Location.pathWithQuery, String.toList_append, List.head?_append,
        again_drawn.rooted_or_shorter.resolve_right lasting]
      rfl
    rw [whole] at slash single
    have rooted := isRooted_of_marked slash single
    rw [ofText_marked whole rooted drawn.pathChars queryChars, Except.ok.injEq] at readAgain
    rw [← readAgain] at same
    have texts := congrArg String.toList same
    rw [pathWithQuery_ofParts (resolvePath_ne_nil _), whole, List.append_cancel_right_eq] at texts
    exact ⟨rooted, texts⟩
  · rintro ⟨rooted, resolved⟩
    refine ⟨_, ofText_marked whole rooted drawn.pathChars queryChars, rfl, ?_⟩
    rw [← String.toList_inj, pathWithQuery_ofParts (resolvePath_ne_nil _), resolved, whole]

/-- "/p/shoes?x=1", as it is read from a full URL, is read again. -/
theorem reread_shoes :
    Location.ofText "https://www.example.com/p/shoes?x=1#top" =
        .ok ⟨"www.example.com", "/p/shoes", "?x=1"⟩ ∧
      ∃ again, Location.ofText (Location.mk "www.example.com" "/p/shoes" "?x=1").pathWithQuery =
          .ok again ∧
        again.host = "" ∧
        again.pathWithQuery = (Location.mk "www.example.com" "/p/shoes" "?x=1").pathWithQuery := by
  have read : Location.ofText "https://www.example.com/p/shoes?x=1#top" =
    .ok ⟨"www.example.com", "/p/shoes", "?x=1"⟩ := rfl
  exact ⟨read, (reread_iff_normal read).mpr ⟨⟨_, rfl, by decide⟩, by decide, by decide⟩⟩

/-- A full URL keeps its dot segments, and its path read again loses them. -/
theorem not_reread_of_dots :
    Location.ofText "https://www.example.com/a/../b" = .ok ⟨"www.example.com", "/a/../b", ""⟩ ∧
      ¬ ∃ again, Location.ofText (Location.mk "www.example.com" "/a/../b" "").pathWithQuery =
          .ok again ∧
        again.host = "" ∧
        again.pathWithQuery = (Location.mk "www.example.com" "/a/../b" "").pathWithQuery := by
  refine ⟨rfl, ?_⟩
  rintro ⟨again, read, _, same⟩
  have resolved : Location.ofText (Location.mk "www.example.com" "/a/../b" "").pathWithQuery =
    .ok ⟨"", "/b", ""⟩ := rfl
  rw [resolved] at read
  cases read
  revert same
  decide

/-! ### The full form of a path -/

/-- A character that a host name is read with as it is. -/
def isHostChar (c : Char) : Bool :=
  !endsAuthority c && !isLineBreakOrTab c && !(['@', ':', '[', ']'].contains c)
    && !delimiterLookalikes.contains c.toNat

theorem hostOfAuthority_of_name (name : ∀ c ∈ host, isHostChar c = true) :
    hostOfAuthority host = .ok (lowerHost host) := by
  have absent (c : Char) (special : isHostChar c = false) : c ∉ host := fun member => by
    simp [name c member] at special
  have whole : Text.afterLast '@' host = host := by
    simpa [Text.afterLast] using Text.afterLast_append [] (absent '@' rfl)
  simp only [hostOfAuthority, hostAndPort, whole, Text.cut?_of_absent (absent '[' rfl),
    Text.cut_of_absent (absent ':' rfl)]
  rfl

theorem checks_of_name (name : ∀ c ∈ host, isHostChar c = true) :
    checkBrackets host = .ok () ∧ checkLookalikes host = .ok () := by
  have absent (c : Char) (special : isHostChar c = false) : host.contains c = false := by
    rw [List.contains_eq_mem, decide_eq_false_iff_not]
    intro member
    simp [name c member] at special
  constructor
  · simp only [checkBrackets, absent '[' rfl, absent ']' rfl]
  · have plain : host.any (delimiterLookalikes.contains ·.toNat) = false := by
      rw [List.any_eq_false]
      intro c member
      have allowed := name c member
      simp only [isHostChar, Bool.and_eq_true, Bool.not_eq_true'] at allowed
      rw [allowed.2]
      exact Bool.false_ne_true
    simp only [checkLookalikes, plain, Bool.false_eq_true, if_false]

theorem authorityAndRest_append {after : List Char} (bare : ∀ c ∈ host, endsAuthority c = false)
    (slash : after.head? = some '/') :
    authorityAndRest ('/' :: '/' :: (host ++ after)) = (host, after) := by
  obtain ⟨rest, rfl⟩ := List.head?_eq_some_iff.mp slash
  have passed : ∀ c ∈ host, (!endsAuthority c) = true := fun c member => by simp [bare c member]
  simp only [authorityAndRest, List.takeWhile_append_of_pos passed,
    List.dropWhile_append_of_pos passed]
  simp [endsAuthority]

/-- A host name and a path behind it are read as they are, but for the case of the host. -/
theorem ofText_https {text : String} (whole : text.toList = "https://".toList ++ (host ++ path))
    (name : ∀ c ∈ host, isHostChar c = true) (slash : path.head? = some '/') :
    Location.ofText text = .ok (Location.ofParts (lowerHost host) (pathAndQuery (clean path)).1
      (pathAndQuery (clean path)).2) := by
  have bare : ∀ c ∈ host, endsAuthority c = false ∧ isLineBreakOrTab c = false := by
    intro c member
    have allowed := name c member
    simp only [isHostChar, Bool.and_eq_true, Bool.not_eq_true'] at allowed
    exact allowed.1.1
  have kept : host.filter (!isLineBreakOrTab ·) = host :=
    List.filter_eq_self.mpr fun c member => by simp [(bare c member).2]
  obtain ⟨rest, rfl⟩ := List.head?_eq_some_iff.mp slash
  have cleaned : clean ('/' :: rest) = ('/' :: rest).filter (!isLineBreakOrTab ·) := rfl
  have named : (scheme? (clean text.toList)).getD ([], clean text.toList) =
      ("https".toList, '/' :: '/' :: (host ++ clean ('/' :: rest))) := by
    rw [whole, cleaned, show "https://".toList = "https".toList ++ "://".toList from rfl,
      scheme?_full (by decide), List.filter_append, kept]
    rfl
  have ahead : (clean ('/' :: rest)).head? = some '/' := by
    rw [clean_cons rfl]
    rfl
  have halves := authorityAndRest_append (fun c member => (bare c member).1) ahead
  have full : Location.ofText text = Location.ofUrl text.toList := by
    rw [Location.ofText, whole]
    rfl
  rw [full, Location.ofUrl, split_eq named halves, (checks_of_name name).1, (checks_of_name name).2]
  simp only [Except.bind, Bind.bind, hostOfAuthority_of_name name]
  rfl

theorem path_ofParts (nonempty : path ≠ []) :
    (Location.ofParts host path query).path.toList = path := by
  simp [Location.ofParts, nonempty]

theorem length_path_ofParts_le (host path query : List Char) :
    (Location.ofParts host path query).path.toList.length ≤ path.length + 1 := by
  by_cases empty : path = []
  · subst empty
    simp [Location.ofParts]
  · rw [path_ofParts empty]
    exact Nat.le_succ _

/-- Where two slashes are left once a path is cleaned, what stands behind them is read as an
authority, so that the path is not the one that it is behind a host. -/
theorem path_ne_of_slashes {text : String} {behind : List Char} (rooted : IsRooted text.toList)
    (cleaned : clean text.toList = '/' :: '/' :: behind)
    (read : Location.ofText text = .ok location) :
    location.path.toList ≠ (pathAndQuery ('/' :: '/' :: behind)).1 := by
  obtain ⟨authority, after, halves, rfl, bare, ends⟩ := authorityAndRest_slashes behind
  have front : ∀ c ∈ authority, c ≠ '?' ∧ c ≠ '#' := fun c member => by
    have goesOn := bare c member
    simp only [endsAuthority, Bool.or_eq_false_iff, beq_eq_false_iff_ne] at goesOn
    exact ⟨goesOn.1.2, goesOn.2⟩
  rw [pathAndQuery_cons_slash, pathAndQuery_cons_slash, pathAndQuery_append front]
  rw [ofText_of_single rooted] at read
  simp only [Location.ofPath, Bind.bind, Except.bind] at read
  split at read
  · cases read
  next parts split =>
    obtain ⟨rest, named, inside, path, query⟩ := split_cases split
    rw [cleaned, scheme?_cons_slash, Option.getD_none, Prod.mk.injEq] at named
    obtain ⟨ours, rfl⟩ := named
    rw [halves] at inside path query
    rw [← path]
    split at read
    next foreign => simp [← ours] at foreign
    next =>
      split at read <;> cases read
      next =>
        -- The path has lost the slashes and the authority.
        intro same
        have longest := length_path_ofParts_le [] (tidyPath parts.path) parts.query
        have tidied := (isPrefix_tidyPath parts.path).length_le
        have lengths := congrArg List.length same
        simp only [List.length_cons, List.length_append] at lengths
        omega
      next hostless =>
        have empty : authority = [] := by
          rw [inside] at hostless
          simpa using hostless
        rw [path_ofParts (resolvePath_ne_nil _), empty, path]
        exact resolvePath_ne (pathAndQuery_of_ends ends)

/-- The full form of a path and the path alone are read alike exactly if the path is in normal form. -/
theorem absolute_alike_iff {host path : String} (name : ∀ c ∈ host.toList, isHostChar c = true)
    (lower : lowerHost host.toList = host.toList) (rooted : IsRooted path.toList) :
    ∃ location, Location.ofText ("https://" ++ host ++ path) = .ok location ∧ location.host = host ∧
      ((∃ bare, Location.ofText path = .ok bare ∧ bare.path = location.path ∧
          bare.query = location.query) ↔
        Normal location.path.toList) := by
  obtain ⟨rest, begins, _⟩ := id rooted
  have cleaned : clean path.toList = '/' :: rest.filter (!isLineBreakOrTab ·) := by
    rw [begins, clean_cons rfl]
  have slash : path.toList.head? = some '/' := by rw [begins]; rfl
  have nonempty : (pathAndQuery (clean path.toList)).1 ≠ [] := by
    rw [cleaned, pathAndQuery_cons_slash]
    exact List.cons_ne_nil _ _
  have hosts : String.ofList (lowerHost host.toList) = host := by rw [lower, String.ofList_toList]
  refine ⟨_, ofText_https (by simp) name slash, hosts, ?_⟩
  rw [path_ofParts nonempty, normal_iff]
  by_cases single : IsRooted (clean path.toList)
  · rw [ofText_of_rooted rooted single]
    constructor
    · rintro ⟨bare, read, paths, _⟩
      cases read
      have texts := congrArg String.toList paths
      rw [path_ofParts (resolvePath_ne_nil _), path_ofParts nonempty] at texts
      exact ⟨single.pathAndQuery, texts⟩
    · rintro ⟨_, resolved⟩
      rw [resolved]
      exact ⟨_, rfl, rfl, rfl⟩
  · have second : (rest.filter (!isLineBreakOrTab ·)).head? = some '/' := by
      by_contra other
      exact single ⟨_, cleaned, other⟩
    obtain ⟨behind, slashes⟩ := List.head?_eq_some_iff.mp second
    rw [slashes] at cleaned
    refine iff_of_false ?_ ?_
    · rintro ⟨bare, read, paths, _⟩
      have texts := congrArg String.toList paths
      rw [path_ofParts nonempty, cleaned] at texts
      exact path_ne_of_slashes rooted cleaned read texts
    · rintro ⟨⟨_, whole, apart⟩, _⟩
      rw [cleaned, pathAndQuery_cons_slash, pathAndQuery_cons_slash] at whole
      cases whole
      exact apart rfl

/-- "/p/shoes?x=1" is read alike behind a host name and alone. -/
theorem shoes_alike :
    (∀ c ∈ "www.example.com".toList, isHostChar c = true) ∧
      lowerHost "www.example.com".toList = "www.example.com".toList ∧
      IsRooted "/p/shoes?x=1".toList ∧
      ∃ location, Location.ofText ("https://" ++ "www.example.com" ++ "/p/shoes?x=1") = .ok location ∧
        location.host = "www.example.com" ∧
        ((∃ bare, Location.ofText "/p/shoes?x=1" = .ok bare ∧ bare.path = location.path ∧
            bare.query = location.query) ↔
          Normal location.path.toList) := by
  have name : ∀ c ∈ "www.example.com".toList, isHostChar c = true := List.all_eq_true.mp rfl
  have lower : lowerHost "www.example.com".toList = "www.example.com".toList := by decide
  have rooted : IsRooted "/p/shoes?x=1".toList := ⟨_, rfl, by decide⟩
  exact ⟨name, lower, rooted, absolute_alike_iff name lower rooted⟩

/-- Behind a host name "/a/../b" keeps its dot segments, and alone it loses them. -/
theorem dots_apart :
    lowerHost "www.example.com".toList = "www.example.com".toList ∧ IsRooted "/a/../b".toList ∧
      Location.ofText "https://www.example.com/a/../b" = .ok ⟨"www.example.com", "/a/../b", ""⟩ ∧
      Location.ofText "/a/../b" = .ok ⟨"", "/b", ""⟩ :=
  ⟨by decide, ⟨_, rfl, by decide⟩, rfl, rfl⟩

end Signpost.Url
