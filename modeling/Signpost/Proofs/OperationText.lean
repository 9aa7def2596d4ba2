import Signpost.Proofs.Fields

/-!
# The text of operations

Operations are read from a text whose pieces stand between bars.

## Main result

`ofText_reads_and_restores`: a text is read as the parameters of the last piece of every name, in which
a key has its value or the list of its values (`Reads`), and operations that are written are read back.

## Proof strategy

Both readers go through their pieces once and put an entry in place at each. What holds of the pieces
read so far is said by `Reflects` for pairs and by `Reads` for whole pieces; one more piece keeps it
(`Reflects.addPair`, `reads_concat`), so it holds at the end. For the second part, a written piece is
one that adds its own entry at the end (`addPiece_writeOperation`).
-/
namespace Signpost.Operations

open Text (pieces cut join)

variable {parameters : Parameters} {operations : Operations} {segments : List (List Char)}
  {pairs : List (String × String)} {key name : String} {setting : Setting}

/-! ### What a text says -/

/-- The key and the value in a pair: what stands before and behind its first equals sign. -/
def pairOf (pair : List Char) : String × String :=
  (String.ofList (cut '=' pair).1, String.ofList (cut '=' pair).2)

/-- The pairs in the data of an operation; there is nothing in an empty one. -/
def pairsOf (data : List Char) : List (String × String) :=
  ((pieces '&' data).filter (!·.isEmpty)).map pairOf

/-- The values of a key, in order. -/
def valuesOf (pairs : List (String × String)) (key : String) : List String :=
  (pairs.filter (·.1 == key)).map (·.2)

/-- What a key is set to by its values: a single one is no list. -/
def settingOf : List String → Option Setting
  | [] => none
  | [value] => some (.one value)
  | values => some (.several values)

/-- The name of a piece: what stands before its first colon, without blanks at either end. -/
def nameOf (piece : List Char) : String :=
  String.ofList (Text.trim (cut ':' piece).1)

/-- The data of a piece: what stands behind its first colon. -/
def dataOf (piece : List Char) : List Char :=
  (cut ':' piece).2

/-- The parameters have the keys of the pairs, and each is set to its value or its values. -/
structure Reflects (parameters : Parameters) (pairs : List (String × String)) : Prop where
  distinct : (parameters.map (·.1)).Nodup
  settings : ∀ key, parameters.lookup key = settingOf (valuesOf pairs key)

/-- The last piece of a name. -/
def lastNamed (segments : List (List Char)) (name : String) : Option (List Char) :=
  (segments.filter (nameOf · == name)).getLast?

/-- The operations are those of the pieces: a name that is not empty has the parameters in the last
piece of that name, and no other name has any. -/
structure Reads (operations : Operations) (segments : List (List Char)) : Prop where
  distinct : (operations.map (·.1)).Nodup
  unnamed : operations.lookup "" = none
  absent : ∀ name, lastNamed segments name = none → operations.lookup name = none
  present : ∀ name piece, name ≠ "" → lastNamed segments name = some piece →
    ∃ parameters, operations.lookup name = some parameters ∧
      Reflects parameters (pairsOf (dataOf piece))

/-! ### Pairs -/

theorem valuesOf_concat (pairs : List (String × String)) (pair : String × String) (key : String) :
    valuesOf (pairs ++ [pair]) key =
      valuesOf pairs key ++ if pair.1 = key then [pair.2] else [] := by
  by_cases same : pair.1 = key
  · simp [valuesOf, same]
  · simp [valuesOf, same]

theorem settingOf_concat (values : List String) (value : String) :
    settingOf (values ++ [value]) =
      some (((settingOf values).map (·.push value)).getD (.one value)) := by
  cases values with
  | nil => rfl
  | cons first others => cases others <;> rfl

/-- A pair puts its key in place, with its value behind those that the key has. -/
theorem addPair_eq (parameters : Parameters) (pair : List Char) :
    addPair parameters pair = put parameters (pairOf pair).1
      (((parameters.lookup (pairOf pair).1).map (·.push (pairOf pair).2)).getD
        (.one (pairOf pair).2)) := by
  simp only [addPair, pairOf]
  cases parameters.lookup (String.ofList (cut '=' pair).1) <;> rfl

theorem Reflects.addPair (reflects : Reflects parameters pairs) (pair : List Char) :
    Reflects (addPair parameters pair) (pairs ++ [pairOf pair]) where
  distinct := by
    rw [addPair_eq]
    exact distinct_put reflects.distinct _ _
  settings := by
    intro key
    rw [addPair_eq, lookup_put, valuesOf_concat]
    by_cases same : key = (pairOf pair).1
    · subst same
      rw [if_pos rfl, if_pos rfl, settingOf_concat, reflects.settings]
    · rw [if_neg same, if_neg (Ne.symm same), List.append_nil, reflects.settings]

theorem Reflects.foldl_addPair (reflects : Reflects parameters pairs) (more : List (List Char)) :
    Reflects (more.foldl Operations.addPair parameters) (pairs ++ more.map pairOf) := by
  induction more generalizing parameters pairs with
  | nil => simpa using reflects
  | cons pair rest ih =>
    have behind := ih (reflects.addPair pair)
    rwa [List.append_assoc] at behind

theorem reflects_parameters (data : List Char) :
    Reflects (Operations.parameters data) (pairsOf data) := by
  have empty : Reflects [] [] := ⟨List.nodup_nil, fun _ => rfl⟩
  exact empty.foldl_addPair _

/-! ### Pieces -/

theorem addPiece_eq (operations : Operations) (piece : List Char) :
    addPiece operations piece =
      if nameOf piece = "" then operations
      else put operations (nameOf piece) (Operations.parameters (dataOf piece)) := by
  have unnamed : (Text.trim (cut ':' piece).1).isEmpty = true ↔ nameOf piece = "" := by
    rw [List.isEmpty_iff, nameOf, ← String.toList_inj, String.toList_ofList]
    rfl
  simp only [addPiece, unnamed]
  rfl

theorem lastNamed_cons (piece : List Char) (segments : List (List Char)) (name : String) :
    lastNamed (piece :: segments) name =
      (lastNamed segments name).or (if nameOf piece = name then some piece else none) := by
  rw [lastNamed, lastNamed]
  by_cases same : nameOf piece = name
  · rw [List.filter_cons_of_pos (by simpa using same), if_pos same, List.getLast?_cons]
    cases (segments.filter (nameOf · == name)).getLast? <;> rfl
  · rw [List.filter_cons_of_neg (by simpa using same), if_neg same, Option.or_none]

theorem lookup_addPiece (operations : Operations) (piece : List Char) (named : name ≠ "") :
    (addPiece operations piece).lookup name =
      if nameOf piece = name then some (Operations.parameters (dataOf piece))
      else operations.lookup name := by
  rw [addPiece_eq]
  by_cases unnamed : nameOf piece = ""
  · rw [if_pos unnamed, unnamed, if_neg (Ne.symm named)]
  · rw [if_neg unnamed, lookup_put]
    simp only [eq_comm]

theorem lookup_foldl_addPiece (operations : Operations) (segments : List (List Char))
    (named : name ≠ "") :
    (segments.foldl addPiece operations).lookup name =
      ((lastNamed segments name).map fun piece => Operations.parameters (dataOf piece)).or
        (operations.lookup name) := by
  induction segments generalizing operations with
  | nil => rfl
  | cons piece rest ih =>
    -- A later piece of the name wins over this one, and this one over what was there before.
    rw [List.foldl_cons, ih, lookup_addPiece operations piece named, lastNamed_cons]
    cases lastNamed rest name with
    | some later => rfl
    | none => split <;> rfl

theorem unnamed_foldl_addPiece (operations : Operations) (segments : List (List Char)) :
    (segments.foldl addPiece operations).lookup "" = operations.lookup "" := by
  induction segments generalizing operations with
  | nil => rfl
  | cons piece rest ih =>
    rw [List.foldl_cons, ih, addPiece_eq]
    split
    next => rfl
    next named => rw [lookup_put, if_neg (Ne.symm named)]

theorem distinct_foldl_addPiece (operations : Operations) (distinct : (operations.map (·.1)).Nodup)
    (segments : List (List Char)) : ((segments.foldl addPiece operations).map (·.1)).Nodup := by
  induction segments generalizing operations with
  | nil => exact distinct
  | cons piece rest ih =>
    apply ih
    rw [addPiece_eq]
    split
    · exact distinct
    · exact distinct_put distinct _ _

theorem reads_ofText (text : String) : Reads (ofText text) (pieces '|' text.toList) where
  distinct := distinct_foldl_addPiece [] List.nodup_nil _
  unnamed := unnamed_foldl_addPiece [] _
  absent := by
    intro name absent
    by_cases named : name = ""
    · rw [named]
      exact unnamed_foldl_addPiece [] _
    · rw [ofText, lookup_foldl_addPiece [] _ named, absent]
      rfl
  present := by
    intro name piece named last
    refine ⟨Operations.parameters (dataOf piece), ?_, reflects_parameters _⟩
    rw [ofText, lookup_foldl_addPiece [] _ named, last]
    rfl

/-! ### Operations that are written -/

/-- A pair of a key and a value. -/
def writePair (key value : String) : List Char :=
  key.toList ++ '=' :: value.toList

/-- Parameters as a text has them: every value of a key is a pair of its own. -/
def writeParameters (parameters : Parameters) : List Char :=
  join '&' (parameters.flatMap fun parameter => parameter.2.values.map (writePair parameter.1))

/-- An operation as a text has it: the name alone if there are no parameters. -/
def writeOperation (operation : String × Parameters) : List Char :=
  operation.1.toList ++ if operation.2.isEmpty then [] else ':' :: writeParameters operation.2

/-- The text of operations. -/
def write (operations : Operations) : String :=
  String.ofList (join '|' (operations.map writeOperation))

/-- A parameter that can be written: its texts hold no sign that would end them, and a list of values
has two at least. -/
structure IsParameter (parameter : String × Setting) : Prop where
  key : '|' ∉ parameter.1.toList ∧ '&' ∉ parameter.1.toList ∧ '=' ∉ parameter.1.toList
  values : ∀ value ∈ parameter.2.values, '|' ∉ value.toList ∧ '&' ∉ value.toList
  several : ∀ values, parameter.2 = .several values → 2 ≤ values.length

/-- An operation that can be written: its name is not empty, has no blanks at its ends and no sign that
would end it. -/
structure IsOperation (operation : String × Parameters) : Prop where
  named : operation.1 ≠ ""
  stripped : Text.strip operation.1 = operation.1
  bare : '|' ∉ operation.1.toList ∧ ':' ∉ operation.1.toList
  distinct : (operation.2.map (·.1)).Nodup
  parameters : ∀ parameter ∈ operation.2, IsParameter parameter

theorem addPair_writePair (parameters : Parameters) (bare : '=' ∉ key.toList) (value : String) :
    addPair parameters (writePair key value) =
      put parameters key (((parameters.lookup key).map (·.push value)).getD (.one value)) := by
  have read : pairOf (writePair key value) = (key, value) := by
    rw [pairOf, writePair, Text.cut_append bare, String.ofList_toList, String.ofList_toList]
  rw [addPair_eq, read]

/-- More values of the last key are put behind its own. -/
theorem foldl_addPair_more (new : key ∉ parameters.map (·.1)) (bare : '=' ∉ key.toList)
    (setting : Setting) (more : List String) :
    (more.map (writePair key)).foldl addPair (parameters ++ [(key, setting)]) =
      parameters ++ [(key, more.foldl Setting.push setting)] := by
  induction more generalizing setting with
  | nil => rfl
  | cons value rest ih =>
    have known : (parameters ++ [(key, setting)]).lookup key = some setting := by
      rw [List.lookup_append, lookup_of_absent new, Option.none_or, lookup_cons_eq_ite, if_pos rfl]
    have step : addPair (parameters ++ [(key, setting)]) (writePair key value) =
        parameters ++ [(key, setting.push value)] := by
      rw [addPair_writePair _ bare, known]
      exact put_concat new setting _
    rw [List.map_cons, List.foldl_cons, step, ih]
    rfl

theorem foldl_push_several (values more : List String) :
    more.foldl Setting.push (.several values) = .several (values ++ more) := by
  induction more generalizing values with
  | nil => rw [List.append_nil, List.foldl_nil]
  | cons value rest ih =>
    rw [List.foldl_cons]
    refine (ih (values ++ [value])).trans ?_
    rw [List.append_assoc, List.singleton_append]

/-- The pairs of a parameter put it at the end of parameters that do not have its key. -/
theorem foldl_addPair_parameter (new : key ∉ parameters.map (·.1))
    (writable : IsParameter (key, setting)) :
    (setting.values.map (writePair key)).foldl addPair parameters = parameters ++ [(key, setting)] := by
  have first (value : String) : addPair parameters (writePair key value) =
      parameters ++ [(key, .one value)] := by
    rw [addPair_writePair _ writable.key.2.2, lookup_of_absent new]
    exact put_of_new new _
  cases setting with
  | one value => exact first value
  | several values =>
    have two := writable.several values rfl
    match values with
    | [] => simp at two
    | [_] => simp at two
    | value :: second :: rest =>
      -- The first value makes a setting of its own, and the second one a list of it.
      rw [Setting.values, List.map_cons, List.foldl_cons, first,
        foldl_addPair_more new writable.key.2.2, List.foldl_cons]
      refine congrArg (fun setting => parameters ++ [(key, setting)]) ?_
      exact foldl_push_several [value, second] rest

theorem parameters_join {parts : List (List Char)} (bare : ∀ part ∈ parts, '&' ∉ part)
    (nonempty : ∀ part ∈ parts, part ≠ []) :
    Operations.parameters (join '&' parts) = parts.foldl addPair [] := by
  cases parts with
  | nil => rfl
  | cons part rest =>
    have kept : (part :: rest).filter (!·.isEmpty) = part :: rest :=
      List.filter_eq_self.mpr fun other member => by simpa using nonempty other member
    rw [Operations.parameters, Text.pieces_join (List.cons_ne_nil _ _) bare, kept]

/-- A written pair is not empty, and no sign ends it early. -/
theorem bare_of_written (writable : ∀ parameter ∈ parameters, IsParameter parameter)
    {part : List Char} (member : part ∈ parameters.flatMap fun parameter =>
      parameter.2.values.map (writePair parameter.1)) :
    '|' ∉ part ∧ '&' ∉ part ∧ part ≠ [] := by
  obtain ⟨parameter, among, written⟩ := List.mem_flatMap.mp member
  obtain ⟨value, given, rfl⟩ := List.mem_map.mp written
  have each := writable parameter among
  simp [writePair, each.key, each.values value given]

theorem parameters_writeParameters (distinct : (parameters.map (·.1)).Nodup)
    (writable : ∀ parameter ∈ parameters, IsParameter parameter) :
    Operations.parameters (writeParameters parameters) = parameters := by
  rw [writeParameters, parameters_join]
  · rw [List.foldl_flatMap]
    apply foldl_of_appends [] parameters distinct
    intro parameter member before new
    exact foldl_addPair_parameter new (writable parameter member)
  · intro part member
    exact (bare_of_written writable member).2.1
  · intro part member
    exact (bare_of_written writable member).2.2

theorem bar_not_mem_writeOperation {operation : String × Parameters}
    (writable : IsOperation operation) : '|' ∉ writeOperation operation := by
  have inside : '|' ∉ writeParameters operation.2 := by
    intro member
    rcases Text.mem_join member with separator | ⟨part, among, within⟩
    · cases separator
    · exact (bare_of_written writable.parameters among).1 within
  unfold writeOperation
  split
  · simpa using writable.bare.1
  · simpa using ⟨writable.bare.1, inside⟩

theorem nameOf_writeOperation {operation : String × Parameters} (writable : IsOperation operation) :
    nameOf (writeOperation operation) = operation.1 := by
  have front : (cut ':' (writeOperation operation)).1 = operation.1.toList := by
    unfold writeOperation
    split
    · rw [List.append_nil, Text.cut_of_absent writable.bare.2]
    · rw [Text.cut_append writable.bare.2]
  rw [nameOf, front]
  exact writable.stripped

theorem parameters_writeOperation {operation : String × Parameters}
    (writable : IsOperation operation) :
    Operations.parameters (dataOf (writeOperation operation)) = operation.2 := by
  unfold dataOf writeOperation
  split
  next none =>
    rw [List.append_nil, Text.cut_of_absent writable.bare.2, List.isEmpty_iff.mp none]
    rfl
  next =>
    rw [Text.cut_append writable.bare.2]
    exact parameters_writeParameters writable.distinct writable.parameters

theorem addPiece_writeOperation {operation : String × Parameters}
    (writable : IsOperation operation) (new : operation.1 ∉ operations.map (·.1)) :
    addPiece operations (writeOperation operation) = operations ++ [operation] := by
  rw [addPiece_eq, nameOf_writeOperation writable, if_neg writable.named,
    parameters_writeOperation writable]
  exact put_of_new new _

theorem ofText_write (distinct : (operations.map (·.1)).Nodup)
    (writable : ∀ operation ∈ operations, IsOperation operation) :
    ofText (write operations) = operations := by
  cases operations with
  | nil => rfl
  | cons operation rest =>
    have bare : ∀ piece ∈ (operation :: rest).map writeOperation, '|' ∉ piece := by
      intro piece member
      obtain ⟨written, among, rfl⟩ := List.mem_map.mp member
      exact bar_not_mem_writeOperation (writable written among)
    rw [ofText, write, String.toList_ofList, Text.pieces_join (by simp) bare, List.foldl_map]
    -- The names differ, so that every piece adds its operation at the end.
    apply foldl_of_appends [] _ distinct
    intro written among before new
    exact addPiece_writeOperation (writable written among) new

/-- A text is read as the operations of its pieces, and operations that can be written come back from
the text that is written of them. -/
theorem ofText_reads_and_restores :
    (∀ text, Reads (ofText text) (pieces '|' text.toList)) ∧
      ∀ operations : Operations, (operations.map (·.1)).Nodup →
        (∀ operation ∈ operations, IsOperation operation) →
        ofText (write operations) = operations :=
  ⟨reads_ofText, fun _ => ofText_write⟩

/-- Blanks around a name, a name that comes twice, a key that comes three times and pairs without a
sign are read, and a list, an empty key and an operation without parameters come back. -/
theorem ofText_reads_and_restores_of_tags :
    let text := " qs\t:a=1|tag|qs: x=1&x=2&&y&x==3|:z=0"
    let operations : Operations :=
      [("qs", [("filter", .several ["a", "b=c"]), ("", .one "")]), ("tag", [])]
    Reads (ofText text) (pieces '|' text.toList) ∧ (operations.map (·.1)).Nodup ∧
      (∀ operation ∈ operations, IsOperation operation) ∧
      write operations = "qs:filter=a&filter=b=c&=|tag" ∧
      ofText (write operations) = operations := by
  intro text operations
  have filter : IsParameter ("filter", .several ["a", "b=c"]) := by
    refine ⟨by decide, by decide, ?_⟩
    intro values same
    cases same
    decide
  have empty : IsParameter ("", .one "") :=
    ⟨by decide, by decide, fun _ same => nomatch same⟩
  have writable : ∀ operation ∈ operations, IsOperation operation := by
    intro operation member
    simp only [operations, List.mem_cons, List.not_mem_nil, or_false] at member
    rcases member with rfl | rfl
    · refine ⟨by decide, by decide, by decide, by decide, ?_⟩
      intro parameter listed
      simp only [List.mem_cons, List.not_mem_nil, or_false] at listed
      rcases listed with rfl | rfl
      · exact filter
      · exact empty
    · exact ⟨by decide, by decide, by decide, by decide, fun _ listed => nomatch listed⟩
  have distinct : (operations.map (·.1)).Nodup := by decide
  exact ⟨ofText_reads_and_restores.1 text, distinct, writable, by decide,
    ofText_reads_and_restores.2 operations distinct writable⟩

end Signpost.Operations
