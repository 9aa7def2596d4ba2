import Signpost.Http.Service
import Signpost.Proofs.Body
import Signpost.Proofs.Keeping

/-!
# Rules that are read and written back

A service shows a rule with its public names, without the values that are absent, and it takes a rule in
the same form in the place of the one that it shows.

## Main result

`rule_written_back`: to send back what is shown changes nothing, and what else is sent is shown from then
on, with the id of its place, while the other rules and their order stay as they are. Tables turn away a
rule with a text that is none of characters (`rule_not_written_at_surrogate`). The ids of the supply can
stand in the path of a request (`addressable_fresh`).

## Proof strategy

A field whose value is absent has a default that is absent, so a rule is read back from what is shown of
it (`ofValue_toPublic`), and from the bytes of that (`readDocument_shown`). To be sent, the integers of a
rule have to be short: those of a rule that was sent are (`isShort_of_ofFields`). Where ids come twice,
which only memory allows, both calls look for the first rule with the id (`rule?_of_first`,
`updateRule_of_first`); a request only passes them on.
-/
namespace Signpost

open Store

/-! ### What is shown of a rule -/

/-- The value, if it is not null. -/
def Value.present : Value → Option Value
  | .null => none
  | value => some value

theorem lookup_withoutNulls {fields : List (String × Value)} (distinct : (fields.map (·.1)).Nodup)
    (name : String) : (withoutNulls fields).lookup name = (fields.lookup name).bind Value.present := by
  induction fields with
  | nil => rfl
  | cons field rest ih =>
    obtain ⟨other, value⟩ := field
    rw [List.map_cons, List.nodup_cons] at distinct
    have behind := ih distinct.2
    rw [lookup_cons_eq_ite]
    by_cases same : name = other
    · subst same
      rw [if_pos rfl, Option.bind_some]
      -- Without the field there is none of its name, since no other field has it.
      have absent : rest.lookup name = none := lookup_of_absent distinct.1
      rw [absent] at behind
      cases value with
      | null => exact behind
      | bool | int | real | text | unpaired | list | object =>
        rw [withoutNulls, List.filter_cons_of_pos rfl, lookup_cons_eq_ite, if_pos rfl]
        rfl
    · rw [if_neg same, ← behind]
      cases value with
      | null => rfl
      | bool | int | real | text | unpaired | list | object =>
        rw [withoutNulls, List.filter_cons_of_pos rfl, lookup_cons_eq_ite, if_neg same]
        rfl

namespace Schema

variable {name other : String} {fields : List (String × Value)} {value : Value} {default x : α}
  {reader : Reader α}

theorem find?_of_lookup (here : fields.lookup name = some value) :
    FieldName.find? ⟨name, other⟩ fields = some (name, value) := by
  rw [FieldName.find?, here]

theorem required_eq (here : fields.lookup name = some value) (read : reader value = .ok x) :
    required ⟨name, other⟩ reader fields = .ok x := by
  simp only [required, find?_of_lookup here, readAt, read]

/-- Where a value may be absent, it is read as what has been shown of it. -/
theorem optional_shown {f : α → Value} (value : Option α)
    (shown : fields.lookup name = (Value.ofOption f value).present)
    (unnamed : fields.lookup other = none ∨ other = name) (solid : ∀ x, (f x).present = some (f x))
    (reads : ∀ x, nullable reader (f x) = .ok (some x)) :
    Schema.optional ⟨name, other⟩ none (nullable reader) fields = .ok value := by
  cases value with
  | none =>
    have nowhere : fields.lookup other = none := by
      rcases unnamed with absent | rfl
      · exact absent
      · exact shown
    have missing : fields.lookup name = none := shown
    simp [Schema.optional, FieldName.find?, missing, nowhere]
  | some x =>
    have here : fields.lookup name = some (f x) := shown.trans (solid x)
    exact optional_eq (find?_of_lookup here) (reads x)

end Schema

namespace Rule

open Schema

/-- A rule is read from what is shown of it. -/
theorem ofValue_toPublic (rule : Rule) : Rule.ofValue rule.toPublic = .ok rule := by
  have distinct : (rule.publicFields.map (·.1)).Nodup := by
    have names : rule.publicFields.map (·.1) = publicNames := rfl
    rw [names]
    decide
  have shown := lookup_withoutNulls distinct
  have text (s : String) : Schema.text (.text s) = .ok s := rfl
  have integer (n : Int) : Schema.integer (.int n) = .ok n := rfl
  have read : Rule.ofFields (withoutNulls rule.publicFields) = .ok rule := by
    refine ofFields_eq rule ?_ (required_eq (shown "path") (text _))
      (optional_eq (find?_of_lookup (shown "host")) (text _))
      (optional_eq (find?_of_lookup (shown "version")) (integer _))
      (required_eq (shown "redirectURL") (text _))
      (optional_eq (find?_of_lookup (shown "statusCode")) (integer _)) ?_ ?_ ?_
      (optional_eq (find?_of_lookup (shown "regex")) rfl) ?_
    · exact optional_shown rule.id (shown "id") (Or.inr rfl) (fun _ => rfl) fun _ => rfl
    · exact optional_shown rule.start (shown "utcStartTime") (Or.inl (shown "utc_start_time"))
        (fun _ => rfl) fun _ => rfl
    · exact optional_shown rule.stop (shown "utcEndTime") (Or.inl (shown "utc_end_time"))
        (fun _ => rfl) fun _ => rfl
    · exact optional_shown rule.operations (shown "operations") (Or.inr rfl) (fun _ => rfl)
        fun _ => rfl
    · exact optional_shown rule.lastAccessed (shown "lastAccessed") (Or.inl (shown "last_accessed"))
        (fun _ => rfl) fun _ => rfl
  exact read

end Rule

/-- The integers of the rule are short enough to be sent. -/
def Rule.IsShort (rule : Rule) : Prop :=
  ∀ n ∈ rule.integers, Schema.IsShort n

namespace Rule

open Schema

variable {rule : Rule}

/-- The values of a rule with short integers can be sent and read back, and none stands in another. -/
theorem regular_values (short : rule.IsShort) :
    ∀ value ∈ rule.values, Json.isRegular value = true ∧ Json.isSendable value = true ∧
      Json.nesting value = 0 := by
  have integer {n : Int} (member : n ∈ rule.integers) : Json.isRegular (.int n) = true ∧
      Json.isSendable (.int n) = true ∧ Json.nesting (.int n) = 0 := by
    rw [Json.isRegular, Json.isSendable]
    exact ⟨decide_eq_true (short n member), decide_eq_true (short n member), rfl⟩
  have bound (value : Option Int) (within : ∀ n, value = some n → n ∈ rule.integers) :
      Json.isRegular (.ofOption .int value) = true ∧ Json.isSendable (.ofOption .int value) = true ∧
        Json.nesting (.ofOption .int value) = 0 := by
    cases value with
    | none => exact ⟨rfl, rfl, rfl⟩
    | some n => exact integer (within n rfl)
  have text (value : Option String) : Json.isRegular (.ofOption .text value) = true ∧
      Json.isSendable (.ofOption .text value) = true ∧
        Json.nesting (.ofOption .text value) = 0 := by
    cases value <;> exact ⟨rfl, rfl, rfl⟩
  simp only [values, List.forall_mem_cons]
  refine ⟨text _, ⟨rfl, rfl, rfl⟩, ⟨rfl, rfl, rfl⟩, integer ?_, ⟨rfl, rfl, rfl⟩, integer ?_,
    bound _ ?_, bound _ ?_, text _, ⟨rfl, rfl, rfl⟩, bound _ ?_, List.forall_mem_nil _⟩
  all_goals simp [integers]
  all_goals
    rintro n same
    simp [same]

theorem mem_values_of_shown {field : String × Value} (member : field ∈ withoutNulls rule.publicFields) :
    field.2 ∈ rule.values :=
  (List.of_mem_zip (List.mem_of_mem_filter member)).2

/-- What is shown of a rule with short integers can be sent. -/
theorem isSendable_toPublic (short : rule.IsShort) : Json.isSendable rule.toPublic = true :=
  Json.fieldsAreSendable_of_forall fun _ member =>
    (regular_values short _ (mem_values_of_shown member)).2.1

/-- What is shown of a rule with short integers is read back from its bytes. -/
theorem readDocument_shown [Platform] {request : Http.Request} (short : rule.IsShort)
    (declared : Http.isJsonType (request.header? "content-type") = true)
    (sent : request.body = (Http.Body.json rule.toPublic).bytes) :
    Http.readDocument request = .ok (.value rule.toPublic) := by
  have named : rule.publicFields.map (·.1) = publicNames := rfl
  have distinct : ((withoutNulls rule.publicFields).map (·.1)).Nodup := by
    have all : (rule.publicFields.map (·.1)).Nodup := by
      rw [named]
      decide
    exact all.sublist (List.filter_sublist.map _)
  have some : withoutNulls rule.publicFields ≠ [] := by
    have path : ("path", Value.text rule.path) ∈ withoutNulls rule.publicFields :=
      List.mem_filter.mpr ⟨.tail _ (.head _), rfl⟩
    exact List.ne_nil_of_mem path
  have regular : Json.isRegular rule.toPublic = true :=
    Json.fieldsAreRegular_of_forall distinct fun _ member =>
      (regular_values short _ (mem_values_of_shown member)).1
  have flat : Json.nesting rule.toPublic ≤ 1 :=
    Nat.succ_le_succ (Json.nestingOfFields_le fun _ member =>
      (regular_values short _ (mem_values_of_shown member)).2.2.le)
  have shallow : Json.nesting rule.toPublic ≤ Platform.documentDepth :=
    flat.trans ((by decide : 1 ≤ 3).trans Platform.takes_rows)
  exact Http.readDocument_sent some regular shallow declared sent

/-- An integer with a default is short, where a value that gives one has a text. -/
theorem isShort_of_optional {fields : List (String × Value)} {room : Nat}
    (shown : ∀ field ∈ fields, field.2.unshown? room = none) {field : FieldName} {default n : Int}
    (small : default.natAbs ≤ Number.powerOfTwo 63)
    (read : Schema.optional field default integer fields = .ok n) : Schema.IsShort n := by
  rcases exists_of_optional read with rfl | ⟨entry, member, found⟩
  · exact isShort_of_le small
  · exact isShort_of_integer (shown entry member) found

theorem isShort_of_nullable {fields : List (String × Value)} {room : Nat}
    (shown : ∀ field ∈ fields, field.2.unshown? room = none) {field : FieldName} {value : Option Int}
    (read : Schema.optional field none (nullable integer) fields = .ok value) :
    ∀ n ∈ value.toList, Schema.IsShort n := by
  rcases exists_of_optional read with rfl | ⟨entry, member, found⟩
  · exact fun _ none => nomatch none
  · unfold nullable at found
    split at found
    · cases found
      exact fun _ none => nomatch none
    · cases taken : integer entry.2 with
      | error kind => simp [taken, Except.map] at found
      | ok n =>
        rw [taken] at found
        cases found
        intro m same
        rw [List.mem_singleton.mp same]
        exact isShort_of_integer (shown entry member) taken

/-- A rule that is read from fields with texts has short integers. -/
theorem isShort_of_ofFields {fields : List (String × Value)} {room : Nat}
    (read : Rule.ofFields fields = .ok rule)
    (shown : ∀ field ∈ fields, field.2.unshown? room = none) : rule.IsShort := by
  -- The fields are read one behind the other; they are taken off from the last.
  obtain ⟨_, _, read, lastAccessed, _⟩ := ap_eq_ok read
  obtain ⟨_, _, read, -, _⟩ := ap_eq_ok read
  obtain ⟨_, _, read, -, _⟩ := ap_eq_ok read
  obtain ⟨_, _, read, stop, _⟩ := ap_eq_ok read
  obtain ⟨_, _, read, start, _⟩ := ap_eq_ok read
  obtain ⟨_, _, read, status, _⟩ := ap_eq_ok read
  obtain ⟨_, _, read, -, _⟩ := ap_eq_ok read
  obtain ⟨_, _, read, version, _⟩ := ap_eq_ok read
  obtain ⟨_, _, read, -, _⟩ := ap_eq_ok read
  obtain ⟨_, _, read, -, _⟩ := ap_eq_ok read
  obtain ⟨_, _, made, -, _⟩ := ap_eq_ok read
  cases made
  subst_vars
  simp only [IsShort, integers, List.forall_mem_cons, List.forall_mem_append]
  exact ⟨isShort_of_optional shown (by decide) version, isShort_of_optional shown (by decide) status,
    ⟨isShort_of_nullable shown start, isShort_of_nullable shown stop⟩,
    isShort_of_nullable shown lastAccessed⟩

/-- Where tables have room for the integers of a rule, these are short. -/
theorem isShort_of_hasRoom {path : String} {file : DatabaseFile}
    (room : rule.integers.all (Stores.tables path file).hasRoom = true) : rule.IsShort := by
  intro n member
  have fit := List.all_eq_true.mp room n member
  simp only [Stores.hasRoom, Sql.fits, Bool.and_eq_true, decide_eq_true_eq] at fit
  exact isShort_of_le (by omega)

end Rule

/-! ### The first rule with an id -/

section

variable {rules front back : List Rule} {old rule : Rule} {id : String}

theorem exists_first (present : ∃ rule ∈ rules, rule.id = some id) :
    ∃ front old back, rules = front ++ old :: back ∧ old.id = some id ∧
      ∀ other ∈ front, other.id ≠ some id := by
  obtain ⟨rule, member, named⟩ := present
  have found : (rules.find? (·.id = some id)).isSome = true := by
    rw [List.find?_isSome]
    exact ⟨rule, member, by simpa using named⟩
  obtain ⟨old, here⟩ := Option.isSome_iff_exists.mp found
  obtain ⟨same, front, back, split, before⟩ := List.find?_eq_some_iff_append.mp here
  refine ⟨front, old, back, split, by simpa using same, fun other earlier => ?_⟩
  simpa using before other earlier

theorem replaceFirst_of_first {change : Rule → Rule} (named : old.id = some id)
    (first : ∀ other ∈ front, other.id ≠ some id) :
    replaceFirst (some id) change (front ++ old :: back) = some (front ++ change old :: back) := by
  induction front with
  | nil => rw [List.nil_append, replaceFirst, if_pos named, List.nil_append]
  | cons other front ih =>
    obtain ⟨differs, others⟩ := List.forall_mem_cons.mp first
    rw [List.cons_append, replaceFirst, if_neg differs, ih others]
    rfl

theorem map_inPlaceOf (distinct : ((front ++ old :: back).map (·.id)).Nodup)
    (named : old.id = some id) (taken : rule.id = some id) :
    (front ++ old :: back).map rule.inPlaceOf = front ++ rule :: back := by
  rw [List.map_append, List.map_cons, List.nodup_middle, List.nodup_cons, ← List.map_append]
    at distinct
  -- No two rules have one id, so no other rule is replaced.
  have kept : ∀ other ∈ front ++ back, rule.inPlaceOf other = other := by
    intro other member
    refine if_neg fun same : other.id = rule.id => distinct.1 ?_
    rw [named, ← taken, ← same]
    exact List.mem_map_of_mem member
  have before : front.map rule.inPlaceOf = front :=
    (List.map_congr_left fun other member => kept other (List.mem_append_left _ member)).trans
      (List.map_id' front)
  have behind : back.map rule.inPlaceOf = back :=
    (List.map_congr_left fun other member => kept other (List.mem_append_right _ member)).trans
      (List.map_id' back)
  have placed : rule.inPlaceOf old = rule := if_pos (named.trans taken.symm)
  rw [List.map_append, List.map_cons, before, behind, placed]

theorem satisfies_id (rule : Rule) (id : String) :
    satisfies [.one (.equals "id" (.text id))] rule.attributes = decide (rule.id = some id) := by
  have has : rule.attributes.lookup "id" = some (.ofOption .text rule.id) := rfl
  simp only [satisfies, recordMatches, Criterion.holds, Condition.holds, Condition.equals, has,
    Test.holds]
  cases rule.id with
  | none => rfl
  | some other =>
    simp only [Value.ofOption, Value.same]
    cases same : other == id <;> simp_all

end

namespace Stores

variable {stores : Stores} {contents : Contents} {front back : List Rule} {old rule : Rule}
  {id : String}

theorem rule?_of_first (held : stores.Holds contents) (split : contents.rules = front ++ old :: back)
    (named : old.id = some id) (first : ∀ other ∈ front, other.id ≠ some id) :
    stores.rule? (.text id) = .ok (some old) := by
  have suits : ∀ criterion ∈ [Criterion.one (.equals "id" (.text id))],
      criterion.suits ruleColumns = true := by
    intro criterion member
    cases List.mem_singleton.mp member
    rfl
  -- The id is bound as it is, so that tables are searched like memory.
  have searched := searchRules_eq_filter held suits rfl (by simp [Sql.sizeOfAll, Sql.Clause.size]) rfl
  simp only [satisfies_id] at searched
  have passed : front.filter (fun rule => decide (rule.id = some id)) = [] := by
    rw [List.filter_eq_nil_iff]
    intro other member
    simpa using first other member
  rw [rule?, searched, split, List.filter_append, passed, List.nil_append,
    List.filter_cons_of_pos (by simpa using named)]
  rfl

/-- A rule takes the place of the first one with its id, if the stores have room for its integers. -/
theorem updateRule_of_first (held : stores.Holds contents)
    (split : contents.rules = front ++ old :: back) (named : old.id = some id)
    (first : ∀ other ∈ front, other.id ≠ some id)
    (keyed : ∀ path file, stores = .tables path file → (contents.rules.map (·.id)).Nodup)
    (taken : rule.id = some id) (room : rule.integers.all stores.hasRoom = true) :
    ∃ after, stores.updateRule rule = .ok after ∧
      after.Holds { contents with rules := front ++ rule :: back } := by
  cases stores with
  | memory m =>
    cases held
    have rules : m.rules = front ++ old :: back := split
    have replaced : replaceFirst (some id) (fun _ => rule) m.rules = some (front ++ rule :: back) := by
      rw [rules]
      exact replaceFirst_of_first named first
    simp only [updateRule, Memory.updateRule, taken, replaced]
    exact ⟨_, rfl, .memory _⟩
  | tables path file =>
    have distinct := keyed path file rfl
    have known : contents.rules.any (·.id = some id) = true := by
      rw [split]
      simp [named]
    obtain ⟨after, updated, holds⟩ := updateRule_of_known held distinct taken room known
    rw [split] at distinct holds
    rw [map_inPlaceOf distinct named taken] at holds
    exact ⟨after, updated, holds⟩

end Stores

/-! ### Requests -/

namespace Http

variable {session : Session} {contents : Contents} {front back : List Rule} {old rule : Rule}
  {id : String} {request : Request}

/-- The request is made with the method, on the rule with the id. -/
structure Asks (request : Request) (method id : String) : Prop where
  method : String.ofList (request.method.toList.map Char.toUpper) = method
  path : request.path = "/rule/" ++ id

/-- The id can stand in a path. -/
structure Addressable (id : String) : Prop where
  filled : id ≠ ""
  whole : '/' ∉ id.toList

theorem isAsciiDigit_of_mem_digitsOnto {fuel n : Nat} {onto : List Char} {c : Char}
    (digits : ∀ c ∈ onto, Text.isAsciiDigit c = true) (member : c ∈ Number.digitsOnto fuel n onto) :
    Text.isAsciiDigit c = true := by
  have single : ∀ digit < 10, Text.isAsciiDigit (Number.digitChar digit) = true := by decide
  induction fuel generalizing n onto with
  | zero => exact digits c member
  | succ fuel ih =>
    rw [Number.digitsOnto] at member
    split_ifs at member with last
    · rcases List.mem_cons.mp member with rfl | later
      · exact single n last
      · exact digits c later
    · refine ih (fun d front => ?_) member
      rcases List.mem_cons.mp front with rfl | later
      · exact single _ (Nat.mod_lt n (by decide))
      · exact digits d later

/-- The ids of the supply can stand in a path. -/
theorem addressable_fresh (base : RuleBase) : Addressable (RuleBase.nextId.fresh base).2 := by
  have chars : (RuleBase.nextId.fresh base).2.toList =
      ['i', 'd', '-'] ++ Number.naturalDigits (base.issued + 1) := by
    simp only [RuleBase.nextId.fresh, String.toList_append, Number.decimal, Int.natAbs_natCast]
    rw [if_neg (by omega), @String.toList_ofList (Number.naturalDigits _)]
    rfl
  constructor
  · intro empty
    rw [empty] at chars
    cases chars
  · rw [chars, List.mem_append, not_or]
    refine ⟨by decide, fun slash => ?_⟩
    have digit : Text.isAsciiDigit '/' = true :=
      isAsciiDigit_of_mem_digitsOnto (List.forall_mem_nil _) slash
    exact absurd digit (by decide)

theorem ofFixedPath_rule {cs : List Char} (filled : cs ≠ []) :
    Endpoint.ofFixedPath (['/', 'r', 'u', 'l', 'e', '/'] ++ cs) = none := by
  -- A line feed at the end is one of the id, so the front of the path stays.
  obtain ⟨more, whole⟩ : ∃ more, withoutLastBreak (['/', 'r', 'u', 'l', 'e', '/'] ++ cs) =
      ['/', 'r', 'u', 'l', 'e', '/'] ++ more := by
    unfold withoutLastBreak
    split
    · exact ⟨cs.dropLast, List.dropLast_append_of_ne_nil filled⟩
    · exact ⟨cs, rfl⟩
  have others : ∀ entry ∈ fixedEndpoints, entry.1.toList.take 6 ≠ ['/', 'r', 'u', 'l', 'e', '/'] := by
    decide
  have none : fixedEndpoints.find? (fun entry => entry.1.toList ==
      withoutLastBreak (['/', 'r', 'u', 'l', 'e', '/'] ++ cs)) = none := by
    rw [List.find?_eq_none, whole]
    intro entry member same
    apply others entry member
    rw [beq_iff_eq.mp same]
    rfl
  rw [Endpoint.ofFixedPath, none]
  rfl

theorem ofPath_rule (addressable : Addressable id) :
    Endpoint.ofPath ("/rule/" ++ id).toList = some (.rule id) := by
  have chars : ("/rule/" ++ id).toList = ['/', 'r', 'u', 'l', 'e', '/'] ++ id.toList := by
    rw [String.toList_append]
    rfl
  have filled : id.toList ≠ [] := fun empty => addressable.filled (String.toList_eq_nil_iff.mp empty)
  have rest : after? "/rule/" (['/', 'r', 'u', 'l', 'e', '/'] ++ id.toList) = some id.toList := rfl
  have unchecked : Endpoint.ofCheckedPath (['/', 'r', 'u', 'l', 'e', '/'] ++ id.toList) = none := rfl
  have one : Endpoint.ofRulePath (['/', 'r', 'u', 'l', 'e', '/'] ++ id.toList) = some (.rule id) := by
    have whole : id.toList.contains '/' = false := by simpa using addressable.whole
    simp only [Endpoint.ofRulePath, rest, Bind.bind, Option.bind, whole, Bool.or_false,
      String.ofList_toList]
    rw [if_neg (by simpa using filled)]
  rw [chars, Endpoint.ofPath, ofFixedPath_rule filled, unchecked, one]
  rfl

section

variable [Platform]

theorem respond_get (asks : Asks request "GET" id) (addressable : Addressable id) :
    respond session request = showRule session id := by
  have route : Route.of "GET" request.path.toList = .found (.rule id) := by
    rw [asks.path, Route.of, ofPath_rule addressable]
    rfl
  simp only [respond, asks.method, route]
  rfl

theorem respond_put (asks : Asks request "PUT" id) (addressable : Addressable id) :
    respond session request = replaceRule session request id := by
  have route : Route.of "PUT" request.path.toList = .found (.rule id) := by
    rw [asks.path, Route.of, ofPath_rule addressable]
    rfl
  simp only [respond, asks.method, route]
  rfl

omit [Platform] in
theorem get_of_first (reads : session.base.allow .get = .ok ())
    (held : session.base.stores.Holds contents) (split : contents.rules = front ++ old :: back)
    (named : old.id = some id) (first : ∀ other ∈ front, other.id ≠ some id) :
    session.base.get (.text id) = .ok (some old) := by
  rw [RuleBase.get, reads]
  exact Stores.rule?_of_first held split named first

omit [Platform] in
theorem showRule_of_first (reads : session.base.allow .get = .ok ())
    (held : session.base.stores.Holds contents) (split : contents.rules = front ++ old :: back)
    (named : old.id = some id) (first : ∀ other ∈ front, other.id ≠ some id) (short : old.IsShort) :
    showRule session id = (session, ⟨200, .json old.toPublic⟩) := by
  have found := get_of_first reads held split named first
  rw [showRule, found]
  simp only [asked, Response.ofCall, Response.json, Rule.isSendable_toPublic short, if_true]

theorem replaceRule_of_first (reads : session.base.allow .get = .ok ())
    (writes : session.base.allow .update = .ok ()) (held : session.base.stores.Holds contents)
    (split : contents.rules = front ++ old :: back) (named : old.id = some id)
    (first : ∀ other ∈ front, other.id ≠ some id)
    (keyed : ∀ path file, session.base.stores = .tables path file →
      (contents.rules.map (·.id)).Nodup)
    (read : readBody request Rule.ofValue = .ok rule)
    (room : rule.integers.all session.base.stores.hasRoom = true) :
    ∃ after, replaceRule session request id =
        ({ session with base := { session.base with stores := after } }, .empty 204) ∧
      after.Holds { contents with rules := front ++ { rule with id := some id } :: back } := by
  have found := get_of_first reads held split named first
  obtain ⟨after, updated, holds⟩ :=
    @Stores.updateRule_of_first _ _ _ _ _ { rule with id := some id } _ held split named first keyed rfl
      room
  have placed : session.base.update { rule with id := some id } =
      ({ session.base with stores := after }, .ok { rule with id := some id }) := by
    rw [RuleBase.update, writes]
    simp only [Bind.bind, Except.bind, updated, RuleBase.after]
  refine ⟨after, ?_, holds⟩
  simp only [replaceRule, read, found, placed, answer]
  rfl

theorem readBody_shown (short : old.IsShort)
    (declared : isJsonType (request.header? "content-type") = true)
    (sent : request.body = (Body.json old.toPublic).bytes) :
    readBody request Rule.ofValue = .ok old := by
  have shown : Rule.ofValue (.object (withoutNulls old.publicFields)) = .ok old :=
    Rule.ofValue_toPublic old
  rw [readBody, Rule.readDocument_shown short declared sent]
  change (Rule.ofValue (.object (withoutNulls old.publicFields))).mapError _ = _
  rw [shown]
  rfl

theorem isShort_of_readBody_rule (read : readBody request Rule.ofValue = .ok rule) : rule.IsShort := by
  obtain ⟨fields, made, shown⟩ := exists_fields_of_readBody read
  exact Rule.isShort_of_ofFields made shown

/-- A rule with a text that is none of characters is not written into a table. -/
theorem replaceRule_unpaired (reads : session.base.allow .get = .ok ())
    (writes : session.base.allow .update = .ok ()) (held : session.base.stores.Holds contents)
    (split : contents.rules = front ++ old :: back) (named : old.id = some id)
    (first : ∀ other ∈ front, other.id ≠ some id)
    (unread : readBody request Rule.ofValue = .error .unpaired) {path : String} {file : DatabaseFile}
    (tables : session.base.stores = .tables path file) :
    replaceRule session request id = (session, .broken) := by
  have found := get_of_first reads held split named first
  simp only [replaceRule, unread, found, writes, unheld, tables]
  rw [tables] at held
  cases held with
  | tables inTables =>
    simp only [Stores.opened, Bind.bind, Except.bind, inTables.rules]

/-- A rule that has an id is shown. What is shown of it can be sent back, and then every rule is what it
was, and in its place. Any rule that is sent is shown from then on, with the id of its place, and the
others are what they were. What would be a rule if its texts were of characters is not written into a
table, though: there the request fails. -/
theorem rule_written_back (reads : session.base.allow .get = .ok ())
    (writes : session.base.allow .update = .ok ()) (held : session.base.stores.Holds contents)
    (keyed : ∀ path file, session.base.stores = .tables path file →
      (contents.rules.map (·.id)).Nodup)
    (room : ∀ rule ∈ contents.rules, rule.integers.all session.base.stores.hasRoom = true)
    (short : ∀ m, session.base.stores = .memory m → ∀ rule ∈ contents.rules, rule.IsShort)
    (addressable : Addressable id) (present : ∃ rule ∈ contents.rules, rule.id = some id) :
    ∃ front old back, contents.rules = front ++ old :: back ∧ old.id = some id ∧
      (∀ get, Asks get "GET" id → respond session get = (session, ⟨200, .json old.toPublic⟩)) ∧
      (∀ put, Asks put "PUT" id → isJsonType (put.header? "content-type") = true →
        put.body = (Body.json old.toPublic).bytes →
        ∃ after, respond session put =
            ({ session with base := { session.base with stores := after } }, .empty 204) ∧
          after.Holds contents) ∧
      (∀ put rule, Asks put "PUT" id → readBody put Rule.ofValue = .ok rule →
        rule.integers.all session.base.stores.hasRoom = true →
        ∃ after, respond session put =
            ({ session with base := { session.base with stores := after } }, .empty 204) ∧
          after.Holds { contents with rules := front ++ { rule with id := some id } :: back } ∧
          ∀ get, Asks get "GET" id →
            respond { session with base := { session.base with stores := after } } get =
              ({ session with base := { session.base with stores := after } },
                ⟨200, .json (Rule.toPublic { rule with id := some id })⟩)) ∧
      ∀ put path file, Asks put "PUT" id → readBody put Rule.ofValue = .error .unpaired →
        session.base.stores = .tables path file → respond session put = (session, .broken) := by
  obtain ⟨front, old, back, split, named, first⟩ := exists_first present
  have stored : old ∈ contents.rules := by simp [split]
  have told : old.IsShort := by
    cases kind : session.base.stores with
    | memory m => exact short m kind old stored
    | tables path file => exact Rule.isShort_of_hasRoom (kind ▸ room old stored)
  refine ⟨front, old, back, split, named, ?_, ?_, ?_, ?_⟩
  · intro get asks
    rw [respond_get asks addressable]
    exact showRule_of_first reads held split named first told
  · intro put asks declared sent
    have read := readBody_shown told declared sent
    obtain ⟨after, replaced, holds⟩ :=
      replaceRule_of_first reads writes held split named first keyed read (room old stored)
    -- The id of the place is the one that was shown.
    have same : ({ old with id := some id } : Rule) = old := by rw [← named]
    rw [same, ← split] at holds
    exact ⟨after, (respond_put asks addressable).trans replaced, holds⟩
  · intro put rule asks read small
    obtain ⟨after, replaced, holds⟩ :=
      replaceRule_of_first reads writes held split named first keyed read small
    refine ⟨after, (respond_put asks addressable).trans replaced, holds, fun get asks => ?_⟩
    have brief : rule.IsShort := isShort_of_readBody_rule read
    rw [respond_get asks addressable]
    exact showRule_of_first reads holds rfl rfl first brief
  · intro put path file asks unread tables
    rw [respond_put asks addressable]
    exact replaceRule_unpaired reads writes held split named first unread tables

end

attribute [local instance] Platform.usual

/-- Of two rules in tables the first is shown, sent back, and replaced. -/
theorem rule_written_back_in_tables :
    let old : Rule := ⟨some "id-1", "/a", "", 0, "/b", 301, none, none, none, false, none⟩
    let other : Rule := ⟨some "id-2", "^/c", "", 7, "/d", 302, some 5, none, none, true, none⟩
    let database : Sql.Database :=
      { tables := [⟨"rules", [old.row, other.row]⟩, ⟨"hosts", []⟩, ⟨"versions", []⟩] }
    let session : Session := ⟨⟨.tables "db" (.present database), 2, {}⟩, 0, {}, {}, false, []⟩
    let get : Request := ⟨"GET", "/rule/id-1", [], [], []⟩
    let put (text : List Char) : Request := ⟨"PUT", "/rule/id-1", [], [], Text.encodeUtf8 text⟩
    let shown := "\x7b\"id\":\"id-1\",\"path\":\"/a\"".toList ++
      ",\"host\":\"\",\"version\":0,\"redirectURL\":\"/b\"".toList ++
      ",\"statusCode\":301,\"regex\":false\x7d".toList
    let changed := "\x7b\"id\":\"id-2\",\"path\":\"/e\",\"redirectURL\":\"/f\"\x7d".toList
    let new : Rule := ⟨some "id-1", "/e", "", 0, "/f", 301, none, none, none, false, none⟩
    respond session get = (session, ⟨200, .json old.toPublic⟩) ∧
      (respond session (put shown)).1.base.stores.Holds ⟨[old, other], [], []⟩ ∧
      (respond session (put changed)).1.base.stores.Holds ⟨[new, other], [], []⟩ ∧
      (respond (respond session (put changed)).1 get).2 = ⟨200, .json new.toPublic⟩ := by
  intro old other database session get put shown changed new
  have asks : Asks get "GET" "id-1" := ⟨by decide +kernel, by decide +kernel⟩
  have upper : String.ofList ("PUT".toList.map Char.toUpper) = "PUT" := by decide +kernel
  have puts (text : List Char) : Asks (put text) "PUT" "id-1" := ⟨upper, asks.path⟩
  have tables : (⟨[old, other], [], []⟩ : Contents).InTables database :=
    ⟨eq_ok_of_toOption (by decide +kernel), eq_ok_of_toOption (by decide +kernel),
      eq_ok_of_toOption (by decide +kernel)⟩
  have keyed : (([old, other] : List Rule).map (·.id)).Nodup := by decide
  have addressable : Addressable "id-1" := addressable_fresh ⟨.memory {}, 0, {}⟩
  have sent : (put shown).body = (Body.json old.toPublic).bytes := by decide +kernel
  have read : readBody (put changed) Rule.ofValue = .ok { new with id := some "id-2" } :=
    eq_ok_of_toOption (by decide +kernel)
  obtain ⟨front, rule, back, split, named, gets, same, replaced, _⟩ :=
    @rule_written_back session ⟨[old, other], [], []⟩ "id-1" _ rfl rfl (.tables tables)
      (fun _ _ _ => keyed) (by decide +kernel) nofun addressable ⟨old, List.mem_cons_self, rfl⟩
  -- Only the first rule has the id.
  obtain ⟨rfl, rfl, rfl⟩ : front = [] ∧ rule = old ∧ back = [other] := by
    rcases front with _ | ⟨_, _ | ⟨_, more⟩⟩
    · cases split
      exact ⟨rfl, rfl, rfl⟩
    · cases split
      exact absurd named (by decide)
    · have lengths := congrArg List.length split
      simp at lengths
  obtain ⟨kept, answered, holds⟩ := same _ (puts shown) rfl sent
  obtain ⟨after, changes, holding, next⟩ := replaced _ _ (puts changed) read (by decide +kernel)
  rw [answered, changes]
  exact ⟨gets get asks, holds, holding, congrArg Prod.snd (next get asks)⟩

/-- A path with half of a pair of surrogates is not written: the table cannot take it. -/
theorem rule_not_written_at_surrogate :
    let old : Rule := ⟨some "id-1", "/a", "", 0, "/b", 301, none, none, none, false, none⟩
    let database : Sql.Database :=
      { tables := [⟨"rules", [old.row]⟩, ⟨"hosts", []⟩, ⟨"versions", []⟩] }
    let session : Session := ⟨⟨.tables "db" (.present database), 1, {}⟩, 0, {}, {}, false, []⟩
    let body := "\x7b\"path\":\"/a\\ud800\",\"redirectURL\":\"/b\"\x7d".toList
    let put : Request := ⟨"PUT", "/rule/id-1", [], [], Text.encodeUtf8 body⟩
    (respond session put).2.status = 500 := by
  decide +kernel

end Http

end Signpost
