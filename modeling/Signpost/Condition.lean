import Signpost.Rule

/-!
# Search conditions

Stores are searched by conditions on the attributes of a record. All criteria of a search have to
hold; a group holds if one of its conditions does. `recordMatches` decides them on a record by its
attributes. Beside these, a record in memory may answer to further names, those of its methods among
them; which these are, and how they compare, is the business of `Others`.
-/
namespace Signpost

/-- What a condition asks of an attribute. -/
inductive Test
  | equals (value : Value)
  | above (value : Value)
  | between (low high : Value)

/-- A test of one attribute. -/
structure Condition where
  subject : String
  test : Test

/-- A condition, or a group of which one has to hold. -/
inductive Criterion
  | one (condition : Condition)
  | anyOf (conditions : List Condition)

/-- Why a condition cannot be built. -/
inductive Ill
  | comparator (name : Value)
  | pair
  deriving Inhabited

/-- What is said of a condition that cannot be built. -/
def Ill.message : Ill → String
  | comparator name => name.literal ++ " is not a valid Comparator"
  | pair => "between requires a (low, high) value"

namespace Condition

/-- The attribute has the value. -/
def equals (subject : String) (value : Value) : Condition := ⟨subject, .equals value⟩

/-- The attribute is above the value. -/
def above (subject : String) (value : Value) : Condition := ⟨subject, .above value⟩

/-- A condition from the name of its comparator. -/
def build (subject : String) (comparator value : Value) : Except Ill Condition :=
  match comparator with
  | .text "equals" => .ok ⟨subject, .equals value⟩
  | .text "greater_than" => .ok ⟨subject, .above value⟩
  | .text "between" =>
    match value with
    | .list [low, high] => .ok ⟨subject, .between low high⟩
    | _ => .error .pair
  | other => .error (.comparator other)

/-- The name of the comparator. -/
def comparator (condition : Condition) : String :=
  match condition.test with
  | .equals _ => "equals"
  | .above _ => "greater_than"
  | .between _ _ => "between"

/-- The value that the attribute is compared with. -/
def value (condition : Condition) : Value :=
  match condition.test with
  | .equals value | .above value => value
  | .between low high => .list [low, high]

end Condition

/-- Why conditions cannot be decided on a record. -/
inductive Undecided
  | unknownAttribute (name : String)
  | unordered (values : Value.Unordered)
  deriving DecidableEq, Repr

/-- The test holds of a value. The null value equals itself and satisfies no other test. -/
def Test.holds (test : Test) (actual : Value) : Except Undecided Bool :=
  match test, actual with
  | .equals value, _ => .ok (actual.same value)
  | _, .null => .ok false
  | .above value, _ => (actual.above value).mapError .unordered
  | .between low high, _ =>
    match low.atMost actual with
    | .error values => .error (.unordered values)
    | .ok false => .ok false
    | .ok true => (actual.atMost high).mapError .unordered

/-- What a record with some attributes answers to beside them: the answer to a test, for each further
name that it has. -/
abbrev Others := List (String × Value) → String → Option (Test → Except Value.Unordered Bool)

namespace Others

/-- Records answer to their attributes only. -/
def none : Others := fun _ _ => Option.none

/-- The answer of a method, which equals no value and has no order. -/
def ofMethod : Test → Except Value.Unordered Bool
  | .equals _ => .ok false
  | .above value => .error ⟨">", "method", value.kindName⟩
  | .between low _ => .error ⟨"<=", low.kindName, "method"⟩

/-- The methods that records of every kind commonly have. -/
def commonMethods : List String :=
  ["construct", "copy", "dict", "from_orm", "json", "model_construct", "model_copy", "model_dump",
    "model_dump_json", "model_json_schema", "model_parametrized_name", "model_post_init",
    "model_rebuild", "model_validate", "model_validate_json", "model_validate_strings", "parse_file",
    "parse_obj", "parse_raw", "schema", "schema_json", "update_forward_refs", "validate"]

/-- Records with the common methods, and rules with one of their own. -/
def usual : Others := fun attributes name =>
  let isRule := (attributes.lookup "redirect_url").isSome
  if commonMethods.contains name || isRule && name == "to_public" then some ofMethod
  else Option.none

end Others

section

-- What records answer to beside their attributes.
variable (others : Others)

/-- The condition holds of a record with the attributes. -/
def Condition.holds (condition : Condition) (attributes : List (String × Value)) :
    Except Undecided Bool :=
  match attributes.lookup condition.subject, others attributes condition.subject with
  | some actual, _ => condition.test.holds actual
  | none, some answer => (answer condition.test).mapError .unordered
  | none, none => .error (.unknownAttribute condition.subject)

/-- One of the conditions holds; those after it are not looked at. -/
def anyHolds (attributes : List (String × Value)) : List Condition → Except Undecided Bool
  | [] => .ok false
  | condition :: rest =>
    match condition.holds others attributes with
    | .ok false => anyHolds attributes rest
    | decided => decided

/-- The criterion holds of a record with the attributes. -/
def Criterion.holds (criterion : Criterion) (attributes : List (String × Value)) :
    Except Undecided Bool :=
  match criterion with
  | .one condition => condition.holds others attributes
  | .anyOf conditions => anyHolds others attributes conditions

/-- All criteria hold of a record; those after one that fails are not looked at. -/
def recordMatches (attributes : List (String × Value)) : List Criterion → Except Undecided Bool
  | [] => .ok true
  | criterion :: rest =>
    match criterion.holds others attributes with
    | .ok true => recordMatches attributes rest
    | decided => decided

/-- The records that satisfy the criteria, in their order. -/
def select (attributes : α → List (String × Value)) (criteria : List Criterion) :
    List α → Except Undecided (List α)
  | [] => .ok []
  | record :: rest =>
    match recordMatches others (attributes record) criteria with
    | .error why => .error why
    | .ok kept =>
      match select attributes criteria rest with
      | .error why => .error why
      | .ok found => .ok (if kept then record :: found else found)

end

end Signpost
