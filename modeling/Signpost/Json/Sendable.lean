import Signpost.Value

/-!
# Values that can be sent

Standard JSON has no words for infinity and for what is not a number, numerals that are too long are
not written, and a text has to be encoded. `isSendable` tells whether a value does without all these.
`finite` puts the null value in the place of the numbers that are not finite.
-/
namespace Signpost.Json

mutual

/-- All numbers in the value are finite and short enough, and all texts are of characters. -/
def isSendable : Value → Bool
  | .real .nan | .real (.infinite _) | .unpaired _ => false
  | .int n => n.natAbs < Number.powerOfTen Number.digitLimit
  | .list items => areSendable items
  | .object fields => fieldsAreSendable fields
  | _ => true

/-- The values can be sent. -/
def areSendable : List Value → Bool
  | [] => true
  | item :: rest => isSendable item && areSendable rest

/-- The values of the fields can be sent. -/
def fieldsAreSendable : List (String × Value) → Bool
  | [] => true
  | (_, value) :: rest => isSendable value && fieldsAreSendable rest

end

mutual

/-- The value with null for each number that is not finite. -/
def finite : Value → Value
  | .real .nan | .real (.infinite _) => .null
  | .list items => .list (finiteItems items)
  | .object fields => .object (finiteFields fields)
  | value => value

/-- The values with null for each number that is not finite. -/
def finiteItems : List Value → List Value
  | [] => []
  | item :: rest => finite item :: finiteItems rest

/-- The fields with null for each number that is not finite. -/
def finiteFields : List (String × Value) → List (String × Value)
  | [] => []
  | (name, value) :: rest => (name, finite value) :: finiteFields rest

end

end Signpost.Json
