import Signpost.Condition

/-!
# Failures of a store

What can go wrong in a store, with the words for it. A store reports most failures as its own; a
number or a text that it cannot hold, values without an order and a stored row that is no record come
through as they are, and so does a value without a text on its way into the store. Where a record
would have to hold a text that is none of characters, a call is left `unspoken`: what comes of it is
not told.
-/
namespace Signpost.Store

/-- A failure of a store. -/
inductive Failure
  | unknownAttribute (name : String)
  | unknownAttributes (names : List String)
  | alreadyExists (id : String)
  | noId
  | notFound (id : String)
  | notUnique (column : String)
  | nullColumn (column : String)
  | noSuchTable (name : String)
  | notADatabase
  | cannotOpen (path : String)
  | unsupportedValue (place : Nat) (kind : String)
  | deepCondition (limit : Nat)
  | manyParameters
  | unavailable (message : String)
  | rejected (message : String)
  | integerTooLarge
  | unencodable (text : Text.Unpaired)
  | unordered (values : Value.Unordered)
  | unshown (why : Value.Unshown)
  | invalidRow (problems : List Schema.Problem)
  | unspoken
  deriving DecidableEq, Repr

/-- How a failure is reported. -/
inductive Failure.Kind
  | store
  | conflict
  | overflow
  | encoding
  | order
  | value
  | recursion
  | validation
  | unspoken
  deriving DecidableEq, Repr

namespace Failure

/-- How a failure is reported. -/
def kind : Failure → Kind
  | notUnique _ | nullColumn _ | rejected _ => .conflict
  | integerTooLarge => .overflow
  | unencodable _ => .encoding
  | unordered _ => .order
  | unshown .longNumeral => .value
  | unshown .tooDeep => .recursion
  | invalidRow _ => .validation
  | unspoken => .unspoken
  | _ => .store

/-- The failure is one of the store itself, conflicts included. -/
def isOwn (failure : Failure) : Bool :=
  failure.kind == .store || failure.kind == .conflict

/-- Texts with commas between. -/
def listed (names : List String) : String :=
  ", ".intercalate names

/-- What is said of a failure. -/
def message : Failure → String
  | unknownAttribute name => "Unknown attribute: " ++ name
  | unknownAttributes names => "Unknown attributes: " ++ listed names
  | alreadyExists id => "Rule " ++ id ++ " already exists"
  | noId => "Cannot update a rule without an id"
  | notFound id => "Rule " ++ id ++ " not found"
  | notUnique column => "UNIQUE constraint failed: " ++ column
  | nullColumn column => "NOT NULL constraint failed: " ++ column
  | noSuchTable name => "no such table: " ++ name
  | notADatabase => "file is not a database"
  | cannotOpen path => "Cannot open database " ++ path ++ ": unable to open database file"
  | unsupportedValue place kind =>
    "Error binding parameter " ++ Number.decimal place ++ ": type '" ++ kind
      ++ "' is not supported"
  | deepCondition limit =>
    "Expression tree is too large (maximum depth " ++ Number.decimal limit ++ ")"
  | manyParameters => "too many SQL variables"
  | unavailable message | rejected message => message
  | integerTooLarge => "Python int too large to convert to SQLite INTEGER"
  | unencodable text => text.message
  | unordered values => values.message
  | unshown why => why.message
  | unspoken => "a record would hold a text that is none of characters"
  | invalidRow _ => "the stored row is no rule"

/-- The failure behind conditions that cannot be decided. -/
def ofUndecided : Undecided → Failure
  | .unknownAttribute name => .unknownAttribute name
  | .unordered values => .unordered values

end Failure
end Signpost.Store
