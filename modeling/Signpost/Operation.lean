import Signpost.Text.Blank
import Signpost.Url.Query
import Signpost.Value

/-!
# Operations

A rule may carry operations on its target, written as names with parameters:
`qs:preserve=1|other:flag`. Names are kept apart by bars, and each may be followed by a colon and
pairs of keys and values. The operation `qs` decides what becomes of the query of a request.
-/
namespace Signpost

/-- The value of a parameter: one text, or several if its key was given more than once. -/
inductive Setting
  | one (value : String)
  | several (values : List String)
  deriving DecidableEq, Repr, Inhabited

/-- The values, in order. -/
def Setting.values : Setting → List String
  | one value => [value]
  | several values => values

/-- The setting with one more value. -/
def Setting.push (setting : Setting) (value : String) : Setting :=
  .several (setting.values ++ [value])

/-- The parameters of an operation; no two have the same key. -/
abbrev Parameters := List (String × Setting)

/-- Operations with their parameters; no two have the same name. -/
abbrev Operations := List (String × Parameters)

namespace Operations

/-- The entries with one set: in its place if its name is there, else at the end. -/
def put (entries : List (String × α)) (name : String) (value : α) : List (String × α) :=
  match entries with
  | [] => [(name, value)]
  | (other, old) :: rest =>
    if other == name then (name, value) :: rest else (other, old) :: put rest name value

/-- The parameters with one more value of a key. -/
def addPair (parameters : Parameters) (pair : List Char) : Parameters :=
  let halves := Text.cut '=' pair
  let key := String.ofList halves.1
  let value := String.ofList halves.2
  match parameters.lookup key with
  | none => put parameters key (.one value)
  | some setting => put parameters key (setting.push value)

/-- The parameters in a text; empty pieces are no pairs. -/
def parameters (data : List Char) : Parameters :=
  ((Text.pieces '&' data).filter (!·.isEmpty)).foldl addPair []

/-- The operations with the one of a piece, which replaces an earlier one of its name. A piece
without a name is none. -/
def addPiece (operations : Operations) (piece : List Char) : Operations :=
  let halves := Text.cut ':' piece
  let name := Text.trim halves.1
  if name.isEmpty then operations
  else put operations (String.ofList name) (parameters halves.2)

/-- The operations in a text. -/
def ofText (text : String) : Operations :=
  (Text.pieces '|' text.toList).foldl addPiece []

/-- The operations of a rule. -/
def ofOption : Option String → Operations
  | some text => ofText text
  | none => []

/-- The target with what is left of the request's query once the keys are removed. -/
def filtered (target : String) (removed : List String) (query : String) : String :=
  let pairs := Url.decodePairs (query.toList.dropWhile (· == '?'))
  let rest := Url.encodePairs (pairs.filter fun pair => !removed.contains (String.ofList pair.1))
  if rest.isEmpty then target
  else target ++ String.ofList ('?' :: rest)

/-- The target after the operation on queries. The query has its mark, or is empty. -/
def applyQuery (target : String) (parameters : Parameters) (query : String) : String :=
  if parameters.lookup "preserve" == some (.one "1") then target ++ query
  else if parameters.lookup "preserve" == some (.one "0") then target
  else
    match parameters.lookup "filter" with
    | none => target
    | some keys => filtered target keys.values query

/-- The target after the operations. Without an operation on queries, the query of the request is
dropped. -/
def apply (operations : Operations) (target query : String) : String :=
  match operations.lookup "qs" with
  | none => target
  | some parameters => applyQuery target parameters query

end Operations
end Signpost
