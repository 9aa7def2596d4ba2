import Signpost.Json.Sendable
import Signpost.Json.Writer
import Signpost.Text.Case

/-!
# Requests and responses

A request has a method, a path, parameters in order, headers, and a body of bytes. The names of
headers are told apart without regard to case. Of parameters with one name the last counts, of
headers the first. A value can be sent in a response unless it has no words in JSON.
-/
namespace Signpost.Http

/-- A request. -/
structure Request where
  method : String
  path : String
  parameters : List (String × String) := []
  headers : List (String × String) := []
  body : List Nat := []
  deriving Repr, Inhabited

/-- A text in small letters. -/
def lowered (s : String) : String :=
  String.ofList (s.toList.map Text.toAsciiLower)

/-- The value of a parameter. -/
def Request.parameter? (request : Request) (name : String) : Option String :=
  request.parameters.reverse.lookup name

/-- The value of a header, whose name is given in small letters. -/
def Request.header? (request : Request) (name : String) : Option String :=
  (request.headers.find? fun header => lowered header.1 == name).map (·.2)

/-- The body of a response. -/
inductive Body
  | empty
  | json (value : Value)
  | text (s : String)

/-- The bytes of a body. -/
def Body.bytes : Body → List Nat
  | empty => []
  | json value => Text.encodeUtf8 (Json.writeCompact value).toList
  | text s => Text.encodeUtf8 s.toList

/-- A response. -/
structure Response where
  status : Nat
  body : Body

namespace Response

/-- A response without a body. -/
def empty (status : Nat) : Response := ⟨status, .empty⟩

/-- The response to a request on which the service itself fails. -/
def broken : Response := ⟨500, .text "Internal Server Error"⟩

/-- What stands for a response that is not told, because it hangs on a text that is none of
characters. -/
def unspoken : Response := ⟨0, .empty⟩

/-- A response with a value, if that can be sent. -/
def json (status : Nat) (value : Value) : Response :=
  if Json.isSendable value then ⟨status, .json value⟩ else broken

/-- A response with an object. -/
def object (status : Nat) (fields : List (String × Value)) : Response :=
  ⟨status, .json (.object fields)⟩

/-- A response that says what is wrong. -/
def detail (status : Nat) (text : String) : Response :=
  object status [("detail", .text text)]

/-- The response without its body, for a request that asks for the head only. -/
def withoutBody (response : Response) : Response := { response with body := .empty }

end Response
end Signpost.Http
