import Signpost.Http.Message
import Signpost.Json.Reader
import Signpost.Platform
import Signpost.Schema

/-!
# The body of a request as a record

A body that is declared as JSON, or not declared at all, is read as JSON; any other is left as
bytes. A record is read from an object. What is wrong with a body is told in a response, each fault
with its place. A body may also have texts that are none of characters: where only these keep it from
being a record, it is up to the store what comes of it.
-/
namespace Signpost.Http

/-- What the body of a request holds. -/
inductive Document
  | absent
  | value (value : Value)
  | bytes (bytes : List Nat)

/-- A body with this content type is JSON. -/
def isJsonType (contentType : Option String) : Bool :=
  match contentType with
  | none | some "" => true
  | some declared =>
    match Text.pieces '/' (Text.trim (Text.cut ';' (lowered declared).toList).1) with
    | [main, sub] =>
      main == "application".toList && (sub == "json".toList || "+json".toList.isSuffixOf sub)
    | _ => false

/-- A fault of a body: where it is, and of which kind. -/
def faultValue (place : List Value) (kind : String) : Value :=
  .object [("loc", .list (.text "body" :: place)), ("type", .text kind)]

/-- The response that tells the faults of a body. -/
def unprocessable (faults : List Value) : Response :=
  .object 422 [("detail", .list faults)]

/-- The response to a body that cannot be read. -/
def unparsed : Response := .detail 400 "There was an error parsing the body"

/-- The document in a body. What comes of a name that is no text of characters is not told. -/
def readDocument [Platform] (request : Request) : Except Response Document :=
  if request.body.isEmpty then .ok .absent
  else if !isJsonType (request.header? "content-type") then .ok (.bytes request.body)
  else
    match Text.decodeDetected request.body with
    | .error _ => .error unparsed
    | .ok codes =>
      match Json.readCodes Platform.documentDepth codes with
      | .ok value => .ok (.value value)
      | .error (.fault _ place) => .error (unprocessable [faultValue [.int place] "json_invalid"])
      | .error .unpairedName => .error .unspoken
      | .error _ => .error unparsed

/-- The part of a body that a problem is about. -/
def subjectOf (fields : List (String × Value)) (problem : Schema.Problem) : Value :=
  match problem.kind, problem.place with
  | .missing, _ => .object fields
  | _, name :: _ => (fields.lookup name).getD .null
  | _, [] => .object fields

/-- The response to a body with problems. The parts that they are about have to be told, too, and
cannot be where they are nothing to send. -/
def problemResponse (fields : List (String × Value)) (problems : List Schema.Problem) :
    Response :=
  if problems.all fun problem => Json.isSendable (subjectOf fields problem) then
    unprocessable (problems.map fun problem =>
      faultValue (problem.place.map .text) problem.kind.code)
  else .broken

/-- The response to a body that is no object. -/
def noObject : Response :=
  unprocessable [faultValue [] "model_attributes_type"]

/-- Why a body gives no record: the response that says so, or texts that no record can hold. -/
inductive Unread
  | answered (response : Response)
  | unpaired

/-- Why the fields of a body are no record. -/
def Unread.ofProblems (fields : List (String × Value)) (problems : List Schema.Problem) : Unread :=
  if (Schema.proper problems).isEmpty then unpaired
  else answered (problemResponse fields (Schema.proper problems))

/-- A record read from a document. -/
def readRecord (reader : List (String × Value) → Schema.Checked α) :
    Document → Except Unread α
  | .absent | .value .null => .error (.answered (unprocessable [faultValue [] "missing"]))
  | .value (.object fields) => (reader fields).mapError (Unread.ofProblems fields)
  | .value other => .error (.answered (if Json.isSendable other then noObject else .broken))
  | .bytes bytes =>
    match Text.decodeUtf8 bytes with
    | .ok _ => .error (.answered noObject)
    | .error _ => .error (.answered .broken)

/-- A record in the body of a request. -/
def readBody [Platform] (request : Request) (reader : Value → Schema.Checked α) :
    Except Unread α := do
  readRecord (fun fields => reader (.object fields))
    (← (readDocument request).mapError .answered)

end Signpost.Http
