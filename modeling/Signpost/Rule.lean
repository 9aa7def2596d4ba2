import Signpost.Schema

/-!
# Redirect rules

A rule sends requests for a path to another URL. It may be bound to a host and to a window of time,
and it belongs to a version of the rule set. A pattern rule has a pattern for its path. Beside
rules, a service holds which hosts insist on rules of their own and which version is active.
-/
namespace Signpost

/-- A redirect rule. A rule without an id has not been stored. The host is empty for a rule of
every host; times are seconds since the epoch, the last access milliseconds. -/
structure Rule where
  id : Option String
  path : String
  host : String
  version : Int
  target : String
  status : Int
  start : Option Int
  stop : Option Int
  operations : Option String
  isPattern : Bool
  lastAccessed : Option Int
  deriving DecidableEq, Repr, Inhabited

/-- A host that takes rules bound to it only, or not. -/
structure HostPolicy where
  host : String
  hostOnly : Bool
  deriving DecidableEq, Repr, Inhabited

/-- A version of the rule set that is active. -/
structure ActiveVersion where
  number : Int
  deriving DecidableEq, Repr, Inhabited

/-- A value that may be absent. -/
def Value.ofOption (f : α → Value) : Option α → Value
  | some x => f x
  | none => .null

/-- The fields whose value is not null. -/
def withoutNulls (fields : List (String × Value)) : List (String × Value) :=
  fields.filter fun field => match field.2 with
    | .null => false
    | _ => true

namespace Rule

/-- The rule holds at an instant; both ends of its window belong to it. -/
def activeAt (rule : Rule) (now : Int) : Bool :=
  !(rule.start.any (now < ·)) && !(rule.stop.any (· < now))

/-- The values of a rule, in the order of its columns. -/
def values (rule : Rule) : List Value :=
  [.ofOption .text rule.id, .text rule.path, .text rule.host, .int rule.version, .text rule.target,
    .int rule.status, .ofOption .int rule.start, .ofOption .int rule.stop,
    .ofOption .text rule.operations, .bool rule.isPattern, .ofOption .int rule.lastAccessed]

/-- The names of a rule's attributes. -/
def attributeNames : List String :=
  ["id", "path", "host", "version", "redirect_url", "status_code", "utc_start_time",
    "utc_end_time", "operations", "regex", "last_accessed"]

/-- The names of a rule's fields outside the service. -/
def publicNames : List String :=
  ["id", "path", "host", "version", "redirectURL", "statusCode", "utcStartTime", "utcEndTime",
    "operations", "regex", "lastAccessed"]

/-- The attributes of a rule. -/
def attributes (rule : Rule) : List (String × Value) :=
  attributeNames.zip rule.values

/-- The fields of a rule outside the service. -/
def publicFields (rule : Rule) : List (String × Value) :=
  publicNames.zip rule.values

/-- The rule as it is shown: public names, absent values left out. -/
def toPublic (rule : Rule) : Value :=
  .object (withoutNulls rule.publicFields)

/-- A rule read from its fields, which may have either kind of name. -/
def ofFields (fields : List (String × Value)) : Schema.Checked Rule :=
  let name (i : Nat) : Schema.FieldName := ⟨publicNames.getD i "", attributeNames.getD i ""⟩
  let text := Schema.nullable Schema.text
  let integer := Schema.nullable Schema.integer
  Schema.Checked.make Rule.mk
    |>.ap (Schema.optional (name 0) none text fields)
    |>.ap (Schema.required (name 1) Schema.text fields)
    |>.ap (Schema.optional (name 2) "" Schema.text fields)
    |>.ap (Schema.optional (name 3) 0 Schema.integer fields)
    |>.ap (Schema.required (name 4) Schema.text fields)
    |>.ap (Schema.optional (name 5) 301 Schema.integer fields)
    |>.ap (Schema.optional (name 6) none integer fields)
    |>.ap (Schema.optional (name 7) none integer fields)
    |>.ap (Schema.optional (name 8) none text fields)
    |>.ap (Schema.optional (name 9) false Schema.truth fields)
    |>.ap (Schema.optional (name 10) none integer fields)

/-- A rule read from an object. -/
def ofValue (value : Value) : Schema.Checked Rule :=
  Schema.object value >>= ofFields

end Rule

namespace HostPolicy

/-- The attributes of a host policy. -/
def attributes (policy : HostPolicy) : List (String × Value) :=
  [("host", .text policy.host), ("host_only", .bool policy.hostOnly)]

/-- The fields of a host policy outside the service. -/
def publicFields (policy : HostPolicy) : List (String × Value) :=
  [("host", .text policy.host), ("hostOnly", .bool policy.hostOnly)]

/-- A host policy read from an object. -/
def ofValue (value : Value) : Schema.Checked HostPolicy := do
  let fields ← Schema.object value
  Schema.Checked.make HostPolicy.mk
    |>.ap (Schema.required (.only "host") Schema.text fields)
    |>.ap (Schema.optional ⟨"hostOnly", "host_only"⟩ false Schema.truth fields)

end HostPolicy

namespace ActiveVersion

/-- The attributes of an active version. -/
def attributes (version : ActiveVersion) : List (String × Value) :=
  [("active_version", .int version.number)]

/-- The fields of an active version outside the service. -/
def publicFields (version : ActiveVersion) : List (String × Value) :=
  [("activeVersion", .int version.number)]

/-- An active version read from an object. -/
def ofValue (value : Value) : Schema.Checked ActiveVersion := do
  let fields ← Schema.object value
  Schema.Checked.make ActiveVersion.mk
    |>.ap (Schema.required ⟨"activeVersion", "active_version"⟩ Schema.integer fields)

end ActiveVersion
end Signpost
