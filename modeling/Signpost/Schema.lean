import Signpost.Text.Case
import Signpost.Text.Split
import Signpost.Value

/-!
# Reading records from values

A record is read from an object field by field, and every field at fault is reported, in the order
of the fields. Readers are lax where a text or a number says plainly what is meant: an integer may
be written as text, a truth value as a word. A record holds texts of characters only: where a field
has another text, this is told apart from what is wrong with a field (`proper`).
-/
namespace Signpost.Schema

/-- What is wrong with a field. -/
inductive ProblemKind
  | missing
  | notText
  | unreadableText
  | unpaired
  | notInteger
  | unreadableInteger
  | longInteger
  | fraction
  | notFinite
  | notTruth
  | unreadableTruth
  | notAChoice
  | tooSmall
  | tooLarge
  | notAnObject
  deriving DecidableEq, Repr

/-- The name of a kind of problem, as reports give it. -/
def ProblemKind.code : ProblemKind → String
  | missing => "missing"
  | notText => "string_type"
  | unreadableText => "string_unicode"
  | unpaired => "unpaired"
  | notInteger => "int_type"
  | unreadableInteger => "int_parsing"
  | longInteger => "int_parsing_size"
  | fraction => "int_from_float"
  | notFinite => "finite_number"
  | notTruth => "bool_type"
  | unreadableTruth => "bool_parsing"
  | notAChoice => "literal_error"
  | tooSmall => "greater_than_equal"
  | tooLarge => "less_than_equal"
  | notAnObject => "model_type"

/-- A field at fault. -/
structure Problem where
  place : List String
  kind : ProblemKind
  deriving DecidableEq, Repr

/-- What is wrong with fields, without the texts that are none of characters. -/
def proper (problems : List Problem) : List Problem :=
  problems.filter (·.kind != .unpaired)

/-- What has been read, or every problem found. -/
abbrev Checked (α : Type) := Except (List Problem) α

/-- A constructor whose arguments are still to be read. -/
def Checked.make (f : α) : Checked α := .ok f

/-- A function applied to an argument; the problems of both are kept. -/
def Checked.ap (f : Checked (α → β)) (x : Checked α) : Checked β :=
  match f, x with
  | .ok f, .ok x => .ok (f x)
  | .ok _, .error q => .error q
  | .error p, .ok _ => .error p
  | .error p, .error q => .error (p ++ q)

/-- A reader of one value. -/
abbrev Reader (α : Type) := Value → Except ProblemKind α

/-- The names of a field: the public one, which wins, and another. -/
structure FieldName where
  name : String
  other : String

/-- A field by the one name it has. -/
def FieldName.only (name : String) : FieldName := ⟨name, name⟩

/-- The value of a field under either of its names, with that name. -/
def FieldName.find? (field : FieldName) (fields : List (String × Value)) :
    Option (String × Value) :=
  match fields.lookup field.name with
  | some value => some (field.name, value)
  | none => (fields.lookup field.other).map fun value => (field.other, value)

/-- A value read at a place. -/
def readAt (place : List String) (reader : Reader α) (value : Value) : Checked α :=
  match reader value with
  | .ok x => .ok x
  | .error kind => .error [⟨place, kind⟩]

/-- A field that has to be there. -/
def required (field : FieldName) (reader : Reader α) (fields : List (String × Value)) :
    Checked α :=
  match field.find? fields with
  | some (name, value) => readAt [name] reader value
  | none => .error [⟨[field.name], .missing⟩]

/-- A field with a default. -/
def optional (field : FieldName) (default : α) (reader : Reader α)
    (fields : List (String × Value)) : Checked α :=
  match field.find? fields with
  | some (name, value) => readAt [name] reader value
  | none => .ok default

/-- The fields of an object. -/
def object : Value → Checked (List (String × Value))
  | .object fields => .ok fields
  | _ => .error [⟨[], .notAnObject⟩]

/-- A field that is a record of its own, with a default. -/
def section_ (name : String) (default : α) (reader : Value → Checked α)
    (fields : List (String × Value)) : Checked α :=
  match fields.lookup name with
  | none => .ok default
  | some value =>
    match reader value with
    | .ok x => .ok x
    | .error problems => .error (problems.map fun p => { p with place := name :: p.place })

/-- A text. -/
def text : Reader String
  | .text s => .ok s
  | .unpaired _ => .error .unpaired
  | _ => .error .notText

/-- A reader that also takes the null value. -/
def nullable (reader : Reader α) : Reader (Option α)
  | .null => .ok none
  | value => (reader value).map some

/-- The digits after zeros and underscores in front of them; of zeros alone, the last. -/
def dropLeadingZeros : List Char → Option (List Char)
  | [] => none
  | '0' :: rest =>
    match rest.dropWhile fun c => c == '0' || c == '_' with
    | [] => some [rest.getLast?.getD '0']
    | '.' :: more =>
      let passed := rest.take (rest.length - (more.length + 1))
      some (passed.getLast?.getD '0' :: '.' :: more)
    | c :: more => if Text.isAsciiDigit c then some (c :: more) else none
  | c :: rest => if Text.isAsciiDigit c then some (c :: rest) else none

/-- The digits before a point that only zeros follow. -/
def dropZeroFraction (cs : List Char) : List Char :=
  match Text.cut? '.' cs with
  | some (whole, decimals) => if decimals.all (· == '0') then whole else cs
  | none => cs

/-- The digits of an integer written with at most single underscores inside. -/
def plainDigits? (cs : List Char) : Option (List Char) :=
  let parts := Text.pieces '_' cs
  if parts.all fun part => !part.isEmpty && part.all Text.isAsciiDigit then some parts.flatten
  else none

/-- An integer written as text, with blanks around it and zeros after a point. -/
def integerText (s : String) : Except ProblemKind Int :=
  let cs := Text.trim s.toList
  let cs := match cs with
    | '+' :: rest => rest
    | _ => cs
  let (negative, cs) := match cs with
    | '-' :: rest => (true, rest)
    | _ => (false, cs)
  match (dropLeadingZeros cs).bind fun cs => plainDigits? (dropZeroFraction cs) with
  | none => .error .unreadableInteger
  | some digits =>
    if digits.length > Number.digitLimit then .error .longInteger
    else
      let magnitude := Number.ofDigits (digits.map fun c => c.toNat - 0x30)
      .ok (if negative then -(magnitude : Int) else magnitude)

/-- A floating-point number without a fraction, as an integer of 64 bits. -/
def integerReal (x : Number.Binary64) : Except ProblemKind Int :=
  match x with
  | .nan | .infinite _ => .error .notFinite
  | _ =>
    match x.toInt? with
    | none => .error .fraction
    | some n =>
      let bound : Int := Number.powerOfTwo 63
      if -bound < n && n < bound then .ok n else .error .longInteger

/-- An integer. -/
def integer : Reader Int
  | .bool b => .ok (if b then 1 else 0)
  | .int n => .ok n
  | .real x => integerReal x
  | .text s => integerText s
  | .unpaired _ => .error .unreadableText
  | _ => .error .notInteger

/-- The words for true. -/
def trueWords : List String := ["1", "t", "true", "y", "yes", "on"]

/-- The words for false. -/
def falseWords : List String := ["0", "f", "false", "n", "no", "off"]

/-- A truth value. -/
def truth : Reader Bool
  | .bool b => .ok b
  | .int n => if n == 1 then .ok true else if n == 0 then .ok false else .error .unreadableTruth
  | .real x =>
    if x.toInt? == some 1 then .ok true else if x.toInt? == some 0 then .ok false
    else .error .notTruth
  | .text s =>
    let word := String.ofList (s.toList.map Text.toAsciiLower)
    if trueWords.contains word then .ok true
    else if falseWords.contains word then .ok false
    else .error .unreadableTruth
  | .unpaired _ => .error .unreadableText
  | _ => .error .notTruth

/-- One of a few texts. -/
def choice (choices : List String) : Reader String
  | .text s => if choices.contains s then .ok s else .error .notAChoice
  | _ => .error .notAChoice

/-- An integer within bounds. -/
def bounded (low : Option Int) (high : Option Int) : Reader Int := fun value => do
  let n ← integer value
  if low.any (n < ·) then .error .tooSmall
  else if high.any (· < n) then .error .tooLarge
  else return n

end Signpost.Schema
