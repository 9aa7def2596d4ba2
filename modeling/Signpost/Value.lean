import Signpost.Number.Binary64
import Signpost.Text.Surrogate

/-!
# Values

A cell of a rule sheet, a field of a request body or a setting is a value whose kind is known only
when it is read. This module holds the type, the text of a value, and the comparisons that search
conditions use: numbers of all kinds compare by what they are worth, and `true` and `false` count
as 1 and 0. A text that is none of characters is a kind of its own, and not every value has a text:
an integer may be too long, and a list too deep.
-/
namespace Signpost

/-- A value. The fields of an object keep their order, and no two have the same name. -/
inductive Value
  | null
  | bool (b : Bool)
  | int (n : Int)
  | real (x : Number.Binary64)
  | text (s : String)
  | unpaired (u : Text.Unpaired)
  | list (items : List Value)
  | object (fields : List (String × Value))
  deriving Inhabited, Repr

namespace Value

/-- The name of a value's kind, as messages give it. -/
def kindName : Value → String
  | null => "NoneType"
  | bool _ => "bool"
  | int _ => "int"
  | real _ => "float"
  | text _ | unpaired _ => "str"
  | list _ => "list"
  | object _ => "dict"

mutual

/-- The text of a value inside another one. -/
def literal : Value → String
  | null => "None"
  | bool b => if b then "True" else "False"
  | int n => Number.decimal n
  | real x => x.text
  | text s => Text.quoted s
  | unpaired u => u.quoted
  | list items => "[" ++ literalItems items ++ "]"
  | object fields => "\x7b" ++ literalFields fields ++ "\x7d"

/-- The items of a list, with commas between. -/
def literalItems : List Value → String
  | [] => ""
  | [item] => literal item
  | item :: rest => literal item ++ ", " ++ literalItems rest

/-- The fields of an object, with commas between. -/
def literalFields : List (String × Value) → String
  | [] => ""
  | [(name, value)] => Text.quoted name ++ ": " ++ literal value
  | (name, value) :: rest =>
    Text.quoted name ++ ": " ++ literal value ++ ", " ++ literalFields rest

end

/-- The text of a value: a text is its own, others are shown as inside another value. -/
def display : Value → String
  | text s => s
  | value => literal value

/-- Why a value has no text. -/
inductive Unshown
  | longNumeral
  | tooDeep
  deriving DecidableEq, Repr

/-- What is said of a value that has no text. -/
def Unshown.message : Unshown → String
  | longNumeral =>
    "Exceeds the limit (" ++ Number.decimal Number.digitLimit
      ++ " digits) for integer string conversion; use sys.set_int_max_str_digits() to increase the limit"
  | tooDeep => "maximum recursion depth exceeded while getting the repr of an object"

mutual

/-- Why a value has no text, if it has none: the first integer in it with too many digits, or the
first list or object inside more of them than there is room for. -/
def unshown? (room : Nat) : Value → Option Unshown
  | int n => if Number.powerOfTen Number.digitLimit ≤ n.natAbs then some .longNumeral else none
  | list items =>
    match room with
    | 0 => some .tooDeep
    | room + 1 => unshownItem? room items
  | object fields =>
    match room with
    | 0 => some .tooDeep
    | room + 1 => unshownField? room fields
  | _ => none

/-- Why a list has no text, by the first of its items that has none. -/
def unshownItem? (room : Nat) : List Value → Option Unshown
  | [] => none
  | item :: rest => (unshown? room item).or (unshownItem? room rest)

/-- Why an object has no text, by the first of its fields that has none. -/
def unshownField? (room : Nat) : List (String × Value) → Option Unshown
  | [] => none
  | (_, value) :: rest => (unshown? room value).or (unshownField? room rest)

end

/-- The value is a text that is none of characters. -/
def isUnpaired : Value → Bool
  | unpaired _ => true
  | _ => false

/-- Where a number stands on the line of numbers, in units of `2^-1074`. -/
def position? : Value → Option (Int × Int)
  | bool b => some (Number.Binary64.integerPosition (if b then 1 else 0))
  | int n => some (Number.Binary64.integerPosition n)
  | real x => x.position?
  | _ => none

/-- A truth value, an integer or a floating-point number. -/
def isNumber : Value → Bool
  | bool _ | int _ | real _ => true
  | _ => false

/-- Two plain values are the same: numbers of any kind by their worth, texts by their characters.
A list or an object is the same as no plain value. -/
def same (a b : Value) : Bool :=
  match a, b with
  | null, null => true
  | text s, text t => s == t
  | unpaired u, unpaired v => u.codes == v.codes
  | _, _ =>
    match a.position?, b.position? with
    | some p, some q => p == q
    | _, _ => false

/-- Two values that have no order, with the sign between them. -/
structure Unordered where
  sign : String
  left : String
  right : String
  deriving DecidableEq, Repr

/-- What is said of two values that have no order. -/
def Unordered.message (u : Unordered) : String :=
  Text.quoted u.sign ++ " not supported between instances of " ++ Text.quoted u.left ++ " and "
    ++ Text.quoted u.right

/-- The position comes before the other. -/
def before (p q : Int × Int) : Bool :=
  p.1 < q.1 || (p.1 == q.1 && p.2 < q.2)

/-- The order of two numbers or of two texts, by the tests for each. A number that stands nowhere
is in no order with any other; where one of the texts is none of characters, the order is that of the
code points. -/
def ordered (sign : String) (numbers : Int × Int → Int × Int → Bool)
    (texts : String → String → Bool) (codes : List Nat → List Nat → Bool) (a b : Value) :
    Except Unordered Bool :=
  match a, b with
  | text s, text t => .ok (texts s t)
  | text s, unpaired u => .ok (codes (Text.codesOf s) u.codes)
  | unpaired u, text s => .ok (codes u.codes (Text.codesOf s))
  | unpaired u, unpaired v => .ok (codes u.codes v.codes)
  | _, _ =>
    if a.isNumber && b.isNumber then
      match a.position?, b.position? with
      | some p, some q => .ok (numbers p q)
      | _, _ => .ok false
    else .error ⟨sign, a.kindName, b.kindName⟩

/-- The first value is above the second. -/
def above (a b : Value) : Except Unordered Bool :=
  ordered ">" (fun p q => before q p) (fun s t => decide (t < s)) (fun s t => decide (t < s)) a b

/-- The first value is not above the second. -/
def atMost (a b : Value) : Except Unordered Bool :=
  ordered "<=" (fun p q => !before q p) (fun s t => !decide (t < s)) (fun s t => !decide (t < s)) a b

/-- The fields with one set: in its place if it is there, else at the end. -/
def setField (fields : List (String × Value)) (name : String) (value : Value) :
    List (String × Value) :=
  match fields with
  | [] => [(name, value)]
  | (other, old) :: rest =>
    if other == name then (name, value) :: rest else (other, old) :: setField rest name value

/-- No value, or a text of blanks only. -/
def isBlank : Value → Bool
  | null => true
  | text s => Text.isBlankText s
  | _ => false

/-- The integer that a value denotes: an integer itself, or any text of one. A truth value denotes
none. -/
def integer? : Value → Option Int
  | null | bool _ | unpaired _ => none
  | int n => some n
  | value => Number.integer? value.display

end Value
end Signpost
