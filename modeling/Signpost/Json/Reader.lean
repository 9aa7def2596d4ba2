import Signpost.Text.Encoding
import Signpost.Value

/-!
# Reading JSON

`read` takes one JSON document, with `NaN`, `Infinity` and `-Infinity` as numbers besides, and
blanks around it. An error carries the place where reading stopped; `Json.Error.message` gives its
line and column. The readers pass down what is left of the text and the place where it begins; their
fuel is a bound on the steps that a text of that length can take, and `limit` is the deepest nesting
that they enter.

A text in a document may spell a surrogate without its partner, or have one in it: the document is then
read with stand-ins, and `strays` holds the surrogates under their places. As a value such a text is one
of its own kind; a name is always a text of characters, and a document with another one is told apart by
an error.
-/
namespace Signpost.Json

/-- Why a text is not a JSON document. -/
inductive Cause
  | byteOrderMark
  | value
  | name
  | colon
  | comma
  | controlCharacter
  | unterminated
  | badEscape
  | badUnicodeEscape
  | extraData
  deriving DecidableEq, Repr

/-- What is said of a cause. -/
def Cause.message : Cause → String
  | byteOrderMark => "Unexpected UTF-8 BOM (decode using utf-8-sig)"
  | value => "Expecting value"
  | name => "Expecting property name enclosed in double quotes"
  | colon => "Expecting ':' delimiter"
  | comma => "Expecting ',' delimiter"
  | controlCharacter => "Invalid control character at"
  | unterminated => "Unterminated string starting at"
  | badEscape => "Invalid \\escape"
  | badUnicodeEscape => "Invalid \\uXXXX escape"
  | extraData => "Extra data"

/-- An error of the reader: a fault of the document at a place, a numeral that is too long, nesting
that is too deep, or a name that is no text of characters. -/
inductive Error
  | fault (cause : Cause) (place : Nat)
  | longNumeral (digits : Nat)
  | deepList
  | deepObject
  | unpairedName
  deriving DecidableEq, Repr

/-- The line of a place, and the column in it; both count from one. -/
def lineAndColumn (text : List Char) (place : Nat) : Nat × Nat :=
  (text.take place).foldl
    (fun at_ c => if c == '\n' then (at_.1 + 1, 1) else (at_.1, at_.2 + 1)) (1, 1)

/-- What is said of an error in a text. -/
def Error.message (text : List Char) : Error → String
  | fault cause place =>
    let (line, column) := lineAndColumn text place
    cause.message ++ ": line " ++ Number.decimal line ++ " column " ++ Number.decimal column
      ++ " (char " ++ Number.decimal place ++ ")"
  | longNumeral digits => Number.longNumeralMessage digits
  | deepList => "maximum recursion depth exceeded while decoding a JSON array from a unicode string"
  | deepObject =>
    "maximum recursion depth exceeded while decoding a JSON object from a unicode string"
  | unpairedName => "a name is no text of characters"

/-- What a reader has read, what is left, and the place where that begins. -/
structure Read (α : Type) where
  result : α
  rest : List Char
  place : Nat

/-- A blank of JSON. -/
def isSpace (c : Char) : Bool :=
  c == ' ' || c == '\t' || c == '\n' || c == '\r'

/-- The text without the blanks at its front. -/
def skip : List Char → Nat → List Char × Nat
  | c :: rest, place => if isSpace c then skip rest (place + 1) else (c :: rest, place)
  | [], place => ([], place)

/-- The character that an escape of one letter stands for. -/
def escaped? (c : Char) : Option Char :=
  if c == '"' || c == '\\' || c == '/' then some c
  else if c == 'b' then some (Char.ofNat 8)
  else if c == 'f' then some (Char.ofNat 12)
  else if c == 'n' then some '\n'
  else if c == 'r' then some '\r'
  else if c == 't' then some '\t'
  else none

/-- The code of four hexadecimal digits. -/
def hex4? (a b c d : Char) : Option Nat := do
  return (((← Text.hexValue? a) * 16 + (← Text.hexValue? b)) * 16 + (← Text.hexValue? c)) * 16
    + (← Text.hexValue? d)

section

-- The surrogates in the text, under their places.
variable (strays : List (Nat × Nat))

/-- The code points of the rest of a text after its opening quote, which stands at `start`. Those read
so far stand in reverse. -/
def stringBody (start : Nat) :
    Nat → List Char → Nat → List Nat → Except Error (Read (List Nat))
  | 0, _, _, _ => .error (.fault .unterminated start)
  | _ + 1, [], _, _ => .error (.fault .unterminated start)
  | fuel + 1, '"' :: rest, place, read =>
    let _ := fuel
    .ok ⟨read.reverse, rest, place + 1⟩
  | _ + 1, ['\\'], _, _ => .error (.fault .unterminated start)
  | fuel + 1, '\\' :: 'u' :: rest, place, read =>
    match rest with
    | a :: b :: c :: d :: rest@(_ :: _) =>
      match hex4? a b c d with
      | none => .error (.fault .badUnicodeEscape (place + 1))
      | some code =>
        if 0xD800 ≤ code && code ≤ 0xDBFF then
          match rest with
          | '\\' :: 'u' :: e :: f :: g :: h :: after@(_ :: _) =>
            match hex4? e f g h with
            | none => .error (.fault .badUnicodeEscape (place + 7))
            | some low =>
              if 0xDC00 ≤ low && low ≤ 0xDFFF then
                let whole := 0x10000 + (code - 0xD800) * 1024 + (low - 0xDC00)
                stringBody start fuel after (place + 12) (whole :: read)
              else stringBody start fuel rest (place + 6) (code :: read)
          | _ => stringBody start fuel rest (place + 6) (code :: read)
        else stringBody start fuel rest (place + 6) (code :: read)
    | _ => .error (.fault .badUnicodeEscape (place + 1))
  | fuel + 1, '\\' :: c :: rest, place, read =>
    match escaped? c with
    | some char => stringBody start fuel rest (place + 2) (char.toNat :: read)
    | none => .error (.fault .badEscape place)
  | fuel + 1, c :: rest, place, read =>
    match strays.lookup place with
    | some code => stringBody start fuel rest (place + 1) (code :: read)
    | none =>
      if c.toNat < 0x20 then .error (.fault .controlCharacter place)
      else stringBody start fuel rest (place + 1) (c.toNat :: read)

/-- The code points of the text after an opening quote. -/
def string (cs : List Char) (place : Nat) : Except Error (Read (List Nat)) :=
  stringBody strays (place - 1) (cs.length + 1) cs place []

end

/-- The text of code points as a value. -/
def textValue (codes : List Nat) : Value :=
  match Text.ofCodes codes with
  | .ok s => .text s
  | .error u => .unpaired u

/-- The name of code points. -/
def nameOf (codes : List Nat) : Except Error String :=
  (Text.ofCodes codes).mapError fun _ => .unpairedName

/-- The digits at the front of a text, and the rest. -/
def digits (cs : List Char) : List Char × List Char :=
  (cs.takeWhile Text.isAsciiDigit, cs.dropWhile Text.isAsciiDigit)

/-- The digits after a point, if there is one with digits after it. -/
def fraction (cs : List Char) : List Char × List Char :=
  match cs with
  | '.' :: rest =>
    let (found, after) := digits rest
    if found.isEmpty then ([], cs) else (found, after)
  | _ => ([], cs)

/-- The exponent, if there is one with digits. -/
def exponent (cs : List Char) : Option Int × List Char :=
  match cs with
  | e :: rest =>
    if e == 'e' || e == 'E' then
      let (negative, rest) :=
        match rest with
        | '-' :: after => (true, after)
        | '+' :: after => (false, after)
        | _ => (false, rest)
      let (found, after) := digits rest
      if found.isEmpty then (none, cs)
      else
        let size : Int := Number.ofDigits (found.map fun c => c.toNat - 0x30)
        (some (if negative then -size else size), after)
    else (none, cs)
  | [] => (none, cs)

/-- The integer digits of a number: a zero, or digits that do not begin with one. -/
def wholePart (cs : List Char) : Option (List Char × List Char) :=
  match cs with
  | '0' :: rest => some (['0'], rest)
  | c :: _ => if Text.isAsciiDigit c then some (digits cs) else none
  | [] => none

/-- A number without the words for those that no digits denote. -/
def number (cs : List Char) (place : Nat) : Except Error (Read Value) :=
  let (negative, body) :=
    match cs with
    | '-' :: rest => (true, rest)
    | _ => (false, cs)
  match wholePart body with
  | none => .error (.fault .value place)
  | some (whole, rest) =>
    let (decimals, rest) := fraction rest
    let (power, rest) := exponent rest
    let after := place + (cs.length - rest.length)
    let magnitude := Number.ofDigits ((whole ++ decimals).map fun c => c.toNat - 0x30)
    if decimals.isEmpty && power.isNone then
      if whole.length > Number.digitLimit then .error (.longNumeral whole.length)
      else .ok ⟨.int (if negative then -(magnitude : Int) else magnitude), rest, after⟩
    else
      let scale := power.getD 0 - decimals.length
      .ok ⟨.real (Number.Binary64.ofDecimal negative magnitude scale), rest, after⟩

/-- The words for values, with their values. -/
def words : List (List Char × Value) :=
  [("null".toList, .null), ("true".toList, .bool true), ("false".toList, .bool false),
    ("NaN".toList, .real .nan), ("Infinity".toList, .real (.infinite false)),
    ("-Infinity".toList, .real (.infinite true))]

/-- A word or a number. -/
def plain (cs : List Char) (place : Nat) : Except Error (Read Value) :=
  match words.find? fun word => word.1.isPrefixOf cs with
  | some (word, value) => .ok ⟨value, cs.drop word.length, place + word.length⟩
  | none => number cs place

section

-- The surrogates in the text, and the deepest nesting that is entered.
variable (strays : List (Nat × Nat)) (limit : Nat)

mutual

/-- A value, with no blanks in front. -/
def value (fuel depth : Nat) (cs : List Char) (place : Nat) : Except Error (Read Value) :=
  match fuel with
  | 0 => .error (.fault .value place)
  | fuel + 1 =>
    match cs with
    | '"' :: rest => do
      let read ← string strays rest (place + 1)
      return ⟨textValue read.result, read.rest, read.place⟩
    | '[' :: rest =>
      if depth ≥ limit then .error .deepList
      else
        let (rest, place) := skip rest (place + 1)
        match rest with
        | ']' :: rest => .ok ⟨.list [], rest, place + 1⟩
        | _ => do
          let read ← items fuel (depth + 1) rest place
          return ⟨.list read.result, read.rest, read.place⟩
    | '\x7b' :: rest =>
      if depth ≥ limit then .error .deepObject
      else
        let (rest, place) := skip rest (place + 1)
        match rest with
        | '\x7d' :: rest => .ok ⟨.object [], rest, place + 1⟩
        | _ => do
          let read ← members fuel (depth + 1) rest place []
          return ⟨.object read.result, read.rest, read.place⟩
    | _ => plain cs place

/-- The items of a list up to its closing bracket. -/
def items (fuel depth : Nat) (cs : List Char) (place : Nat) : Except Error (Read (List Value)) :=
  match fuel with
  | 0 => .error (.fault .value place)
  | fuel + 1 => do
    let first ← value fuel depth cs place
    let (rest, place) := skip first.rest first.place
    match rest with
    | ']' :: rest => return ⟨[first.result], rest, place + 1⟩
    | ',' :: rest => do
      let (rest, place) := skip rest (place + 1)
      let others ← items fuel depth rest place
      return ⟨first.result :: others.result, others.rest, others.place⟩
    | _ => .error (.fault .comma place)

/-- The members of an object up to its closing brace; a name that comes again takes the later value
in the earlier place. -/
def members (fuel depth : Nat) (cs : List Char) (place : Nat) (fields : List (String × Value)) :
    Except Error (Read (List (String × Value))) :=
  match fuel with
  | 0 => .error (.fault .value place)
  | fuel + 1 =>
    match cs with
    | '"' :: rest => do
      let name ← string strays rest (place + 1)
      let (rest, place) := skip name.rest name.place
      match rest with
      | ':' :: rest => do
        let (rest, place) := skip rest (place + 1)
        let member ← value fuel depth rest place
        let fields := Value.setField fields (← nameOf name.result) member.result
        let (rest, place) := skip member.rest member.place
        match rest with
        | '\x7d' :: rest => return ⟨fields, rest, place + 1⟩
        | ',' :: rest =>
          let (rest, place) := skip rest (place + 1)
          members fuel depth rest place fields
        | _ => .error (.fault .comma place)
      | _ => .error (.fault .colon place)
    | _ => .error (.fault .name place)

end

/-- The value of a JSON document that is nested no deeper than the limit. -/
def readWith (text : List Char) : Except Error Value :=
  if (text.head?.map (·.toNat == 0xFEFF)).getD false then .error (.fault .byteOrderMark 0)
  else do
    let (cs, place) := skip text 0
    let read ← value strays limit (2 * text.length + 2) 0 cs place
    let (rest, place) := skip read.rest read.place
    if rest.isEmpty then return read.result else .error (.fault .extraData place)

end

/-- The value of a document of characters. -/
def read (limit : Nat) (text : List Char) : Except Error Value :=
  readWith [] limit text

/-- The value of a document of code points, surrogates among them. -/
def readCodes (limit : Nat) (codes : List Nat) : Except Error Value :=
  readWith (Text.straysOf codes) limit (Text.standIns codes)

end Signpost.Json
