import Signpost.Text.Surrogate

/-!
# Encoded text

Request bodies arrive as bytes. The decoders turn the bytes of one of the Unicode encodings into text
and say where and why they cannot. Some of them let surrogates without their partners through, so that
what they find is given by code points.
-/
namespace Signpost.Text

/-- An encoding of text. -/
inductive Encoding
  | utf8
  | utf16 (bigEndian : Bool)
  | utf32 (bigEndian : Bool)
  deriving DecidableEq, Repr

/-- The name of an encoding, as messages give it. -/
def Encoding.name : Encoding → String
  | utf8 => "utf-8"
  | utf16 true => "utf-16-be"
  | utf16 false => "utf-16-le"
  | utf32 true => "utf-32-be"
  | utf32 false => "utf-32-le"

/-- Why bytes are no text. -/
inductive Fault
  | invalidStart
  | invalidContinuation
  | unexpectedEnd
  | truncated
  | outOfRange
  deriving DecidableEq, Repr

/-- What is said of a fault. -/
def Fault.message : Fault → String
  | invalidStart => "invalid start byte"
  | invalidContinuation => "invalid continuation byte"
  | unexpectedEnd => "unexpected end of data"
  | truncated => "truncated data"
  | outOfRange => "code point not in range(0x110000)"

/-- Bytes that are no text: the encoding, the place and number of the bytes at fault, the first of
them, and the fault. -/
structure Undecodable where
  encoding : Encoding
  start : Nat
  count : Nat
  byte : Nat
  fault : Fault
  deriving DecidableEq, Repr

/-- What is said of bytes that are no text. -/
def Undecodable.message (u : Undecodable) : String :=
  let place :=
    if u.count == 1 then
      "byte 0x" ++ String.ofList (hexDigits 2 u.byte) ++ " in position " ++ Number.decimal u.start
    else
      "bytes in position " ++ Number.decimal u.start ++ "-"
        ++ Number.decimal ((u.start + u.count : Nat) - 1 : Int)
  "'" ++ u.encoding.name ++ "' codec can't decode " ++ place ++ ": " ++ u.fault.message

/-- One step of a decoder: a code point and the number of its bytes, or the number of bytes at fault
and the fault. -/
abbrev Step := Except (Nat × Fault) (Nat × Nat)

/-- A byte that continues a character, in the range that its place allows. -/
def continues (low high byte : Nat) : Bool :=
  low ≤ byte && byte ≤ high

/-- The first character of UTF-8. -/
def stepUtf8 : List Nat → Step
  | [] => .error (0, .unexpectedEnd)
  | a :: rest =>
    if a < 0x80 then .ok (a, 1)
    else if a < 0xC2 || 0xF4 < a then .error (1, .invalidStart)
    else if a < 0xE0 then
      match rest with
      | [] => .error (1, .unexpectedEnd)
      | b :: _ =>
        if continues 0x80 0xBF b then .ok ((a - 0xC0) * 64 + (b - 0x80), 2)
        else .error (1, .invalidContinuation)
    else if a < 0xF0 then
      let low := if a == 0xE0 then 0xA0 else 0x80
      let high := if a == 0xED then 0x9F else 0xBF
      match rest with
      | [] => .error (1, .unexpectedEnd)
      | b :: rest =>
        if !continues low high b then .error (1, .invalidContinuation)
        else
          match rest with
          | [] => .error (2, .unexpectedEnd)
          | c :: _ =>
            if continues 0x80 0xBF c then
              .ok ((a - 0xE0) * 4096 + (b - 0x80) * 64 + (c - 0x80), 3)
            else .error (2, .invalidContinuation)
    else
      let low := if a == 0xF0 then 0x90 else 0x80
      let high := if a == 0xF4 then 0x8F else 0xBF
      match rest with
      | [] => .error (1, .unexpectedEnd)
      | b :: rest =>
        if !continues low high b then .error (1, .invalidContinuation)
        else
          match rest with
          | [] => .error (2, .unexpectedEnd)
          | c :: rest =>
            if !continues 0x80 0xBF c then .error (2, .invalidContinuation)
            else
              match rest with
              | [] => .error (3, .unexpectedEnd)
              | d :: _ =>
                if continues 0x80 0xBF d then
                  .ok ((a - 0xF0) * 262144 + (b - 0x80) * 4096 + (c - 0x80) * 64 + (d - 0x80), 4)
                else .error (3, .invalidContinuation)

/-- The first character of UTF-8, or the surrogate that its form would spell. -/
def stepUtf8Lenient (bytes : List Nat) : Step :=
  match bytes with
  | 0xED :: b :: c :: _ =>
    if continues 0xA0 0xBF b && continues 0x80 0xBF c then
      .ok (0xD000 + (b - 0x80) * 64 + (c - 0x80), 3)
    else stepUtf8 bytes
  | _ => stepUtf8 bytes

/-- Two bytes as a number. -/
def pair (bigEndian : Bool) (a b : Nat) : Nat :=
  if bigEndian then a * 256 + b else b * 256 + a

/-- The first character of UTF-16; a surrogate without its partner is let through. -/
def stepUtf16 (bigEndian : Bool) : List Nat → Step
  | [] => .error (0, .unexpectedEnd)
  | [_] => .error (1, .truncated)
  | a :: b :: rest =>
    let code := pair bigEndian a b
    if 0xD800 ≤ code && code ≤ 0xDBFF then
      match rest with
      | c :: d :: _ =>
        let low := pair bigEndian c d
        if 0xDC00 ≤ low && low ≤ 0xDFFF then
          .ok (0x10000 + (code - 0xD800) * 1024 + (low - 0xDC00), 4)
        else .ok (code, 2)
      | _ => .ok (code, 2)
    else .ok (code, 2)

/-- The first character of UTF-32; a surrogate is let through. -/
def stepUtf32 (bigEndian : Bool) : List Nat → Step
  | a :: b :: c :: d :: _ =>
    let high := if bigEndian then pair true a b else pair false c d
    let low := if bigEndian then pair true c d else pair false a b
    let code := high * 65536 + low
    if code < 0x110000 then .ok (code, 4) else .error (4, .outOfRange)
  | rest => .error (rest.length, .truncated)

/-- The code points that the steps find; the fuel bounds their number. -/
def decodeWith (encoding : Encoding) (step : List Nat → Step) :
    Nat → Nat → List Nat → Except Undecodable (List Nat)
  | 0, _, _ => .ok []
  | fuel + 1, position, bytes =>
    match bytes with
    | [] => .ok []
    | byte :: _ =>
      match step bytes with
      | .error (count, fault) => .error ⟨encoding, position, count, byte, fault⟩
      | .ok (code, size) =>
        (decodeWith encoding step fuel (position + size) (bytes.drop size)).map (code :: ·)

/-- The text of bytes in UTF-8. -/
def decodeUtf8 (bytes : List Nat) : Except Undecodable (List Char) :=
  (decodeWith .utf8 stepUtf8 bytes.length 0 bytes).map standIns

/-- The text of bytes in UTF-8 in which every fault is covered by one replacement character; the
fuel bounds the number of characters. -/
def coverFaults : Nat → List Nat → List Char
  | 0, _ => []
  | fuel + 1, bytes =>
    if bytes.isEmpty then []
    else
      match stepUtf8 bytes with
      | .error (count, _) => Char.ofNat 0xFFFD :: coverFaults fuel (bytes.drop count)
      | .ok (code, size) => Char.ofNat code :: coverFaults fuel (bytes.drop size)

/-- The text of bytes in UTF-8, faults covered. -/
def decodeCovered (bytes : List Nat) : List Char :=
  coverFaults bytes.length bytes

/-- The bytes of a character in UTF-8. -/
def utf8Bytes (c : Char) : List Nat :=
  let code := c.toNat
  if code < 0x80 then [code]
  else if code < 0x800 then [0xC0 + code / 64, 0x80 + code % 64]
  else if code < 0x10000 then [0xE0 + code / 4096, 0x80 + code / 64 % 64, 0x80 + code % 64]
  else [0xF0 + code / 262144, 0x80 + code / 4096 % 64, 0x80 + code / 64 % 64, 0x80 + code % 64]

/-- The bytes of a text in UTF-8. -/
def encodeUtf8 (cs : List Char) : List Nat :=
  cs.flatMap utf8Bytes

/-- The code points of bytes in a given encoding from a position on; surrogates are let through. -/
def decodeLenient (encoding : Encoding) (position : Nat) (bytes : List Nat) :
    Except Undecodable (List Nat) :=
  let step :=
    match encoding with
    | .utf8 => stepUtf8Lenient
    | .utf16 bigEndian => stepUtf16 bigEndian
    | .utf32 bigEndian => stepUtf32 bigEndian
  decodeWith encoding step bytes.length position bytes

/-- The code points of bytes whose encoding shows in a mark at their front, or else in the zeros among
the first four. -/
def decodeDetected (bytes : List Nat) : Except Undecodable (List Nat) :=
  match bytes with
  | 0 :: 0 :: 0xFE :: 0xFF :: rest => decodeLenient (.utf32 true) 4 rest
  | 0xFF :: 0xFE :: 0 :: 0 :: rest => decodeLenient (.utf32 false) 4 rest
  | 0xFE :: 0xFF :: rest => decodeLenient (.utf16 true) 2 rest
  | 0xFF :: 0xFE :: rest => decodeLenient (.utf16 false) 2 rest
  | 0xEF :: 0xBB :: 0xBF :: rest => decodeLenient .utf8 0 rest
  | a :: b :: c :: d :: _ =>
    let encoding : Encoding :=
      if a == 0 then if b == 0 then .utf32 true else .utf16 true
      else if b == 0 then if c == 0 && d == 0 then .utf32 false else .utf16 false
      else .utf8
    decodeLenient encoding 0 bytes
  | [a, b] =>
    decodeLenient (if a == 0 then .utf16 true else if b == 0 then .utf16 false else .utf8) 0 bytes
  | _ => decodeLenient .utf8 0 bytes

end Signpost.Text
