import Signpost.Text.Encoding
import Signpost.Text.Split

/-!
# Queries

The query of a URL is a list of pairs, a key and a value. In it, a plus sign is a space, and a
percent sign with two hexadecimal digits is a byte of UTF-8. `decodePairs` reads a query and
`encodePairs` writes one in which every sign but the unreserved ones is escaped.
-/
namespace Signpost.Url

/-- The bytes of an ASCII text with its escapes put in. A percent sign without two digits is a
plain one. -/
def escapedBytes : List Char → List Nat
  | [] => []
  | '%' :: a :: b :: rest =>
    match Text.hexValue? a, Text.hexValue? b with
    | some high, some low => (16 * high + low) :: escapedBytes rest
    | _, _ => '%'.toNat :: escapedBytes (a :: b :: rest)
  | c :: rest => c.toNat :: escapedBytes rest

/-- The text with its escapes put in; the ASCII characters since the last other one stand in
reverse. Escapes make up characters only with other ASCII characters, and bytes that do not are
covered. -/
def unescapeAfter : List Char → List Char → List Char
  | run, [] => Text.decodeCovered (escapedBytes run.reverse)
  | run, c :: rest =>
    if c.toNat < 0x80 then unescapeAfter (c :: run) rest
    else Text.decodeCovered (escapedBytes run.reverse) ++ c :: unescapeAfter [] rest

/-- The text with its escapes put in. -/
def unescape (cs : List Char) : List Char :=
  unescapeAfter [] cs

/-- A key or a value of a query. -/
def decodeComponent (cs : List Char) : List Char :=
  unescape (cs.map fun c => if c = '+' then ' ' else c)

/-- A key and its value. -/
abbrev QueryPair := List Char × List Char

/-- The pair in a piece of a query; a key without a value has the empty one. -/
def decodePair (piece : List Char) : QueryPair :=
  let halves := Text.cut '=' piece
  (decodeComponent halves.1, decodeComponent halves.2)

/-- The pairs of a query without its mark. Empty pieces are no pairs. -/
def decodePairs (query : List Char) : List QueryPair :=
  ((Text.pieces '&' query).filter (!·.isEmpty)).map decodePair

/-- A character that stands for itself anywhere in a URL. -/
def isUnreserved (c : Char) : Bool :=
  Text.isAsciiLetter c || Text.isAsciiDigit c || c == '_' || c == '.' || c == '-' || c == '~'

/-- A hexadecimal digit, a capital if it is a letter. -/
def capitalHexDigit (digit : Nat) : Char :=
  if digit < 10 then Char.ofNat (0x30 + digit) else Char.ofNat (0x37 + digit)

/-- The escape of a byte. -/
def escapeByte (byte : Nat) : List Char :=
  ['%', capitalHexDigit (byte / 16), capitalHexDigit (byte % 16)]

/-- A character in a key or a value. -/
def encodeChar (c : Char) : List Char :=
  if isUnreserved c then [c] else (Text.utf8Bytes c).flatMap escapeByte

/-- A key or a value as a query has it. -/
def encodeComponent (cs : List Char) : List Char :=
  cs.flatMap encodeChar

/-- A pair as a query has it. -/
def encodePair (pair : QueryPair) : List Char :=
  encodeComponent pair.1 ++ '=' :: encodeComponent pair.2

/-- The query of pairs, without its mark. -/
def encodePairs (pairs : List QueryPair) : List Char :=
  Text.join '&' (pairs.map encodePair)

end Signpost.Url
