import Signpost.Text.Printable
import Signpost.Number.Integer

/-!
# Quoted text

A text inside quotes, as messages and nested values show it. Single quotes are used unless the text
holds one and no double quote. The quote, the backslash and unprintable characters are escaped.
-/
namespace Signpost.Text

/-- A hexadecimal digit. -/
def hexDigit (digit : Nat) : Char :=
  if digit < 10 then Char.ofNat (0x30 + digit) else Char.ofNat (0x57 + digit)

/-- The low hexadecimal digits of a number, `count` of them. -/
def hexDigits : Nat → Nat → List Char
  | 0, _ => []
  | count + 1, n => hexDigits count (n / 16) ++ [hexDigit (n % 16)]

/-- A character inside a quoted text. -/
def quotedChar (quote c : Char) : List Char :=
  let code := c.toNat
  if c == quote || c == '\\' then ['\\', c]
  else if c == '\t' then ['\\', 't']
  else if c == '\n' then ['\\', 'n']
  else if c == '\r' then ['\\', 'r']
  else if isPrintable c then [c]
  else if code < 0x100 then '\\' :: 'x' :: hexDigits 2 code
  else if code < 0x10000 then '\\' :: 'u' :: hexDigits 4 code
  else '\\' :: 'U' :: hexDigits 8 code

/-- The quote that a text is put in. -/
def quoteFor (cs : List Char) : Char :=
  if cs.any (·.toNat == 0x27) && !cs.contains '"' then '"' else Char.ofNat 0x27

/-- The text in quotes. -/
def quoted (s : String) : String :=
  let quote := quoteFor s.toList
  String.ofList (quote :: s.toList.flatMap (quotedChar quote) ++ [quote])

end Signpost.Text
