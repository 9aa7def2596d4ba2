import Signpost.Number.Integer
import Signpost.Text.Case
import Signpost.Text.Quoted
import Signpost.Url.Address

/-!
# The parts of a URL

`Parts.split` takes a URL apart into scheme, authority, path and query; the fragment is dropped.
Characters that no URL holds are removed first. `Authority` reads the host and the port of an
authority.
-/
namespace Signpost.Url

/-- Why a URL cannot be read. -/
inductive Malformed
  | unbalancedBracket
  | futureAddress
  | bracketedAddress4
  | notAnAddress (host : String)
  | hiddenDelimiter (authority : String)
  | portNotANumber (port : String)
  | portTooLong (digits : Nat)
  | portOutOfRange
  deriving DecidableEq, Repr

/-- What is said of a URL that cannot be read. -/
def Malformed.message : Malformed → String
  | unbalancedBracket => "Invalid IPv6 URL"
  | futureAddress => "IPvFuture address is invalid"
  | bracketedAddress4 => "An IPv4 address cannot be in brackets"
  | notAnAddress host => Text.quoted host ++ " does not appear to be an IPv4 or IPv6 address"
  | hiddenDelimiter authority =>
    "netloc '" ++ authority ++ "' contains invalid characters under NFKC normalization"
  | portNotANumber port => "Port could not be cast to integer value as " ++ Text.quoted port
  | portTooLong digits =>
    "Exceeds the limit (4300 digits) for integer string conversion: value has "
      ++ Number.decimal digits ++ " digits; use sys.set_int_max_str_digits() to increase the limit"
  | portOutOfRange => "Port out of range 0-65535"

/-- The parts of a URL; an absent part is empty. -/
structure Parts where
  scheme : List Char
  authority : List Char
  path : List Char
  query : List Char
  deriving DecidableEq, Repr

/-- A control character or a space, which is dropped at the front of a URL. -/
def isLeadingJunk (c : Char) : Bool :=
  c.toNat ≤ 0x20

/-- A character that is dropped wherever it stands. -/
def isLineBreakOrTab (c : Char) : Bool :=
  c == '\t' || c == '\n' || c == '\r'

/-- The URL without the characters that are dropped. -/
def clean (cs : List Char) : List Char :=
  (cs.dropWhile isLeadingJunk).filter (!isLineBreakOrTab ·)

/-- A character of a scheme. -/
def isSchemeChar (c : Char) : Bool :=
  Text.isAsciiLetter c || Text.isAsciiDigit c || c == '+' || c == '-' || c == '.'

/-- The scheme in lower case and what follows its colon. -/
def scheme? (cs : List Char) : Option (List Char × List Char) :=
  match Text.cut? ':' cs with
  | some (scheme, rest) =>
    if (scheme.head?.map Text.isAsciiLetter).getD false && scheme.all isSchemeChar then
      some (scheme.map Text.toAsciiLower, rest)
    else none
  | none => none

/-- A character that ends an authority. -/
def endsAuthority (c : Char) : Bool :=
  c == '/' || c == '?' || c == '#'

/-- Characters whose compatibility form holds a delimiter of URLs. -/
def delimiterLookalikes : List Nat :=
  [0x2047, 0x2048, 0x2049, 0x2100, 0x2101, 0x2105, 0x2106, 0x2A74, 0xFE13, 0xFE16, 0xFE55, 0xFE56,
    0xFE5F, 0xFE6B, 0xFF03, 0xFF0F, 0xFF1A, 0xFF1F, 0xFF20]

/-- The text is an address of the newer kind, as a host in brackets has to be. -/
def checkAddress (host : List Char) : Except Malformed Unit :=
  if host.head? == some 'v' then
    if isFutureAddress host then .ok () else .error .futureAddress
  else if isAddress4 host then .error .bracketedAddress4
  else if isAddress6 host then .ok ()
  else .error (.notAnAddress (String.ofList host))

/-- Brackets in an authority come in pairs and hold an address, with at most a port after them.
Where they stand before the host, the host itself has to be an address. -/
def checkBrackets (authority : List Char) : Except Malformed Unit :=
  match authority.contains '[', authority.contains ']' with
  | false, false => .ok ()
  | true, true =>
    let info := Text.afterLast '@' authority
    match Text.cut? '[' info with
    | none => checkAddress (Text.cut ':' info).1
    | some (before, bracketed) =>
      let (host, after) := Text.cut ']' bracketed
      if before.isEmpty && after.head?.all (· == ':') then checkAddress host
      else .error .unbalancedBracket
  | _, _ => .error .unbalancedBracket

/-- The authority holds no delimiter in disguise. -/
def checkLookalikes (authority : List Char) : Except Malformed Unit :=
  if authority.any (delimiterLookalikes.contains ·.toNat) then
    .error (.hiddenDelimiter (String.ofList authority))
  else .ok ()

/-- The authority after two slashes, and the rest. -/
def authorityAndRest : List Char → List Char × List Char
  | '/' :: '/' :: rest =>
    (rest.takeWhile (!endsAuthority ·), rest.dropWhile (!endsAuthority ·))
  | cs => ([], cs)

namespace Parts

/-- The parts of a URL, with the scheme that holds if it names none. -/
def split (scheme : List Char) (url : List Char) : Except Malformed Parts := do
  let cs := clean url
  let (scheme, cs) := (scheme? cs).getD (scheme, cs)
  let (authority, rest) := authorityAndRest cs
  checkBrackets authority
  let (path, query) := Text.cut '?' (Text.cut '#' rest).1
  checkLookalikes authority
  return ⟨scheme, authority, path, query⟩

end Parts

/-- The host and the port that an authority names; no port is the empty text. -/
def hostAndPort (authority : List Char) : List Char × List Char :=
  let info := Text.afterLast '@' authority
  match Text.cut? '[' info with
  | some (_, bracketed) =>
    let (host, rest) := Text.cut ']' bracketed
    (host, (Text.cut ':' rest).2)
  | none => Text.cut ':' info

/-- The host in lower case; the zone of an address keeps its case. -/
def lowerHost (host : List Char) : List Char :=
  match Text.cut? '%' host with
  | some (name, zone) => Text.lowerText name ++ '%' :: zone
  | none => Text.lowerText host

/-- The number of a port. -/
def portNumber (port : List Char) : Except Malformed (Option Nat) :=
  if port.isEmpty then .ok none
  else if !port.all Text.isAsciiDigit then .error (.portNotANumber (String.ofList port))
  else if port.length > Number.digitLimit then .error (.portTooLong port.length)
  else
    let number := Number.ofDigits (port.map fun c => c.toNat - 0x30)
    if number ≤ 65535 then .ok (some number) else .error .portOutOfRange

/-- The host of an authority, followed by its port if it names one. -/
def hostOfAuthority (authority : List Char) : Except Malformed (List Char) := do
  let (host, port) := hostAndPort authority
  match ← portNumber port with
  | some number => return lowerHost host ++ ':' :: Number.naturalDigits number
  | none => return lowerHost host

end Signpost.Url
