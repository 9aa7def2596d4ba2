import Signpost.Text.Digit
import Signpost.Text.Split

/-!
# Numeric addresses

The host part of a URL may be an address in brackets. This module says which texts are addresses of
version 4, of version 6, or of a version still to come.
-/
namespace Signpost.Url

/-- One of the four numbers of a version 4 address: at most 255, without leading zeros. -/
def isOctet (cs : List Char) : Bool :=
  !cs.isEmpty && cs.length ≤ 3 && cs.all Text.isAsciiDigit && (cs == ['0'] || cs.head? != some '0')
    && cs.foldl (fun n c => 10 * n + (c.toNat - 0x30)) 0 ≤ 255

/-- An address of version 4. -/
def isAddress4 (cs : List Char) : Bool :=
  let octets := Text.pieces '.' cs
  octets.length == 4 && octets.all isOctet

/-- One of the eight groups of a version 6 address. -/
def isGroup (cs : List Char) : Bool :=
  !cs.isEmpty && cs.length ≤ 4 && cs.all Text.isHexDigit

/-- The groups of a version 6 address, its last two possibly written as a version 4 address. -/
def groups? (cs : List Char) : Option (List (List Char)) :=
  let parts := Text.pieces ':' cs
  let last := parts.getLast?.getD []
  if parts.length < 3 then none
  else if last.contains '.' then
    if isAddress4 last then some (parts.dropLast ++ [['0'], ['0']]) else none
  else some parts

/-- The groups beside a gap: an empty one is allowed only where the text begins or ends. -/
def isSide (groups : List (List Char)) : Bool :=
  groups == [[]] || groups.all isGroup

/-- The groups on the two sides of the gap, which stands for one group of zeros or more. -/
def isGapped (before after : List (List Char)) : Bool :=
  let count (side : List (List Char)) := if side == [[]] then 0 else side.length
  isSide before && isSide after && count before + count after < 8

/-- Eight groups, or fewer with one gap among them. -/
def areGroups (parts : List (List Char)) : Bool :=
  let inner := parts.drop 1 |>.dropLast
  match inner.idxOf? [] with
  | none => parts.length == 8 && parts.all isGroup
  | some gap =>
    parts.length ≤ 9 && isGapped (parts.take (gap + 1)) (parts.drop (gap + 2))

/-- An address of version 6, which may name its zone after a percent sign. -/
def isAddress6 (cs : List Char) : Bool :=
  match Text.cut? '%' cs with
  | some (address, zone) =>
    !zone.isEmpty && !zone.contains '%' && ((groups? address).map areGroups).getD false
  | none => ((groups? cs).map areGroups).getD false

/-- An address of a version still to come: a version in hexadecimal, a dot, and something. -/
def isFutureAddress (cs : List Char) : Bool :=
  match cs with
  | 'v' :: rest =>
    match Text.cut? '.' rest with
    | some (version, address) =>
      !version.isEmpty && version.all Text.isHexDigit && !address.isEmpty
    | none => false
  | _ => false

end Signpost.Url
