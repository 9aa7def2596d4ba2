import Signpost.Pattern.Fault
import Signpost.Pattern.Match
import Signpost.Pattern.Token
import Signpost.Text.Identifier
import Signpost.Text.Word

/-!
# Templates

The target of a pattern rule is a template: what its references stand for is put in their places.
Sheets write references with a dollar sign, and templates have references of their own, with a
backslash. `convert` brings the first kind into the form of the second; `Piece.ofText` reads the
second kind, and `expand` puts in what the groups of a match have matched.
-/
namespace Signpost.Pattern

/-- A reference with a dollar sign, or another character. -/
inductive Mark
  | dollar
  | whole
  | numbered (digits : List Char)
  | named (name : List Char)
  | plain (c : Char)
  deriving DecidableEq, Repr, Inhabited

namespace Mark

/-- The name in angle brackets in front of a text, and what follows the brackets. A name begins with
a letter of ASCII or an underscore. -/
def name? : List Char → Option (List Char × List Char)
  | '<' :: c :: rest =>
    if Text.isAsciiLetter c || c == '_' then
      match rest.dropWhile Text.isWord with
      | '>' :: after => some (c :: rest.takeWhile Text.isWord, after)
      | _ => none
    else none
  | _ => none

/-- The number in front of a text, of one digit or two, and what follows it. -/
def number? : List Char → Option (List Char × List Char)
  | c :: rest =>
    if 0x31 ≤ c.toNat && c.toNat ≤ 0x39 then
      match rest with
      | d :: after => if Text.isDigit d then some ([c, d], after) else some ([c], rest)
      | [] => some ([c], [])
    else none
  | [] => none

/-- The reference that a text after a dollar sign begins with, and what follows it. -/
def reference? (cs : List Char) : Option (Mark × List Char) :=
  match cs with
  | '$' :: rest => some (dollar, rest)
  | '&' :: rest => some (whole, rest)
  | _ =>
    match number? cs, name? cs with
    | some (digits, rest), _ => some (numbered digits, rest)
    | none, some (name, rest) => some (named name, rest)
    | none, none => none

theorem length_lt_of_name? {cs name rest : List Char} (h : name? cs = some (name, rest)) :
    rest.length < cs.length := by
  unfold name? at h
  split at h
  · rename_i c tail
    split at h
    · split at h
      · rename_i after hd
        have hsub : (tail.dropWhile Text.isWord).Sublist tail := List.dropWhile_sublist _
        have hlen := hsub.length_le
        simp only [Option.some.injEq, Prod.mk.injEq] at h
        rw [hd] at hlen
        simp only [List.length_cons] at hlen ⊢
        obtain ⟨_, rfl⟩ := h
        omega
      · simp at h
    · simp at h
  · simp at h

theorem length_lt_of_number? {cs digits rest : List Char} (h : number? cs = some (digits, rest)) :
    rest.length < cs.length := by
  unfold number? at h
  split at h
  · split at h
    · split at h
      · split at h <;>
        · simp only [Option.some.injEq, Prod.mk.injEq] at h
          obtain ⟨_, rfl⟩ := h
          simp only [List.length_cons]
          omega
      · simp only [Option.some.injEq, Prod.mk.injEq] at h
        obtain ⟨_, rfl⟩ := h
        simp
    · simp at h
  · simp at h

theorem length_lt_of_reference? {cs rest : List Char} {mark : Mark}
    (h : reference? cs = some (mark, rest)) : rest.length < cs.length := by
  unfold reference? at h
  split at h
  · simp only [Option.some.injEq, Prod.mk.injEq] at h
    simp [h.2]
  · simp only [Option.some.injEq, Prod.mk.injEq] at h
    simp [h.2]
  · cases hn : number? cs with
    | some read =>
      simp only [hn, Option.some.injEq, Prod.mk.injEq] at h
      exact h.2 ▸ length_lt_of_number? hn
    | none =>
      cases hm : name? cs with
      | some read =>
        simp only [hn, hm, Option.some.injEq, Prod.mk.injEq] at h
        exact h.2 ▸ length_lt_of_name? hm
      | none => simp [hn, hm] at h

/-- The marks of a text, from left to right. -/
def scan : List Char → List Mark
  | [] => []
  | c :: rest =>
    if c = '$' then
      match _h : reference? rest with
      | some (mark, after) => mark :: scan after
      | none => plain c :: scan rest
    else plain c :: scan rest
termination_by cs => cs.length
decreasing_by
  · have := length_lt_of_reference? _h
    simp only [List.length_cons]
    omega
  · simp
  · simp

/-- A group between angle brackets, with what stands in front of a reference to it. -/
def bracketed (name : List Char) : List Char :=
  ['\\', 'g', '<'] ++ name ++ ['>']

/-- The mark as a template writes it. -/
def written : Mark → List Char
  | dollar => ['$']
  | whole => bracketed ['0']
  | numbered digits => bracketed digits
  | named name => bracketed name
  | plain c => [c]

end Mark

/-- The template for a target: references with a dollar sign are written with a backslash. -/
def convert (target : List Char) : List Char :=
  (Mark.scan target).flatMap Mark.written

/-- A piece of a template: a character or a reference to a group. -/
inductive Piece
  | plain (c : Char)
  | group (number : Nat)
  deriving DecidableEq, Repr, Inhabited

namespace Piece

/-- The group of a pattern that has the name or the number. -/
def groupOf (expression : Expression) (name : List Char) : Except Fault Nat :=
  if Text.isIdentifier name then
    match expression.names.lookup (String.ofList name) with
    | some number => .ok number
    | none => .error .malformed
  else
    match Number.integer? (String.ofList name) with
    | some (n : Int) => if 0 ≤ n && n ≤ expression.groups then .ok n.toNat else .error .malformed
    | none => .error .malformed

/-- A reference by number. -/
def numbered (expression : Expression) (number : Nat) : Except Fault Piece :=
  if number ≤ expression.groups then .ok (group number) else .error .malformed

/-- The value of a digit of ASCII. -/
def digit (c : Char) : Nat := c.toNat - 0x30

/-- A digit of base eight. -/
def isOctal (c : Char) : Bool :=
  0x30 ≤ c.toNat && c.toNat ≤ 0x37

/-- The piece that a backslash with a digit begins, and the number of further tokens that belong
to it. A zero, or three digits of base eight, are the code of a character; other digits, of which
there are one or two, number a group. -/
def ofDigit (expression : Expression) (c : Char) (rest : List Token) :
    Except Fault (Piece × Nat) :=
  let next := rest.head?.bind fun token => match token with
    | .plain d => some d
    | _ => none
  let second := rest[1]?.bind fun token => match token with
    | .plain d => some d
    | _ => none
  if c == '0' then
    match next.filter isOctal, second.filter isOctal with
    | some d, some e => .ok (plain (Char.ofNat (8 * digit d + digit e)), 2)
    | some d, none => .ok (plain (Char.ofNat (digit d)), 1)
    | none, _ => .ok (plain (Char.ofNat 0), 0)
  else
    match next.filter Text.isAsciiDigit with
    | none => (numbered expression (digit c)).map fun piece => (piece, 0)
    | some d =>
      match second.filter fun e => isOctal c && isOctal d && isOctal e with
      | some e =>
        let code := 64 * digit c + 8 * digit d + digit e
        if code ≤ 0o377 then .ok (plain (Char.ofNat code), 2) else .error .malformed
      | none => (numbered expression (10 * digit c + digit d)).map fun piece => (piece, 1)

/-- What another character after a backslash stands for. A sign stands for itself with its
backslash; letters that stand for nothing are an error. -/
def ofSign (c : Char) : Except Fault (List Piece) :=
  match c with
  | 'a' => .ok [plain (Char.ofNat 0x07)]
  | 'b' => .ok [plain (Char.ofNat 0x08)]
  | 'f' => .ok [plain (Char.ofNat 0x0C)]
  | 'n' => .ok [plain (Char.ofNat 0x0A)]
  | 'r' => .ok [plain (Char.ofNat 0x0D)]
  | 't' => .ok [plain (Char.ofNat 0x09)]
  | 'v' => .ok [plain (Char.ofNat 0x0B)]
  | '\\' => .ok [plain '\\']
  | c => if Text.isAsciiLetter c then .error .malformed else .ok [plain '\\', plain c]

/-- The pieces of a template, from its tokens. -/
def ofTokens (expression : Expression) : List Token → Except Fault (List Piece)
  | [] => .ok []
  | .plain c :: rest => (ofTokens expression rest).map (plain c :: ·)
  | .dangling :: _ => .error .malformed
  | .escaped c :: rest =>
    if c = 'g' then
      match rest with
      | .plain '<' :: more =>
        let name := more.takeWhile (· != .plain '>')
        if name.length < more.length && !name.isEmpty then
          match groupOf expression (name.flatMap Token.text) with
          | .ok number =>
            (ofTokens expression (more.drop (name.length + 1))).map (group number :: ·)
          | .error fault => .error fault
        else .error .malformed
      | _ => .error .malformed
    else if Text.isAsciiDigit c then
      match ofDigit expression c rest with
      | .ok (piece, taken) => (ofTokens expression (rest.drop taken)).map (piece :: ·)
      | .error fault => .error fault
    else
      match ofSign c with
      | .ok pieces => (ofTokens expression rest).map (pieces ++ ·)
      | .error fault => .error fault
termination_by tokens => tokens.length
decreasing_by all_goals (simp [List.length_drop]; try omega)

/-- The pieces of a template for the matches of a pattern. -/
def ofText (expression : Expression) (template : List Char) : Except Fault (List Piece) :=
  ofTokens expression (Token.scan template)

/-- What a piece stands for in a match. -/
def expand (found : Match) : Piece → List Char
  | plain c => [c]
  | group number => found.group number

end Piece

/-- The template with its references replaced by what the groups have matched. -/
def expand (expression : Expression) (template : List Char) (found : Match) :
    Except Fault (List Char) :=
  (Piece.ofText expression template).map fun pieces => pieces.flatMap (Piece.expand found)

end Signpost.Pattern
