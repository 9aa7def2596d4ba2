import Signpost.Text.Quoted

/-!
# Surrogates

A surrogate stands for a character only together with its partner. A text in which one stands alone
is no text of characters, and it has a type of its own, `Unpaired`: it can be told from other texts
and shown in quotes, but it cannot be encoded.
-/
namespace Signpost.Text

/-- A code point between the characters, a surrogate. -/
def isSurrogate (code : Nat) : Bool :=
  0xD800 ≤ code && code ≤ 0xDFFF

/-- A text in which a surrogate stands without its partner, by its code points. -/
structure Unpaired where
  codes : List Nat
  broken : codes.any isSurrogate = true
  deriving DecidableEq, Repr

/-- The text of code points, unless there is a surrogate among them. -/
def ofCodes (codes : List Nat) : Except Unpaired String :=
  if broken : codes.any isSurrogate = true then .error ⟨codes, broken⟩
  else .ok (String.ofList (codes.map Char.ofNat))

/-- The code points of a text. -/
def codesOf (s : String) : List Nat :=
  s.toList.map (·.toNat)

/-- The characters of code points, with a stand-in for each surrogate. -/
def standIns (codes : List Nat) : List Char :=
  codes.map Char.ofNat

/-- The surrogates among code points, each under its place. -/
def straysOf (codes : List Nat) : List (Nat × Nat) :=
  (codes.zipIdx.filter fun entry => isSurrogate entry.1).map Prod.swap

theorem any_dropWhile {test found : α → Bool} (apart : ∀ item, found item = true → test item = false)
    {items : List α} (some : items.any found = true) : (items.dropWhile test).any found = true := by
  induction items with
  | nil => cases some
  | cons item rest ih =>
    cases passed : test item with
    | false => rwa [List.dropWhile_cons_of_neg (by simp [passed])]
    | true =>
      have notFound : found item = false := by
        cases here : found item with
        | false => rfl
        | true => exact absurd (apart item here) (by simp [passed])
      rw [List.dropWhile_cons_of_pos passed]
      exact ih (by simpa [notFound] using some)

namespace Unpaired

/-- The code point is that of a blank. -/
def isBlankCode (code : Nat) : Bool :=
  !isSurrogate code && isBlank (Char.ofNat code)

theorem isBlankCode_of_surrogate (code : Nat) (surrogate : isSurrogate code = true) :
    isBlankCode code = false := by
  simp [isBlankCode, surrogate]

/-- The text without the blanks at either end. -/
def strip (u : Unpaired) : Unpaired where
  codes := dropEndWhile isBlankCode (u.codes.dropWhile isBlankCode)
  broken := by
    have front := any_dropWhile isBlankCode_of_surrogate u.broken
    rw [dropEndWhile, List.any_reverse]
    exact any_dropWhile isBlankCode_of_surrogate (by rwa [List.any_reverse])

/-- The text in quotes; surrogates are escaped. -/
def quoted (u : Unpaired) : String :=
  let quote := if u.codes.contains 0x27 && !u.codes.contains 0x22 then '"' else Char.ofNat 0x27
  let inside (code : Nat) : List Char :=
    if isSurrogate code then '\\' :: 'u' :: hexDigits 4 code
    else quotedChar quote (Char.ofNat code)
  String.ofList (quote :: u.codes.flatMap inside ++ [quote])

/-- What is said of the text where it has to be encoded: where the first surrogates stand in it. -/
def message (u : Unpaired) : String :=
  let start := (u.codes.takeWhile (!isSurrogate ·)).length
  let run := (u.codes.drop start).takeWhile isSurrogate
  let place :=
    match run with
    | [code] =>
      "character '\\u" ++ String.ofList (hexDigits 4 code) ++ "' in position "
        ++ Number.decimal start
    | _ =>
      "characters in position " ++ Number.decimal start ++ "-"
        ++ Number.decimal ((start + run.length : Nat) - 1 : Int)
  "'utf-8' codec can't encode " ++ place ++ ": surrogates not allowed"

end Unpaired
end Signpost.Text
