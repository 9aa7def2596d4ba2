import Signpost.Number.Integer

/-!
# Calendar

An instant is a number of seconds since the beginning of 1970, in universal time. `isoText` writes
it as a date and a time of the Gregorian calendar, which is taken back to the year 1 and on to 9999.
-/
namespace Signpost.Number

/-- A day of the Gregorian calendar. -/
structure Day where
  year : Int
  month : Nat
  day : Nat
  deriving DecidableEq, Repr, Inhabited

/-- The day a number of days after the first of 1970. Years are counted from March on, in cycles of
400 years, so that the leap day comes last. -/
def dayOf (days : Int) : Day :=
  let shifted := days + 719468
  let cycle := Int.fdiv shifted 146097
  let ofCycle := Int.toNat (Int.fmod shifted 146097)
  let yearOfCycle := (ofCycle - ofCycle / 1460 + ofCycle / 36524 - ofCycle / 146096) / 365
  let ofYear := ofCycle - (365 * yearOfCycle + yearOfCycle / 4 - yearOfCycle / 100)
  let march := (5 * ofYear + 2) / 153
  let day := ofYear - (153 * march + 2) / 5 + 1
  let month := if march < 10 then march + 3 else march - 9
  ⟨cycle * 400 + yearOfCycle + (if month ≤ 2 then 1 else 0), month, day⟩

/-- Why an instant has no date. -/
inductive UndatedInstant
  | yearOutOfRange (year : Int)
  | unrepresentable
  | outOfRange
  deriving DecidableEq, Repr, Inhabited

/-- What is said of an instant without a date. -/
def UndatedInstant.message : UndatedInstant → String
  | yearOutOfRange year => "year " ++ decimal year ++ " is out of range"
  | unrepresentable => "[Errno 75] Value too large for defined data type"
  | outOfRange => "timestamp out of range for platform time_t"

/-- A number with zeros in front of it. -/
def padded (width n : Nat) : String :=
  let digits := naturalDigits n
  String.ofList (List.replicate (width - digits.length) '0' ++ digits)

/-- The date and time of an instant. -/
def isoText (seconds : Int) : Except UndatedInstant String :=
  let day := dayOf (Int.fdiv seconds 86400)
  let ofDay := Int.toNat (Int.fmod seconds 86400)
  let bound (bits : Nat) : Int := powerOfTwo bits
  if seconds < -bound 63 || bound 63 ≤ seconds then .error .outOfRange
  else if day.year - 1900 < -bound 31 || bound 31 ≤ day.year - 1900 then .error .unrepresentable
  else if day.year < 1 || 9999 < day.year then .error (.yearOutOfRange day.year)
  else
    .ok (padded 4 day.year.toNat ++ "-" ++ padded 2 day.month ++ "-" ++ padded 2 day.day ++ "T"
      ++ padded 2 (ofDay / 3600) ++ ":" ++ padded 2 (ofDay / 60 % 60) ++ ":" ++ padded 2 (ofDay % 60)
      ++ "+00:00")

end Signpost.Number
