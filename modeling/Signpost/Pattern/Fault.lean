import Signpost.Number.Integer

/-!
# Faults of patterns

A pattern or a template that is malformed is passed over. A pattern whose numbers are too large, that
asks for two alphabets at once, or that is nested too deep to be read, cannot be passed over.
-/
namespace Signpost.Pattern

/-- Why a pattern or a template cannot be used. -/
inductive Fault
  | malformed
  | repetitionTooLarge
  | numeralTooLong (digits : Nat)
  | alphabetsClash
  | tooDeep
  deriving DecidableEq, Repr, Inhabited

/-- What is said of a fault. -/
def Fault.message : Fault → String
  | malformed => "malformed pattern"
  | repetitionTooLarge => "the repetition number is too large"
  | numeralTooLong digits => Number.longNumeralMessage digits
  | alphabetsClash => "ASCII and UNICODE flags are incompatible"
  | tooDeep => "maximum recursion depth exceeded"

end Signpost.Pattern
