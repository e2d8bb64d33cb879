import EventLedger.Number.Bounds
import EventLedger.Text.Decimal

namespace EventLedger

inductive IntegerProblem where
  | empty
  | invalidDigit
  | tooLarge
  | tooSmall
deriving DecidableEq, Repr

def IntegerProblem.message : IntegerProblem → String
  | empty => "cannot parse integer from empty string"
  | invalidDigit => "invalid digit found in string"
  | tooLarge => "number too large to fit in target type"
  | tooSmall => "number too small to fit in target type"

namespace Text

def boundedDigits (bound : Nat) (beyond : IntegerProblem) (n : Nat) :
    List Char → Except IntegerProblem Nat
  | [] => .ok n
  | c :: cs =>
    match digitValue? c with
    | none => .error .invalidDigit
    | some d =>
      if bound < 10 * n + d then .error beyond else boundedDigits bound beyond (10 * n + d) cs

/-- The integer between `low` and `high` that a text denotes: an optional sign and digits. There is
    no minus sign where no negative number is allowed. -/
def parseInteger (low high : Int) (s : String) : Except IntegerProblem Int :=
  match s.toList with
  | [] => .error .empty
  | ['+'] | ['-'] => .error .invalidDigit
  | '+' :: ds => (boundedDigits high.toNat .tooLarge 0 ds).map Int.ofNat
  | '-' :: ds =>
    if low < 0 then (boundedDigits low.natAbs .tooSmall 0 ds).map fun n => -(n : Int)
    else .error .invalidDigit
  | ds => (boundedDigits high.toNat .tooLarge 0 ds).map Int.ofNat

def parseSigned64 (s : String) : Except IntegerProblem Int :=
  parseInteger leastSigned64 greatestSigned64 s

def parseWord64 (s : String) : Except IntegerProblem Nat :=
  (parseInteger 0 greatestWord64 s).map Int.toNat

end Text
end EventLedger
