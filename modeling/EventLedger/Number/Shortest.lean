import EventLedger.Number.Binary64
import EventLedger.Text.Decimal

/-! The digits of a float. It is assumed that the fewest are written that round to it, and of those the
nearest. -/

namespace EventLedger.Binary64

/-- Whether `num / den` rounds to the magnitude of `x`. The ends of the interval belong to it when
    the significand is even; the interval is half as long below a power of two. -/
def roundsTo (x : Binary64) (num den : Nat) : Bool :=
  let m := x.significand
  let lower := if m = Nat.pow 2 52 && 0 < x.scale then 4 * m - 1 else 4 * m - 2
  let upper := 4 * m + 2
  let point := num * (4 * denominator)
  let low := lower * Nat.pow 2 x.scale * den
  let high := upper * Nat.pow 2 x.scale * den
  if m % 2 = 0 then low ≤ point && point ≤ high else low < point && point < high

def leadingExponent (x : Binary64) : Int :=
  let scaled := x.numerator * Nat.pow 10 400 / denominator
  ((Text.decimalDigits scaled).length : Int) - 401

def accepts (x : Binary64) (d : Nat) (last : Int) : Bool :=
  if last < 0 then x.roundsTo d (Nat.pow 10 last.natAbs)
  else x.roundsTo (d * Nat.pow 10 last.natAbs) 1

def inUnits (x : Binary64) (last : Int) : Nat × Nat :=
  if last < 0 then (x.numerator * Nat.pow 10 last.natAbs, denominator)
  else (x.numerator, denominator * Nat.pow 10 last.natAbs)

def nearest (num den : Nat) : Nat :=
  let below := num / den
  let rest := num % den
  if 2 * rest < den || (2 * rest == den && below % 2 == 0) then below else below + 1

/-- The point of the grid of `count` digits that is nearest to `x` among those that round to it,
    as digits and the exponent of the last one. -/
def onGrid (x : Binary64) (lead : Int) (count : Nat) : Option (Nat × Int) :=
  let last := lead - (count - 1)
  let (num, den) := x.inUnits last
  let below := num / den
  let first := nearest num den
  let second := if first = below then below + 1 else below
  if x.accepts first last then some (first, last)
  else if x.accepts second last then some (second, last)
  else none

def shortest (x : Binary64) : Nat × Int :=
  let lead := x.leadingExponent
  let found := (List.range 17).findSome? fun k => x.onGrid lead (k + 1)
  dropZeros 20 (found.getD (0, 0))
where
  dropZeros : Nat → Nat × Int → Nat × Int
    | 0, p => p
    | n + 1, (d, e) => if d ≠ 0 ∧ d % 10 = 0 then dropZeros n (d / 10, e + 1) else (d, e)

def mantissa : List Char → List Char
  | [] => []
  | [d] => [d]
  | d :: rest => d :: '.' :: rest

/-- Positional notation from `1e-5` up to below `1e16`, with at least one digit after the point;
    scientific notation with a signed exponent beyond. -/
def digitsText (digits : List Char) (last : Int) : List Char :=
  let lead := last + digits.length - 1
  if lead < -5 ∨ 16 ≤ lead then
    mantissa digits ++ 'e' :: (if lead < 0 then '-' else '+') :: Text.decimalDigits lead.natAbs
  else if lead < 0 then
    ['0', '.'] ++ List.replicate (lead.natAbs - 1) '0' ++ digits
  else if 0 ≤ last then
    digits ++ List.replicate last.natAbs '0' ++ ['.', '0']
  else
    digits.take (lead.natAbs + 1) ++ '.' :: digits.drop (lead.natAbs + 1)

def chars (x : Binary64) : List Char :=
  let sign := if x.negative then ['-'] else []
  if x.isZero then sign ++ ['0', '.', '0']
  else
    let (d, last) := x.shortest
    sign ++ digitsText (Text.decimalDigits d) last

def text (x : Binary64) : String := String.ofList x.chars

def plainChars (x : Binary64) : List Char :=
  let sign := if x.negative then ['-'] else []
  if x.isZero then sign ++ ['0']
  else
    let (d, last) := x.shortest
    let digits := Text.decimalDigits d
    if 0 ≤ last then sign ++ digits ++ List.replicate last.natAbs '0'
    else
      let padded := List.replicate (last.natAbs + 1 - digits.length) '0' ++ digits
      let whole := padded.length - last.natAbs
      sign ++ padded.take whole ++ '.' :: padded.drop whole

def plainText (x : Binary64) : String := String.ofList x.plainChars

end EventLedger.Binary64
