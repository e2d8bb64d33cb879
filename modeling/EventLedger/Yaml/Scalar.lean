import EventLedger.Number.Binary64
import EventLedger.Text.Decimal

namespace EventLedger.Yaml

/-! Which plain texts are read as something other than a text -/

def nullWords : List String := ["", "null", "Null", "NULL", "~"]

def booleanWords : List String := ["true", "True", "TRUE", "false", "False", "FALSE"]

def infinityWords : List String := [".inf", ".Inf", ".INF"]

def nanWords : List String := [".nan", ".NaN", ".NAN"]

def withoutSign : List Char → List Char
  | '+' :: cs | '-' :: cs => cs
  | cs => cs

/-- A decimal number below 10 to the 309 that is not rounded up to infinity, given its digits and
    the power of ten that they are multiplied by. -/
def isFinite (digits : List Char) (exponent : Int) : Bool :=
  let significant := digits.dropWhile (· = '0')
  let size := significant.length + exponent
  if significant.isEmpty || size < 309 then true
  else if 309 < size then false
  else
    let n := Text.digitsValue significant
    let value := if exponent < 0 then Binary64.ofRatio n (Nat.pow 10 exponent.natAbs)
      else Binary64.ofRatio (n * Nat.pow 10 exponent.natAbs) 1
    value.isSome

def exponent? : List Char → Option Int
  | [] => some 0
  | e :: cs =>
    let digits := withoutSign cs
    if (e = 'e' ∨ e = 'E') ∧ digits ≠ [] ∧ digits.all Text.isDigit then
      let n := Text.digitsValue digits
      some (if cs.head? = some '-' then -(n : Int) else n)
    else none

def isDecimal (s : List Char) : Bool :=
  let cs := withoutSign s
  let whole := cs.takeWhile Text.isDigit
  let (fraction, rest) :=
    match cs.dropWhile Text.isDigit with
    | '.' :: rest => (rest.takeWhile Text.isDigit, rest.dropWhile Text.isDigit)
    | rest => ([], rest)
  match exponent? rest with
  | some e => !(whole.isEmpty && fraction.isEmpty) &&
      isFinite (whole ++ fraction) (e - fraction.length)
  | none => false

def basedValue? (base : Nat) (cs : List Char) : Option Nat :=
  if cs.isEmpty then none
  else cs.foldlM (fun n c => do
    let d ← Text.hexValue? c
    if d < base then some (base * n + d) else none) 0

def isBased (s : List Char) : Bool :=
  let bound :=
    if s.head? = some '-' then 0x80000000000000000000000000000000
    else 0xFFFFFFFFFFFFFFFFFFFFFFFFFFFFFFFF
  match withoutSign s with
  | '0' :: mark :: cs =>
    let base := if mark = 'x' then 16 else if mark = 'o' then 8 else if mark = 'b' then 2 else 0
    (basedValue? base cs).any (· ≤ bound)
  | _ => false

def hasLeadingZero (s : List Char) : Bool :=
  match withoutSign s with
  | '0' :: d :: cs => (d :: cs).all Text.isDigit
  | _ => false

def readsAsOther (s : String) : Bool :=
  let cs := s.toList
  let unsigned := if cs.head? = some '-' ∨ cs.head? = some '+' then String.ofList cs.tail else s
  nullWords.contains s || booleanWords.contains s || infinityWords.contains unsigned ||
    nanWords.contains s || isDecimal cs || isBased cs || hasLeadingZero cs

/-! Which texts each style can hold -/

def isBreak (c : Char) : Bool :=
  c == '\n' || c == '\r' || c == '\u0085' || c == '\u2028' || c == '\u2029'

def isGap (c : Char) : Bool := c == ' ' || c == '\t' || c == '\x00' || isBreak c

def isPrintable (c : Char) : Bool :=
  let n := c.toNat
  n == 0x0A || (0x20 ≤ n && n ≤ 0x7E) || (0xA0 ≤ n && n ≤ 0xFFFD && n != 0xFEFF) || 0x10000 ≤ n

def startsWithGap : List Char → Bool
  | [] => true
  | c :: _ => isGap c

def startIndicators : List Char :=
  ['#', ',', '[', ']', '\x7b', '\x7d', '&', '*', '!', '|', '>', '\'', '"', '%', '@', '\x60']

def hasInnerIndicator (before : Char) : List Char → Bool
  | [] => false
  | c :: cs =>
    (c == ':' && startsWithGap cs) || (c == '#' && isGap before) || hasInnerIndicator c cs

def hasIndicator : List Char → Bool
  | [] => false
  | c :: cs =>
    "---".toList.isPrefixOf (c :: cs) || "...".toList.isPrefixOf (c :: cs) ||
      startIndicators.contains c || (['?', ':', '-'].contains c && startsWithGap cs) ||
      hasInnerIndicator c cs

def hasNeighbours (p q : Char → Bool) : List Char → Bool
  | c :: d :: cs => (p c && q d) || hasNeighbours p q (d :: cs)
  | _ => false

def isSpace (c : Char) : Bool := c == ' '

def isClear (cs : List Char) : Bool := cs.all isPrintable && !hasNeighbours isSpace isBreak cs

def fitsPlain (cs : List Char) : Bool :=
  isClear cs && !cs.any isBreak && !hasIndicator cs && cs.head? != some ' ' &&
    cs.getLast? != some ' '

def fitsSingleQuotes (cs : List Char) : Bool := isClear cs && !hasNeighbours isBreak isSpace cs

def fitsLiteral (cs : List Char) : Bool := isClear cs && cs.getLast? != some ' '

inductive Style where
  | plain
  | singleQuoted
  | doubleQuoted
  | literal
deriving DecidableEq, Repr

/-- The style of a text: literal for several lines, plain where it is read back as a text. -/
def styleOf (s : String) : Style :=
  let cs := s.toList
  if cs.contains '\n' then if fitsLiteral cs then .literal else .doubleQuoted
  else if fitsPlain cs && !readsAsOther s then .plain
  else if fitsSingleQuotes cs then .singleQuoted
  else .doubleQuoted

/-! Writing -/

def blanks (n : Nat) : List Char := List.replicate n ' '

def indented (n : Nat) (broken : Bool) : List Char → List Char
  | [] => []
  | c :: cs =>
    if isBreak c then c :: indented n true cs
    else (if broken then blanks n else []) ++ c :: indented n false cs

def endsInBreak (cs : List Char) : Bool := cs.getLast?.any isBreak

def singleQuotedChars (n : Nat) (cs : List Char) : List Char :=
  let doubled := cs.flatMap fun c => if c = '\'' then ['\'', '\''] else [c]
  '\'' :: (indented n false doubled ++ (if endsInBreak cs then blanks n else []) ++ ['\''])

def capitalHexDigit (n : Nat) : Char := (Text.hexDigit n).toUpper

def codeDigits : Nat → Nat → List Char
  | 0, _ => []
  | k + 1, n => codeDigits k (n / 16) ++ [capitalHexDigit n]

def escapeLetters : List (Char × Char) :=
  [('\x00', '0'), ('\x07', 'a'), ('\x08', 'b'), ('\t', 't'), ('\n', 'n'), ('\x0b', 'v'),
    ('\x0c', 'f'), ('\r', 'r'), ('\x1b', 'e'), ('"', '"'), ('\\', '\\'), ('\u0085', 'N'),
    ('\u2028', 'L'), ('\u2029', 'P')]

def escapedChar (c : Char) : List Char :=
  match escapeLetters.lookup c with
  | some letter => ['\\', letter]
  | none =>
    if isPrintable c then [c]
    else if c.toNat ≤ 0xFF then '\\' :: 'x' :: codeDigits 2 c.toNat
    else if c.toNat ≤ 0xFFFF then '\\' :: 'u' :: codeDigits 4 c.toNat
    else '\\' :: 'U' :: codeDigits 8 c.toNat

def doubleQuotedChars (cs : List Char) : List Char := '"' :: (cs.flatMap escapedChar ++ ['"'])

/-- What the head of a literal says about its lines: how deep they are indented, where the first
    does not show it, and how it ends. -/
def literalHints (cs : List Char) : List Char :=
  let depth := if cs.head?.any fun c => isSpace c || isBreak c then ['2'] else []
  let ending :=
    match cs.reverse with
    | c :: rest =>
      if !isBreak c then ['-']
      else if rest.head?.all isBreak then ['+']
      else []
    | [] => ['-']
  depth ++ ending

def literalChars (n : Nat) (cs : List Char) : List Char :=
  '|' :: (literalHints cs ++ '\n' :: indented n true cs)

def textChars (n : Nat) (s : String) : List Char :=
  let cs := s.toList
  match styleOf s with
  | .plain => cs ++ ['\n']
  | .singleQuoted => singleQuotedChars n cs ++ ['\n']
  | .doubleQuoted => doubleQuotedChars cs ++ ['\n']
  | .literal => literalChars n cs ++ (if endsInBreak cs then [] else ['\n'])

end EventLedger.Yaml
