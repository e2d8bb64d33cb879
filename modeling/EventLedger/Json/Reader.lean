import EventLedger.Json.Fault
import EventLedger.Number.Bounds

/-! The reader of the format, which is assumed to be the one of the ledger's library: what it refuses, in
which words and at which place, how deep lists and objects may be nested, which numbers are integers and
how the others are rounded. The same holds for the readers of records and of skipped values. -/

namespace EventLedger.Json

def isSpace (c : Char) : Bool := c = ' ' || c = '\n' || c = '\t' || c = '\r'

def skipSpace (cs : List Char) : List Char := cs.dropWhile isSpace

def readWord : List Char → List Char → Except Fault (List Char)
  | [], cs => .ok cs
  | _ :: _, [] => .error (.here .endInValue [])
  | w :: ws, c :: cs => if c = w then readWord ws cs else .error (.next .expectedIdent (c :: cs))

def readHex (cs : List Char) : Except Fault (Nat × List Char) :=
  match cs with
  | a :: b :: c :: d :: rest =>
    match Text.hexValue? a, Text.hexValue? b, Text.hexValue? c, Text.hexValue? d with
    | some a, some b, some c, some d => .ok (((a * 16 + b) * 16 + c) * 16 + d, rest)
    | _, _, _, _ => .error ⟨.invalidEscape, cs, 4⟩
  | _ =>
    if 4 ≤ byteLength cs then .error ⟨.invalidEscape, cs, 4⟩ else .error (.here .endInString [])

def readUnicodeEscape (cs : List Char) : Except Fault (Char × List Char) := do
  let (n, rest) ← readHex cs
  if 0xDC00 ≤ n ∧ n ≤ 0xDFFF then .error (.here .loneSurrogate rest)
  else if n < 0xD800 ∨ 0xDBFF < n then .ok (Char.ofNat n, rest)
  else match rest with
    | [] => .error (.here .endInString [])
    | '\\' :: [] => .error (.here .endInString [])
    | '\\' :: 'u' :: rest =>
      let (low, rest) ← readHex rest
      if low < 0xDC00 ∨ 0xDFFF < low then .error (.here .loneSurrogate rest)
      else .ok (Char.ofNat ((n - 0xD800) * 0x400 + (low - 0xDC00) + 0x10000), rest)
    | '\\' :: rest => .error (.next .unexpectedEndOfHexEscape rest)
    | rest => .error (.next .unexpectedEndOfHexEscape rest)

def simpleEscape? (c : Char) : Option Char :=
  if c = '"' then some '"'
  else if c = '\\' then some '\\'
  else if c = '/' then some '/'
  else if c = 'b' then some '\x08'
  else if c = 'f' then some '\x0c'
  else if c = 'n' then some '\n'
  else if c = 'r' then some '\r'
  else if c = 't' then some '\t'
  else none

/-- Reads the rest of a string after its opening quote. The first argument bounds the number of
    characters and escapes; `soFar` holds the string in reverse. -/
def readStringFrom : Nat → List Char → List Char → Except Fault (String × List Char)
  | 0, _, cs => .error (.here .endInString cs)
  | _ + 1, _, [] => .error (.here .endInString [])
  | n + 1, soFar, c :: cs =>
    if c = '"' then .ok (String.ofList soFar.reverse, cs)
    else if c = '\\' then
      match cs with
      | [] => .error (.here .endInString [])
      | 'u' :: rest => do
        let (d, rest) ← readUnicodeEscape rest
        readStringFrom n (d :: soFar) rest
      | e :: rest =>
        match simpleEscape? e with
        | some d => readStringFrom n (d :: soFar) rest
        | none => .error (.next .invalidEscape (e :: rest))
    else if c.toNat < 0x20 then .error (.next .controlCharacter (c :: cs))
    else readStringFrom n (c :: soFar) cs

def readString (cs : List Char) : Except Fault (String × List Char) := readStringFrom (cs.length + 1) [] cs

structure Numeral where
  negative : Bool
  whole : List Char
  fraction : Option (List Char)
  exponent : Option (Bool × List Char)

def readDigits (atEnd : Problem) (cs : List Char) : Except Fault (List Char × List Char) :=
  match cs with
  | [] => .error (.here atEnd [])
  | c :: _ =>
    if Text.isDigit c then .ok (cs.takeWhile Text.isDigit, cs.dropWhile Text.isDigit)
    else .error (.next .invalidNumber cs)

def readWhole (atEnd : Problem) (cs : List Char) : Except Fault (List Char × List Char) :=
  match cs with
  | '0' :: rest =>
    if (rest.head?.map Text.isDigit).getD false then .error (.next .invalidNumber rest)
    else .ok (['0'], rest)
  | _ => readDigits atEnd cs

def readFraction (atEnd : Problem) (cs : List Char) : Except Fault (Option (List Char) × List Char) :=
  match cs with
  | '.' :: rest => do
    let (ds, rest) ← readDigits atEnd rest
    .ok (some ds, rest)
  | _ => .ok (none, cs)

def readExponent (atEnd : Problem) (cs : List Char) : Except Fault ((Option (Bool × List Char)) × List Char) :=
  match cs with
  | [] => .ok (none, cs)
  | c :: rest =>
    if c = 'e' || c = 'E' then do
      let (negative, rest) := match rest with
        | '+' :: r => (false, r)
        | '-' :: r => (true, r)
        | r => (false, r)
      let (ds, rest) ← readDigits atEnd rest
      .ok (some (negative, ds), rest)
    else .ok (none, cs)

def readNumeral (atEnd : Problem) (negative : Bool) (cs : List Char) : Except Fault (Numeral × List Char) := do
  let (whole, cs) ← readWhole atEnd cs
  let (fraction, cs) ← readFraction atEnd cs
  let (exponent, cs) ← readExponent atEnd cs
  .ok (⟨negative, whole, fraction, exponent⟩, cs)

/-- Takes digits into a significand of at most 64 bits; the first digit that does not fit ends it.
    Gives the significand, the number of digits taken and the digits left. -/
def absorb (significand taken : Nat) : List Char → Nat × Nat × List Char
  | [] => (significand, taken, [])
  | c :: cs =>
    let next := 10 * significand + (c.toNat - '0'.toNat)
    if greatestWord64 < next then (significand, taken, c :: cs) else absorb next (taken + 1) cs

/-- The written exponent, or the number of digits after which it is too large to be counted. -/
def exponentValue (soFar taken : Nat) : List Char → Except Nat Nat
  | [] => .ok soFar
  | c :: cs =>
    let next := 10 * soFar + (c.toNat - '0'.toNat)
    if greatestSigned32 < next then .error (taken + 1) else exponentValue next (taken + 1) cs

def clampExponent (e : Int) : Int := max leastSigned32 (min greatestSigned32 e)

namespace Numeral

def scientific (n : Numeral) (digits : Nat) (e : Int) : Except (Option Nat) Number :=
  (Binary64.ofScientific digits e).elim (.error none) fun x =>
    .ok (.float (if n.negative then x.negate else x))

def float (n : Numeral) (high : Nat) (left : List Char) : Except (Option Nat) Number :=
  let (digits, taken, _) := absorb high 0 (n.fraction.getD [])
  let shift := (left.length : Int) - taken
  match n.exponent with
  | none => n.scientific digits shift
  | some (negative, ds) =>
    match exponentValue 0 0 ds with
    | .ok e => n.scientific digits (clampExponent (if negative then shift - e else shift + e))
    | .error used =>
      if digits ≠ 0 ∧ negative = false then .error (some used)
      else .ok (.float (if n.negative then Binary64.zero.negate else .zero))

/-- The number denoted. A number without fraction and exponent that fits 64 bits is an integer;
    digits beyond 64 bits only count towards the exponent. The error is the number of exponent
    digits after which the number is known to be too large, if it is known so early. -/
def number (n : Numeral) : Except (Option Nat) Number :=
  let (high, _, left) := absorb 0 0 n.whole
  if n.fraction.isNone && n.exponent.isNone && left.isEmpty then
    if !n.negative then .ok (.integer high)
    else if high ≠ 0 ∧ leastSigned64 ≤ -high then .ok (.integer (-high))
    else n.scientific high 0
  else n.float high left

end Numeral

def readNumber (negative : Bool) (cs : List Char) : Except Fault (Number × List Char) := do
  let (numeral, rest) ← readNumeral .endInValue negative cs
  match numeral.number with
  | .ok n => .ok (n, rest)
  | .error none => .error (.here .numberOutOfRange rest)
  | .error (some used) =>
    let written := (numeral.exponent.map (·.2.length)).getD 0
    .error (.here .numberOutOfRange ((cs.drop (cs.length - rest.length - (written - used)))))

inductive Start where
  | scalar (value : Json)
  | list
  | members
deriving Repr

def readStart (cs : List Char) : Except Fault (Start × List Char) :=
  match cs with
  | [] => .error (.here .endInValue [])
  | '"' :: rest => do
    let (s, rest) ← readString rest
    .ok (.scalar (.string s), rest)
  | '[' :: _ => .ok (.list, cs)
  | '\x7b' :: _ => .ok (.members, cs)
  | 'n' :: rest => (readWord "ull".toList rest).map fun rest => (.scalar .null, rest)
  | 't' :: rest => (readWord "rue".toList rest).map fun rest => (.scalar (.bool true), rest)
  | 'f' :: rest => (readWord "alse".toList rest).map fun rest => (.scalar (.bool false), rest)
  | '-' :: rest => do
    let (n, rest) ← readNumber true rest
    .ok (.scalar (.number n), rest)
  | c :: _ =>
    if Text.isDigit c then do
      let (n, rest) ← readNumber false cs
      .ok (.scalar (.number n), rest)
    else .error (.next .expectedValue cs)

def nextItem (first : Bool) (cs : List Char) : Except Fault (Option (List Char)) :=
  match skipSpace cs with
  | [] => .error (.here .endInList [])
  | ']' :: _ => .ok none
  | ',' :: rest =>
    if first then .ok (some (',' :: rest))
    else match skipSpace rest with
      | [] => .error (.here .endInValue [])
      | ']' :: rest => .error (.next .trailingComma (']' :: rest))
      | rest => .ok (some rest)
  | rest => if first then .ok (some rest) else .error (.next .expectedListCommaOrEnd rest)

def nextKey (first : Bool) (cs : List Char) : Except Fault (Option (List Char)) :=
  match skipSpace cs with
  | [] => .error (.here .endInObject [])
  | '\x7d' :: _ => .ok none
  | ',' :: rest =>
    if first then .error (.next .keyNotString (',' :: rest))
    else match skipSpace rest with
      | [] => .error (.here .endInValue [])
      | '"' :: rest => .ok (some rest)
      | '\x7d' :: rest => .error (.next .trailingComma ('\x7d' :: rest))
      | rest => .error (.next .keyNotString rest)
  | '"' :: rest =>
    if first then .ok (some rest) else .error (.next .expectedObjectCommaOrEnd ('"' :: rest))
  | rest =>
    if first then .error (.next .keyNotString rest)
    else .error (.next .expectedObjectCommaOrEnd rest)

def readColon (cs : List Char) : Except Fault (List Char) :=
  match skipSpace cs with
  | [] => .error (.here .endInObject [])
  | ':' :: rest => .ok rest
  | rest => .error (.next .expectedColon rest)

def closeList (cs : List Char) : Except Fault (List Char) :=
  match skipSpace cs with
  | [] => .error (.here .endInList [])
  | ']' :: rest => .ok rest
  | ',' :: rest =>
    match skipSpace rest with
    | ']' :: rest => .error (.next .trailingComma (']' :: rest))
    | rest => .error (.next .trailingCharacters rest)
  | rest => .error (.next .trailingCharacters rest)

def closeObject (cs : List Char) : Except Fault (List Char) :=
  match skipSpace cs with
  | [] => .error (.here .endInObject [])
  | '\x7d' :: rest => .ok rest
  | ',' :: rest => .error (.next .trailingComma (',' :: rest))
  | rest => .error (.next .trailingCharacters rest)

def readItems (item : List Char → Except Fault (α × List Char)) :
    Nat → Bool → List Char → Except Fault (List α × List Char)
  | 0, _, cs => .error (.here .endInList cs)
  | n + 1, first, cs => do
    match ← nextItem first cs with
    | none => .ok ([], ← closeList cs)
    | some cs =>
      let (x, cs) ← item cs
      let (xs, cs) ← readItems item n false cs
      .ok (x :: xs, cs)

def readMembers (value : List Char → Except Fault (α × List Char)) :
    Nat → Bool → List Char → Except Fault (List (String × α) × List Char)
  | 0, _, cs => .error (.here .endInObject cs)
  | n + 1, first, cs => do
    match ← nextKey first cs with
    | none => .ok ([], ← closeObject cs)
    | some cs =>
      let (name, cs) ← readString cs
      let (v, cs) ← value (← readColon cs)
      let (ms, cs) ← readMembers value n false cs
      .ok ((name, v) :: ms, cs)

def readValue : Nat → List Char → Except Fault (Json × List Char)
  | depth, cs => do
    match ← readStart (skipSpace cs) with
    | (.scalar v, rest) => .ok (v, rest)
    | (.list, rest) =>
      match depth with
      | 0 => .error (.next .recursionLimit rest)
      | depth + 1 =>
        let (xs, rest) ← readItems (readValue depth) (rest.length + 1) true (rest.drop 1)
        .ok (.array xs, rest)
    | (.members, rest) =>
      match depth with
      | 0 => .error (.next .recursionLimit rest)
      | depth + 1 =>
        let (ms, rest) ← readMembers (readValue depth) (rest.length + 1) true (rest.drop 1)
        .ok (.object (sortMembers ms), rest)

def nestingLimit : Nat := 127

def readEnd (cs : List Char) : Except Fault Unit :=
  match skipSpace cs with
  | [] => .ok ()
  | rest => .error (.next .trailingCharacters rest)

def parse (input : String) : Except ReadError Json :=
  let cs := input.toList
  (do
    let (v, rest) ← readValue nestingLimit cs
    readEnd rest
    return v).mapError (ReadError.ofFault cs)

end EventLedger.Json
