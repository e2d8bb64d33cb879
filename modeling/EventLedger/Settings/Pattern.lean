import EventLedger.Number.Bounds
import EventLedger.Text.Alphanumeric
import EventLedger.Text.Blank
import EventLedger.Text.Decimal

namespace EventLedger

inductive PatternProblem where
  | escapeInClass
  | rangeBound
  | rangeOrder
  | classUnclosed
  | countMissing
  | countTooLarge
  | countUnclosed
  | hexValue
  | hexDigit
  | escapeUnfinished
  | escapeUnknown
  | flagDangling
  | flagRepeated
  | flagNegatedTwice
  | flagUnfinished
  | flagUnknown
  | nameRepeated
  | nameEmpty
  | nameInvalid
  | nameUnclosed
  | groupUnclosed
  | groupUnopened
  | nothingToRepeat
  | boundaryUnclosed
  | boundaryUnfinished
  | propertyInvalid
  | propertyUnknown
  | backreference
  | lookAround
  | partOfCharacter
  | onlyAscii
  | wordBoundary
deriving DecidableEq, Repr

def PatternProblem.message : PatternProblem → String
  | escapeInClass => "invalid escape sequence found in character class"
  | rangeBound => "invalid range boundary, must be a literal"
  | rangeOrder => "invalid character class range, the start must be <= the end"
  | classUnclosed => "unclosed character class"
  | countMissing => "repetition quantifier expects a valid decimal"
  | countTooLarge => "decimal literal invalid"
  | countUnclosed => "unclosed counted repetition"
  | hexValue => "hexadecimal literal is not a Unicode scalar value"
  | hexDigit => "invalid hexadecimal digit"
  | escapeUnfinished => "incomplete escape sequence, reached end of pattern prematurely"
  | escapeUnknown => "unrecognized escape sequence"
  | flagDangling => "dangling flag negation operator"
  | flagRepeated => "duplicate flag"
  | flagNegatedTwice => "flag negation operator repeated"
  | flagUnfinished => "expected flag but got end of regex"
  | flagUnknown => "unrecognized flag"
  | nameRepeated => "duplicate capture group name"
  | nameEmpty => "empty capture group name"
  | nameInvalid => "invalid capture group character"
  | nameUnclosed => "unclosed capture group name"
  | groupUnclosed => "unclosed group"
  | groupUnopened => "unopened group"
  | nothingToRepeat => "repetition operator missing expression"
  | boundaryUnclosed =>
    "special word boundary assertion is either unclosed or contains an invalid character"
  | boundaryUnfinished =>
    "found either the beginning of a special word boundary or a bounded repetition on a \\b " ++
      "with an opening brace, but no closing brace"
  | propertyInvalid => "invalid Unicode character class"
  | propertyUnknown => "Unicode property not found"
  | backreference => "backreferences are not supported"
  | lookAround => "look-around, including look-ahead and look-behind, is not supported"
  | partOfCharacter => "pattern can match invalid UTF-8"
  | onlyAscii => "Unicode not allowed here"
  | wordBoundary =>
    "cannot build DFAs for regexes with Unicode word boundaries; switch to ASCII word " ++
      "boundaries, or heuristically enable Unicode word boundaries or use a different regex engine"

/-! Whether a text is a pattern. Patterns stand between braces and after an equals sign, in a list
    with commas, so that there is no closing brace, comma or equals sign in one. What needs such a
    character is never closed. -/

namespace Pattern

/-- What flags say: whether blanks mean nothing, whether characters are those of all scripts or else
    bytes, and whether they are taken in either case. -/
structure Mode where
  spaced : Bool := false
  wide : Bool := true
  folded : Bool := false
deriving DecidableEq, Repr

def skipComments : Bool → List Char → List Char
  | _, [] => []
  | true, c :: cs => skipComments (c ≠ '\n') cs
  | false, c :: cs =>
    if Text.isBlank c then skipComments false cs
    else if c = '#' then skipComments true cs
    else c :: cs

def skip (spaced : Bool) (cs : List Char) : List Char :=
  if spaced then skipComments false cs else cs

inductive Item where
  | literal (codePoint : Nat) (twoDigits : Bool)
  | set (complement : Bool)
  | property (known : Bool)
  | place (wordBoundary : Bool)
deriving DecidableEq, Repr

/-- Why an item has no meaning in some mode, by itself or in a class. Where characters are bytes,
    nothing may match a part of a character. -/
def Item.problem? (m : Mode) (inClass : Bool) : Item → Option PatternProblem
  | literal n twoDigits =>
    if m.wide || n < 0x80 then none
    else if twoDigits then some .partOfCharacter
    else if inClass || m.folded then some .onlyAscii
    else none
  | set complement => if !m.wide && complement then some .partOfCharacter else none
  | property known =>
    if !m.wide then some .onlyAscii else if known then none else some .propertyUnknown
  | place _ => none

def isMeta (c : Char) : Bool := "\\.+*?()|[]\x7b\x7d^$#&-~".toList.contains c

def isEscapable (c : Char) : Bool :=
  isMeta c || (c.toNat < 0x80 && !c.isAlphanum && c != '<' && c != '>')

def controls : List (Char × Nat) :=
  [('a', 0x07), ('f', 0x0C), ('t', 0x09), ('n', 0x0A), ('r', 0x0D), ('v', 0x0B)]

def hexLengths : List (Char × Nat) := [('x', 2), ('u', 4), ('U', 8)]

def isProperty (c : Char) : Bool := "clmnpsz".toList.contains c.toLower

def isCodePoint (n : Nat) : Bool := n < 0xD800 || (0xE000 ≤ n && n < 0x110000)

def readHex (spaced : Bool) : Nat → Nat → List Char → Except PatternProblem (Nat × List Char)
  | 0, n, cs => if isCodePoint n then .ok (n, cs) else .error .hexValue
  | _ + 1, _, [] => .error .escapeUnfinished
  | more + 1, n, c :: cs =>
    match Text.hexValue? c with
    | some d => readHex spaced more (16 * n + d) (skip spaced cs)
    | none => .error .hexDigit

def readCodePoint (spaced : Bool) (length : Nat) (cs : List Char) :
    Except PatternProblem (Item × List Char) :=
  match skip spaced cs with
  | '\x7b' :: rest =>
    let isHex := fun (c : Char) => (Text.hexValue? c).isSome || (spaced && Text.isBlank c)
    .error (if rest.all isHex then .escapeUnfinished else .hexDigit)
  | cs => (readHex spaced length 0 cs).map fun (n, rest) => (.literal n (length == 2), rest)

def readProperty (spaced : Bool) (cs : List Char) : Except PatternProblem (Item × List Char) :=
  match skip spaced cs with
  | [] | '\x7b' :: _ => .error .escapeUnfinished
  | '\\' :: _ => .error .propertyInvalid
  | c :: rest => .ok (.property (isProperty c), skip spaced rest)

def readBoundary (spaced : Bool) : List Char → Except PatternProblem (Item × List Char)
  | '\x7b' :: rest =>
    match skip spaced rest with
    | [] => .error .boundaryUnfinished
    | c :: _ =>
      if c.isAlpha || c == '-' then .error .boundaryUnclosed
      else .ok (.place true, '\x7b' :: rest)
  | cs => .ok (.place true, cs)

def readEscape (spaced : Bool) : List Char → Except PatternProblem (Item × List Char)
  | [] => .error .escapeUnfinished
  | c :: cs =>
    if Text.isDigit c then .error .backreference
    else if isEscapable c then .ok (.literal c.toNat false, cs)
    else
      match hexLengths.lookup c, controls.lookup c with
      | some length, _ => readCodePoint spaced length cs
      | none, some n => .ok (.literal n false, cs)
      | none, none =>
        if c = 'p' ∨ c = 'P' then readProperty spaced cs
        else if c = 'b' then readBoundary spaced cs
        else if "dswDSW".toList.contains c then .ok (.set c.isUpper, cs)
        else if c = 'A' ∨ c = 'z' then .ok (.place false, cs)
        else if c = 'B' ∨ c = '<' ∨ c = '>' then .ok (.place true, cs)
        else .error .escapeUnknown

/-! Classes of characters -/

def classNames : List String :=
  ["alnum", "alpha", "ascii", "blank", "cntrl", "digit", "graph", "lower", "print", "punct",
    "space", "upper", "word", "xdigit"]

def readHat (cs : List Char) : Bool × List Char :=
  match cs with
  | '^' :: rest => (true, rest)
  | _ => (false, cs)

def readClassName? (cs : List Char) : Option (Item × List Char) :=
  match cs with
  | ':' :: cs =>
    let (complement, cs) := readHat cs
    match cs.dropWhile (· ≠ ':') with
    | ':' :: ']' :: rest =>
      if classNames.contains (String.ofList (cs.takeWhile (· ≠ ':'))) then
        some (.set complement, rest)
      else none
    | _ => none
  | _ => none

def inClass (spaced : Bool) (cs : List Char) : Except PatternProblem (List Char) :=
  match skip spaced cs with
  | [] => .error .classUnclosed
  | cs => .ok cs

def skipHyphens (spaced : Bool) : List Char → List Char
  | '-' :: cs => skipHyphens spaced (if spaced then cs.dropWhile Text.isBlank else cs)
  | cs => cs
termination_by cs => cs.length
decreasing_by
  split
  · have h := (List.dropWhile_suffix (l := cs) Text.isBlank).length_le
    simp only [List.length_cons]
    omega
  · simp

def openClass (spaced : Bool) (cs : List Char) : Except PatternProblem (Bool × List Char) := do
  let (complement, cs) := readHat (← inClass spaced cs)
  let cs ← inClass spaced cs
  match cs with
  | '-' :: _ => .ok (complement, ← inClass spaced (skipHyphens spaced cs))
  | ']' :: rest => .ok (complement, ← inClass spaced rest)
  | _ => .ok (complement, cs)

def readItem (spaced : Bool) : List Char → Except PatternProblem (Item × List Char)
  | '\\' :: cs => readEscape spaced cs
  | c :: cs => .ok (.literal c.toNat false, cs)
  | [] => .error .classUnclosed

def boundOf : Item → Except PatternProblem Nat
  | .literal n _ => .ok n
  | _ => .error .rangeBound

/-- Reads an item of a class, or both ends of a range of them. A hyphen before a bracket or another
    hyphen does not make a range. -/
def readRange (spaced : Bool) (cs : List Char) : Except PatternProblem (List Item × List Char) := do
  let (first, cs) ← readItem spaced cs
  let cs ← inClass spaced cs
  let isRange := match cs with
    | '-' :: rest => !((skip spaced rest).head?.any fun c => c == ']' || c == '-')
    | _ => false
  if isRange then
    let cs ← inClass spaced cs.tail
    let (last, cs) ← readItem spaced cs
    let low ← boundOf first
    let high ← boundOf last
    if low ≤ high then .ok ([first, last], cs) else .error .rangeOrder
  else
    match first with
    | .place _ => .error .escapeInClass
    | _ => .ok ([first], cs)

/-- Reads what follows in a class, up to where it is closed, and gives all that is in it. The classes
    around are known by their hats, the innermost first. The number bounds the steps. -/
def readClass (spaced : Bool) : Nat → List Bool → List Item → List Char →
    Except PatternProblem (List Item × List Char)
  | 0, _, _, _ => .error .classUnclosed
  | n + 1, hats, soFar, cs => do
    match ← inClass spaced cs with
    | '[' :: rest =>
      match readClassName? rest with
      | some (item, rest) => readClass spaced n hats (soFar ++ [item]) rest
      | none =>
        let (complement, rest) ← openClass spaced rest
        readClass spaced n (complement :: hats) soFar rest
    | ']' :: rest =>
      let soFar := soFar ++ [.set (hats.headD false)]
      if hats.length ≤ 1 then .ok (soFar, rest) else readClass spaced n hats.tail soFar rest
    | '&' :: '&' :: rest | '-' :: '-' :: rest | '~' :: '~' :: rest =>
      readClass spaced n hats soFar rest
    | cs =>
      let (items, rest) ← readRange spaced cs
      readClass spaced n hats (soFar ++ items) rest

/-! Groups -/

def readFlags (seen : List Char) : List Char → Except PatternProblem (List Char × Char × List Char)
  | [] => .error .flagUnfinished
  | c :: cs =>
    if c = ':' ∨ c = ')' then
      if seen.head? = some '-' then .error .flagDangling else .ok (seen.reverse, c, cs)
    else if c = '-' then
      if seen.contains '-' then .error .flagNegatedTwice else readFlags (c :: seen) cs
    else if !"imsUuRx".toList.contains c then .error .flagUnknown
    else if seen.contains c then .error .flagRepeated
    else readFlags (c :: seen) cs

def setBy (flags : List Char) (flag : Char) (otherwise : Bool) : Bool :=
  if flags.contains flag then (flags.takeWhile (· ≠ '-')).contains flag else otherwise

def Mode.under (m : Mode) (flags : List Char) : Mode where
  spaced := setBy flags 'x' m.spaced
  wide := setBy flags 'u' m.wide
  folded := setBy flags 'i' m.folded

def isNameStart (c : Char) : Bool := c == '_' || (Text.isAlphanumeric c && !Text.isDigit c)

def isNamePart (c : Char) : Bool :=
  c == '_' || c == '.' || c == '[' || c == ']' || Text.isAlphanumeric c

def readName (cs : List Char) : Except PatternProblem (String × List Char) :=
  let name := cs.takeWhile (· ≠ '>')
  if !(name.head?.all isNameStart && name.tail.all isNamePart) then .error .nameInvalid
  else
    match cs.dropWhile (· ≠ '>') with
    | [] => .error .nameUnclosed
    | _ :: rest => if name.isEmpty then .error .nameEmpty else .ok (String.ofList name, rest)

/-- Where the reading of a pattern stands: in groups, each with the mode after it, and after
    something that can be repeated or not. A part without a meaning is reported only when all can be
    read. -/
structure State where
  rest : List Char
  mode : Mode := {}
  groups : List Mode := []
  names : List String := []
  repeatable : Bool := false
  meaningless : Option PatternProblem := none
  wordBoundary : Bool := false

def State.after (s : State) (rest : List Char) : State := { s with rest, repeatable := true }

def State.take (s : State) (inClass : Bool) (items : List Item) (rest : List Char) : State :=
  { s.after rest with
    meaningless := s.meaningless.or (items.findSome? (·.problem? s.mode inClass))
    wordBoundary := s.wordBoundary || (s.mode.wide && items.contains (.place true)) }

def State.enter (s : State) (rest : List Char) (mode : Mode) : State :=
  { s with rest, mode, groups := s.mode :: s.groups, repeatable := false }

def State.enterNamed (s : State) (cs : List Char) : Except PatternProblem State := do
  let (name, rest) ← readName cs
  if s.names.contains name then .error .nameRepeated
  else .ok { s.enter rest s.mode with names := name :: s.names }

def State.openGroup (s : State) (cs : List Char) : Except PatternProblem State := do
  match skip s.mode.spaced cs with
  | '?' :: '=' :: _ | '?' :: '!' :: _ | '?' :: '<' :: '=' :: _ | '?' :: '<' :: '!' :: _ =>
    .error .lookAround
  | '?' :: 'P' :: '<' :: rest | '?' :: '<' :: rest => s.enterNamed rest
  | ['?'] => .error .groupUnclosed
  | '?' :: rest =>
    let (flags, closing, rest) ← readFlags [] rest
    let mode := s.mode.under flags
    if closing = ':' then .ok (s.enter rest mode)
    else if flags.isEmpty then .error .nothingToRepeat
    else .ok { s with rest, mode, repeatable := false }
  | rest => .ok (s.enter rest s.mode)

def State.closeGroup (s : State) (rest : List Char) : Except PatternProblem State :=
  match s.groups with
  | [] => .error .groupUnopened
  | mode :: groups => .ok { s with rest, mode, groups, repeatable := true }

def countProblem (spaced : Bool) (cs : List Char) : PatternProblem :=
  let cs := (skip spaced cs).dropWhile Text.isBlank
  let digits := cs.takeWhile Text.isDigit
  if ((cs.dropWhile Text.isDigit).dropWhile Text.isBlank).isEmpty then .countUnclosed
  else if digits.isEmpty then .countMissing
  else if greatestWord32 < Text.digitsValue digits then .countTooLarge
  else .countUnclosed

def State.next (s : State) (c : Char) (cs : List Char) : Except PatternProblem State :=
  match c with
  | '(' => s.openGroup cs
  | ')' => s.closeGroup cs
  | '|' => .ok { s with rest := cs, repeatable := false }
  | '[' => do
    let (complement, cs) ← openClass s.mode.spaced cs
    let (items, rest) ← readClass s.mode.spaced cs.length [complement] [] cs
    .ok (s.take true items rest)
  | '?' | '*' | '+' =>
    if s.repeatable then .ok (s.after (if cs.head? = some '?' then cs.tail else cs))
    else .error .nothingToRepeat
  | '\x7b' => .error (if s.repeatable then countProblem s.mode.spaced cs else .nothingToRepeat)
  | '\\' => do
    let (item, rest) ← readEscape s.mode.spaced cs
    .ok (s.take false [item] rest)
  | '.' => .ok (s.take false [.set true] cs)
  | _ => .ok (s.take false [.literal c.toNat false] cs)

/-- Groups have to be closed, and boundaries between words of all scripts cannot be tested. -/
def State.finish (s : State) : Except PatternProblem Unit :=
  if !s.groups.isEmpty then .error .groupUnclosed
  else
    match s.meaningless with
    | some problem => .error problem
    | none => if s.wordBoundary then .error .wordBoundary else .ok ()

def readParts : Nat → State → Except PatternProblem Unit
  | 0, s => s.finish
  | n + 1, s =>
    match skip s.mode.spaced s.rest with
    | [] => s.finish
    | c :: cs => do readParts n (← s.next c cs)

def check (s : String) : Except PatternProblem Unit := readParts s.length { rest := s.toList }

end Pattern
end EventLedger
