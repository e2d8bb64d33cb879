import EventLedger.Json.Refusal

namespace EventLedger.Json

inductive Problem where
  | endInList
  | endInObject
  | endInString
  | endInValue
  | expectedColon
  | expectedListCommaOrEnd
  | expectedObjectCommaOrEnd
  | expectedIdent
  | expectedValue
  | invalidEscape
  | invalidNumber
  | numberOutOfRange
  | loneSurrogate
  | unexpectedEndOfHexEscape
  | controlCharacter
  | keyNotString
  | trailingComma
  | trailingCharacters
  | recursionLimit
  | refused (refusal : Refusal)
deriving Repr

namespace Problem

def message : Problem → String
  | endInList => "EOF while parsing a list"
  | endInObject => "EOF while parsing an object"
  | endInString => "EOF while parsing a string"
  | endInValue => "EOF while parsing a value"
  | expectedColon => "expected `:`"
  | expectedListCommaOrEnd => "expected `,` or `]`"
  | expectedObjectCommaOrEnd => "expected `,` or `\x7d`"
  | expectedIdent => "expected ident"
  | expectedValue => "expected value"
  | invalidEscape => "invalid escape"
  | invalidNumber => "invalid number"
  | numberOutOfRange => "number out of range"
  | loneSurrogate => "lone leading surrogate in hex escape"
  | unexpectedEndOfHexEscape => "unexpected end of hex escape"
  | controlCharacter => "control character (\\u0000-\\u001F) found while parsing a string"
  | keyNotString => "key must be a string"
  | trailingComma => "trailing comma"
  | trailingCharacters => "trailing characters"
  | recursionLimit => "recursion limit exceeded"
  | refused refusal => refusal.message

def isEnd : Problem → Bool
  | endInList | endInObject | endInString | endInValue => true
  | _ => false

end Problem

/-- A problem met `ahead` bytes into what is left of a text. -/
structure Fault where
  problem : Problem
  rest : List Char
  ahead : Nat
deriving Repr

namespace Fault

def here (problem : Problem) (rest : List Char) : Fault := ⟨problem, rest, 0⟩

def next (problem : Problem) (rest : List Char) : Fault :=
  ⟨problem, rest, if rest.isEmpty then 0 else 1⟩

end Fault

def byteLength (cs : List Char) : Nat := (cs.map Char.utf8Size).foldr (· + ·) 0

/-- A place in a text: lines count from one, columns are bytes since the last line break. -/
structure Position where
  line : Nat
  column : Nat
deriving DecidableEq, Repr

def positionAfter : Nat → Position → List Char → Position
  | 0, p, _ => p
  | _, p, [] => p
  | n + 1, p, c :: cs =>
    if c.utf8Size ≤ n + 1 then
      positionAfter (n + 1 - c.utf8Size) (if c = '\n' then ⟨p.line + 1, 0⟩ else
        ⟨p.line, p.column + c.utf8Size⟩) cs
    else ⟨p.line, p.column + (n + 1)⟩
termination_by _ _ cs => cs.length

/-- A JSON text or value that could not be used; only a text has places. -/
structure ReadError where
  problem : Problem
  position : Option Position
deriving Repr

namespace ReadError

def message (e : ReadError) : String :=
  match e.position with
  | none => e.problem.message
  | some p =>
    e.problem.message ++ Refusal.placeText p.line p.column

def ofRefusal (r : Refusal) : ReadError := ⟨.refused r, none⟩

def ofFault (input : List Char) (f : Fault) : ReadError :=
  let offset := byteLength input - byteLength f.rest + f.ahead
  ⟨f.problem, some (positionAfter offset ⟨1, 0⟩ input)⟩

end ReadError
end EventLedger.Json
