import EventLedger.Number.Integer
import EventLedger.Settings.Pattern

namespace EventLedger

inductive FilterProblem where
  | directive
  | level
  | pattern (cause : PatternProblem) (text : String)
deriving DecidableEq, Repr

namespace FilterProblem

def messages : FilterProblem → List String
  | directive => ["invalid filter directive"]
  | level =>
    let message :=
      "error parsing level filter: expected one of \"off\", \"error\", \"warn\", \"info\", " ++
        "\"debug\", \"trace\", or a number 0-5"
    [message, message]
  | pattern .wordBoundary _ =>
    let message := "unsupported regex feature for DFAs: " ++ PatternProblem.wordBoundary.message
    ["invalid field filter: " ++ message, message]
  | pattern cause text =>
    ["invalid field filter: error building NFA", "error building NFA", "error parsing regex",
      "regex parse error:\n    " ++ text ++ "\nerror: " ++ cause.message]

def message (p : FilterProblem) : String := ": ".intercalate p.messages

end FilterProblem

namespace LogFilter

/-- Whether a text names a level, by a word in any case or by a number. The empty text does. -/
def isLevel (s : String) : Bool :=
  (match Text.parseWord64 s with
    | .ok n => n ≤ 5
    | .error _ => false) ||
  ["", "off", "error", "warn", "info", "debug", "trace"].contains (s.map Char.toLower)

def checkLevel (cs : List Char) : Except FilterProblem Unit :=
  if isLevel (String.ofList cs) then .ok () else .error .level

/-- Whether a text denotes a number: digits with a point among them or not and an exponent or not,
    or a word for what is no finite number. -/
def isNumber (cs : List Char) : Bool :=
  let unsigned := if cs.head?.any fun c => c == '+' || c == '-' then cs.tail else cs
  let whole := unsigned.takeWhile Text.isDigit
  let (fraction, rest) := match unsigned.dropWhile Text.isDigit with
    | '.' :: cs => (cs.takeWhile Text.isDigit, cs.dropWhile Text.isDigit)
    | cs => ([], cs)
  let exponent := if rest.tail.head?.any fun c => c == '+' || c == '-' then rest.tail.tail
    else rest.tail
  let isExponent := rest.head?.any fun c => c == 'e' || c == 'E'
  ["inf", "infinity", "nan"].contains ((String.ofList unsigned).map Char.toLower) ||
    (!(whole ++ fraction).isEmpty &&
      (rest.isEmpty || (isExponent && !exponent.isEmpty && exponent.all Text.isDigit)))

def checkField (cs : List Char) : Except FilterProblem Unit :=
  match cs.dropWhile (· ≠ '=') with
  | [] => if cs.isEmpty then .error .directive else .ok ()
  | _ :: rest =>
    let value := rest.takeWhile (· ≠ '=')
    let text := String.ofList value
    if isNumber value then .ok () else (Pattern.check text).mapError (.pattern · text)

inductive State where
  | start
  | target
  | span
  | field (first : Nat)
  | fields
  | afterSpan
  | level (first : Nat)
  | complete

def isTargetStart (c : Char) : Bool :=
  c == '-' || c == ':' || c == '_' || Text.isAlphanumeric c

def dropBytes : Nat → List Char → List Char
  | 0, cs => cs
  | _, [] => []
  | n + 1, c :: cs => dropBytes (n + 1 - c.utf8Size) cs
termination_by _ cs => cs.length

def takeBytes : Nat → List Char → List Char
  | _, [] => []
  | n, c :: cs => if n < c.utf8Size then [] else c :: takeBytes (n - c.utf8Size) cs

def slice (text : List Char) (first last : Nat) : List Char :=
  takeBytes (last - first) (dropBytes first text)

/-- Reads one character of a directive: a target, a span in brackets with fields in braces, and a
    level after an equals sign. A comma completes it. Places are counted from the first character
    that is no blank, but looked up in the whole text. -/
def State.next (text : List Char) (place : Nat) : State → Char → Except FilterProblem State
  | start, c =>
    if c = '[' then .ok span else if isTargetStart c then .ok target else .error .directive
  | target, c =>
    .ok (if c = '=' then level (place + 1) else if c = '[' then span
      else if c = ',' then complete else target)
  | span, c =>
    .ok (if c = ']' then afterSpan else if c = '\x7b' then field (place + 1) else span)
  | field first, c =>
    if c = '\x7d' ∨ c = ',' then
      (checkField (slice text first place)).map fun _ =>
        if c = ',' then field (place + 1) else fields
    else .ok (field first)
  | fields, c => if c = ']' then .ok afterSpan else .error .directive
  | afterSpan, c => if c = '=' then .ok (level (place + 1)) else .error .directive
  | level first, c =>
    if c = ',' then (checkLevel (slice text first place)).map fun _ => complete
    else .ok (level first)
  | complete, _ => .error .directive

def State.finish (text : List Char) : State → Except FilterProblem Unit
  | target | afterSpan | complete => .ok ()
  | level first => checkLevel (dropBytes first text)
  | _ => .error .directive

def readDirective (text : List Char) (place : Nat) (s : State) :
    List Char → Except FilterProblem Unit
  | [] => s.finish text
  | c :: cs => do readDirective text (place + c.utf8Size) (← s.next text place c) cs

def checkDirective (s : String) : Except FilterProblem Unit :=
  readDirective s.toList 0 .start (Text.trim s).toList

def check (s : String) : Except FilterProblem Unit :=
  ((s.splitOn ",").filter fun part => part != "").forM checkDirective

end LogFilter
end EventLedger
