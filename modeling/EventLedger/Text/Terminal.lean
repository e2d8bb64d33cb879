import EventLedger.Text.Utf8

namespace EventLedger.Text

/-! Control sequences of terminals, as far as it matters where they end -/

inductive Sequence where
  | none
  | escape
  | escapeMiddle
  | parameters
  | title
  | data
deriving DecidableEq, Repr

def escapeChar : Char := '\x1B'

def isCancel (c : Char) : Bool := c = '\x18' || c = '\x1A'

/-- The blanks that are shown wherever a control can be carried out. -/
def isShownControl (c : Char) : Bool := c = '\t' || c = '\n' || c = '\x0C' || c = '\r'

def isFinal (first last c : Char) : Bool := first ≤ c && c ≤ last

/-- Whether a byte of a character, taken by itself, would end data. -/
def endsData (c : Char) : Bool := 0x80 ≤ c.toNat && (utf8Bytes c).contains 0x9C

namespace Sequence

def ofEscaped (c : Char) : Sequence :=
  if c = '[' then parameters
  else if c = ']' then title
  else if "PX^_".toList.contains c then data
  else if isFinal '0' '~' c then none
  else if isFinal ' ' '/' c then escapeMiddle
  else escape

def shows (c : Char) : Bool := isShownControl c || (' ' ≤ c && c ≠ '\x7F')

def next (q : Sequence) (c : Char) : Bool × Sequence :=
  if c = escapeChar then (false, escape)
  else if isCancel c then (false, none)
  else
    match q with
    | none => (shows c, none)
    | title => (false, if c = '\x07' then none else title)
    | data => (false, if endsData c then none else data)
    | escape => if isShownControl c then (true, none) else (false, ofEscaped c)
    | escapeMiddle =>
      if isShownControl c then (true, none)
      else (false, if isFinal '0' '~' c then none else escapeMiddle)
    | parameters =>
      if isShownControl c then (true, none)
      else (false, if isFinal '@' '~' c then none else parameters)

def shown (q : Sequence) : List Char → List Char
  | [] => []
  | c :: cs => (if (q.next c).1 then [c] else []) ++ (q.next c).2.shown cs

end Sequence

def plain (s : String) : String := String.ofList (Sequence.none.shown s.toList)

/-- A part of a message that is set off. What has begun in it is given up after it. -/
def setOff (s : String) : String := s ++ "\x1B[0m"

end EventLedger.Text
