import EventLedger.Number.Bounds
import EventLedger.Text.Blank
import EventLedger.Text.Decimal

/-! Moments in UTC. How they are read and written is assumed of the calendar library: the range of years,
leap seconds, the liberties that `parse` takes, and the digits of a fraction. -/

namespace EventLedger

def isLeapYear (year : Int) : Bool := year % 4 == 0 && (year % 100 != 0 || year % 400 == 0)

def daysInMonth (year : Int) (month : Nat) : Nat :=
  if month = 2 then (if isLeapYear year then 29 else 28)
  else if month = 4 ∨ month = 6 ∨ month = 9 ∨ month = 11 then 30
  else 31

def yearFloor : Int := -262143

def yearCeiling : Int := 262142

/-- A moment in UTC by its calendar fields. A leap second is second 59 with a second or more of
    nanoseconds. -/
structure Timestamp where
  year : Int
  month : Nat
  day : Nat
  hour : Nat
  minute : Nat
  second : Nat
  nano : Nat
  year_mem : yearFloor ≤ year ∧ year ≤ yearCeiling
  month_mem : 1 ≤ month ∧ month ≤ 12
  day_mem : 1 ≤ day ∧ day ≤ daysInMonth year month
  time_mem : hour < 24 ∧ minute < 60 ∧ second < 60
  nano_mem : nano < 1000000000 ∨ (second = 59 ∧ nano < 2000000000)
deriving DecidableEq

namespace Timestamp

def ofFields? (year : Int) (month day hour minute second nano : Nat) : Option Timestamp :=
  if hy : yearFloor ≤ year ∧ year ≤ yearCeiling then
    if hm : 1 ≤ month ∧ month ≤ 12 then
      if hd : 1 ≤ day ∧ day ≤ daysInMonth year month then
        if ht : hour < 24 ∧ minute < 60 ∧ second < 60 then
          if hn : nano < 1000000000 ∨ (second = 59 ∧ nano < 2000000000) then
            some ⟨year, month, day, hour, minute, second, nano, hy, hm, hd, ht, hn⟩
          else none
        else none
      else none
    else none
  else none

def dayAfter (year : Int) (month day : Nat) : Int × Nat × Nat :=
  if day < daysInMonth year month then (year, month, day + 1)
  else if month < 12 then (year, month + 1, 1)
  else (year + 1, 1, 1)

def dayBefore (year : Int) (month day : Nat) : Int × Nat × Nat :=
  if 1 < day then (year, month, day - 1)
  else if 1 < month then (year, month - 1, daysInMonth year (month - 1))
  else (year - 1, 12, 31)

/-- The moment in UTC for local fields that are so many seconds ahead of it, by less than a day. -/
def ofLocal? (t : Timestamp) (ahead : Int) : Option Timestamp :=
  if ahead = 0 then some t
  else
    let seconds := ((t.hour * 3600 + t.minute * 60 + t.second : Nat) : Int) - ahead
    let (year, month, day) :=
      if seconds < 0 then dayBefore t.year t.month t.day
      else if 86400 ≤ seconds then dayAfter t.year t.month t.day
      else (t.year, t.month, t.day)
    let inDay := (seconds % 86400).toNat
    ofFields? year month day (inDay / 3600) (inDay / 60 % 60) (inDay % 60) t.nano

def yearChars (year : Int) : List Char :=
  if 0 ≤ year ∧ year ≤ 9999 then Text.paddedDigits 4 year.natAbs
  else (if year < 0 then '-' else '+') :: Text.paddedDigits 4 year.natAbs

def fractionChars (nano : Nat) : List Char :=
  if nano = 0 then []
  else if nano % 1000000 = 0 then '.' :: Text.paddedDigits 3 (nano / 1000000)
  else if nano % 1000 = 0 then '.' :: Text.paddedDigits 6 (nano / 1000)
  else '.' :: Text.paddedDigits 9 nano

/-- The RFC 3339 form in UTC; a leap second is written as second 60. -/
def chars (t : Timestamp) : List Char :=
  let leap := 1000000000 ≤ t.nano
  let second := if leap then t.second + 1 else t.second
  let nano := if leap then t.nano - 1000000000 else t.nano
  yearChars t.year ++ '-' :: Text.paddedDigits 2 t.month ++ '-' :: Text.paddedDigits 2 t.day ++
    'T' :: Text.paddedDigits 2 t.hour ++ ':' :: Text.paddedDigits 2 t.minute ++
    ':' :: Text.paddedDigits 2 second ++ fractionChars nano ++ ['Z']

def text (t : Timestamp) : String := String.ofList t.chars

inductive Problem where
  | outOfRange
  | impossible
  | invalid
  | tooShort
  | trailing
deriving DecidableEq, Repr

def Problem.message : Problem → String
  | outOfRange => "input is out of range"
  | impossible => "no possible date and time matching input"
  | invalid => "input contains invalid characters"
  | tooShort => "premature end of input"
  | trailing => "trailing input"

def readNumber (width : Nat) (cs : List Char) : Except Problem (Nat × List Char) :=
  match cs with
  | [] => .error .tooShort
  | c :: _ =>
    if Text.isDigit c then
      let ds := (cs.take width).takeWhile Text.isDigit
      .ok (Text.digitsValue ds, cs.drop ds.length)
    else .error .invalid

def readLongNumber (cs : List Char) : Except Problem (Nat × List Char) := do
  let (n, rest) ← readNumber cs.length cs
  if greatestSigned64 < n then .error .outOfRange else .ok (n, rest)

def readYear (cs : List Char) : Except Problem (Int × List Char) := do
  let (year, rest) ← match Text.trimLeft cs with
    | '-' :: rest => do
      let (n, rest) ← readLongNumber rest
      pure (-(n : Int), rest)
    | '+' :: rest => do
      let (n, rest) ← readLongNumber rest
      pure ((n : Int), rest)
    | rest => do
      let (n, rest) ← readNumber 4 rest
      pure ((n : Int), rest)
  if year < leastSigned32 ∨ greatestSigned32 < year then .error .outOfRange else .ok (year, rest)

def readPart (low high : Nat) (cs : List Char) : Except Problem (Nat × List Char) := do
  let (n, rest) ← readNumber 2 (Text.trimLeft cs)
  if low ≤ n ∧ n ≤ high then .ok (n, rest) else .error .outOfRange

def readMark (mark : Char) (cs : List Char) : Except Problem (List Char) :=
  match Text.trimLeft cs with
  | [] => .error .tooShort
  | c :: rest => if c = mark then .ok rest else .error .invalid

/-- A fraction of a second in nanoseconds; digits beyond the ninth are dropped. -/
def readFraction (cs : List Char) : Except Problem (Nat × List Char) :=
  match cs with
  | '.' :: rest => do
    let (n, after) ← readNumber 9 rest
    let used := rest.length - after.length
    .ok (n * Nat.pow 10 (9 - used), after.dropWhile Text.isDigit)
  | _ => .ok (0, cs)

def twoDigits (cs : List Char) : Except Problem (Nat × Nat × List Char) :=
  match cs with
  | a :: b :: rest =>
    match Text.digitValue? a, Text.digitValue? b with
    | some a, some b => .ok (a, b, rest)
    | _, _ => .error .invalid
  | [a] => if a.utf8Size < 2 then .error .tooShort else .error .invalid
  | [] => .error .tooShort

/-- Reads the offset from UTC in seconds. A colon or blanks may stand between hours and minutes. -/
def readOffset (cs : List Char) : Except Problem (Int × List Char) :=
  match cs with
  | [] => .error .tooShort
  | c :: rest =>
    if c = 'Z' || c = 'z' then .ok (0, rest)
    else if c = '+' || c = '-' || c = '−' then do
      let (h, k, rest) ← twoDigits rest
      let rest := rest.dropWhile fun c => c = ':' || Text.isBlank c
      let (m, n, rest) ← twoDigits rest
      if 6 ≤ m then .error .outOfRange
      else
        let seconds := ((h * 10 + k) * 3600 + (m * 10 + n) * 60 : Nat)
        .ok (if c = '+' then (seconds : Int) else -(seconds : Int), rest)
    else .error .invalid

def readZone (cs : List Char) : Except Problem (Int × List Char) :=
  match cs with
  | a :: b :: c :: rest =>
    if a.toUpper = 'U' ∧ b.toUpper = 'T' ∧ c.toUpper = 'C' then .ok (0, rest) else readOffset cs
  | _ => readOffset cs

/-- Reads an RFC 3339 timestamp with some liberties: blanks around the parts, one digit for two,
    a blank or a small letter between date and time, signed years. -/
def parse (s : String) : Except Problem Timestamp := do
  let (year, cs) ← readYear s.toList
  let cs ← readMark '-' cs
  let (month, cs) ← readPart 1 12 cs
  let cs ← readMark '-' cs
  let (day, cs) ← readPart 1 31 cs
  let cs ← match cs with
    | [] => .error .tooShort
    | c :: rest => if c = 'T' || c = 't' || c = ' ' then .ok rest else .error .invalid
  let (hour, cs) ← readPart 0 23 cs
  let cs ← readMark ':' cs
  let (minute, cs) ← readPart 0 59 cs
  let cs ← readMark ':' cs
  let (second, cs) ← readPart 0 60 cs
  let (nano, cs) ← readFraction cs
  let (ahead, cs) ← readZone (Text.trimLeft cs)
  if (Text.trimLeft cs).isEmpty then
    let (second, nano) := if second = 60 then (59, nano + 1000000000) else (second, nano)
    match ofFields? year month day hour minute second nano with
    | none => .error .outOfRange
    | some t =>
      if ahead ≤ -86400 ∨ 86400 ≤ ahead then .error .outOfRange
      else match t.ofLocal? ahead with
        | some t => .ok t
        | none => .error .impossible
  else .error .trailing

end Timestamp
end EventLedger
