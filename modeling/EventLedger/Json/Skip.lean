import EventLedger.Json.Reader

namespace EventLedger.Json

/-- Passes over the rest of a string. Escapes are checked for their form only. -/
def skipStringFrom : Nat → List Char → Except Fault (List Char)
  | 0, cs => .error (.here .endInString cs)
  | _ + 1, [] => .error (.here .endInString [])
  | n + 1, c :: cs =>
    if c = '"' then .ok cs
    else if c = '\\' then
      match cs with
      | [] => .error (.here .endInString [])
      | 'u' :: rest => do
        let (_, rest) ← readHex rest
        skipStringFrom n rest
      | e :: rest =>
        if (simpleEscape? e).isSome then skipStringFrom n rest
        else .error (.next .invalidEscape (e :: rest))
    else if c.toNat < 0x20 then .error (.here .controlCharacter (c :: cs))
    else skipStringFrom n cs

def skipString (cs : List Char) : Except Fault (List Char) := skipStringFrom (cs.length + 1) cs

inductive Bracket where
  | list
  | members
deriving DecidableEq, Repr

def Bracket.endProblem : Bracket → Problem
  | .list => .endInList
  | .members => .endInObject

def Bracket.separatorProblem : Bracket → Problem
  | .list => .expectedListCommaOrEnd
  | .members => .expectedObjectCommaOrEnd

def skipLabel (bracket : Bracket) (cs : List Char) : Except Fault (List Char) :=
  match bracket with
  | .list => .ok cs
  | .members =>
    match skipSpace cs with
    | [] => .error (.here .endInObject [])
    | '"' :: rest => do readColon (← skipString rest)
    | rest => .error (.next .keyNotString rest)

def skipStart (cs : List Char) : Except Fault (Option Bracket × List Char) :=
  match cs with
  | [] => .error (.here .endInValue [])
  | '"' :: rest => (skipString rest).map (none, ·)
  | '[' :: rest => .ok (some .list, rest)
  | '\x7b' :: rest => .ok (some .members, rest)
  | 'n' :: rest => (readWord "ull".toList rest).map (none, ·)
  | 't' :: rest => (readWord "rue".toList rest).map (none, ·)
  | 'f' :: rest => (readWord "alse".toList rest).map (none, ·)
  | '-' :: rest => (readNumeral .invalidNumber true rest).map fun r => (none, r.2)
  | c :: _ =>
    if Text.isDigit c then (readNumeral .invalidNumber false cs).map fun r => (none, r.2)
    else .error (.next .expectedValue cs)

mutual

/-- Passes over a value inside the given open brackets and all that follows up to their ends. The
    number bounds the steps. There is no limit on nesting, and numbers may have any size. -/
def skipFrom : Nat → List Bracket → List Char → Except Fault (List Char)
  | 0, _, cs => .error (.here .endInValue cs)
  | n + 1, stack, cs => do
    match ← skipStart (skipSpace cs) with
    | (none, rest) => skipRest n true stack rest
    | (some bracket, rest) => skipRest n false (bracket :: stack) rest

def skipRest : Nat → Bool → List Bracket → List Char → Except Fault (List Char)
  | _, _, [], cs => .ok cs
  | 0, _, _ :: _, cs => .error (.here .endInValue cs)
  | n + 1, comma, bracket :: stack, cs =>
    match bracket, skipSpace cs with
    | _, [] => .error (.here bracket.endProblem [])
    | .list, ']' :: rest => skipRest n true stack rest
    | .members, '\x7d' :: rest => skipRest n true stack rest
    | _, c :: rest =>
      if !comma then do skipFrom n (bracket :: stack) (← skipLabel bracket (c :: rest))
      else if c = ',' then do skipFrom n (bracket :: stack) (← skipLabel bracket rest)
      else .error (.next bracket.separatorProblem (c :: rest))

end

def skipValue (cs : List Char) : Except Fault (List Char) := skipFrom (2 * cs.length + 2) [] cs

end EventLedger.Json
