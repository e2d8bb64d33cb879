import EventLedger.Json.Basic
import EventLedger.Number.Shortest

namespace EventLedger

def Number.chars : Number → List Char
  | .integer i => Text.signedDigits i
  | .float x => x.chars

namespace Json

def escapedChar (c : Char) : List Char :=
  if c = '"' then ['\\', '"']
  else if c = '\\' then ['\\', '\\']
  else if c = '\x08' then ['\\', 'b']
  else if c = '\x0c' then ['\\', 'f']
  else if c = '\n' then ['\\', 'n']
  else if c = '\r' then ['\\', 'r']
  else if c = '\t' then ['\\', 't']
  else if c.toNat < 0x20 then
    ['\\', 'u', '0', '0', Text.hexDigit (c.toNat / 16), Text.hexDigit c.toNat]
  else [c]

def stringChars (s : String) : List Char :=
  '"' :: (s.toList.flatMap escapedChar ++ ['"'])

mutual

def chars : Json → List Char
  | .null => "null".toList
  | .bool true => "true".toList
  | .bool false => "false".toList
  | .number n => n.chars
  | .string s => stringChars s
  | .array [] => ['[', ']']
  | .array (x :: xs) => '[' :: (x.chars ++ itemsChars xs ++ [']'])
  | .object [] => ['\x7b', '\x7d']
  | .object ((k, v) :: ms) =>
    '\x7b' :: (stringChars k ++ ':' :: (v.chars ++ membersChars ms ++ ['\x7d']))

def itemsChars : List Json → List Char
  | [] => []
  | x :: xs => ',' :: (x.chars ++ itemsChars xs)

def membersChars : List (String × Json) → List Char
  | [] => []
  | (k, v) :: ms => ',' :: (stringChars k ++ ':' :: (v.chars ++ membersChars ms))

end

def text (v : Json) : String := String.ofList v.chars

def indentation (depth : Nat) : List Char := '\n' :: List.replicate (2 * depth) ' '

mutual

def prettyChars (depth : Nat) : Json → List Char
  | .array [] => ['[', ']']
  | .array (x :: xs) =>
    '[' :: (indentation (depth + 1) ++ x.prettyChars (depth + 1) ++ prettyItems (depth + 1) xs ++
      indentation depth ++ [']'])
  | .object [] => ['\x7b', '\x7d']
  | .object ((k, v) :: ms) =>
    '\x7b' :: (indentation (depth + 1) ++ stringChars k ++ ':' :: ' ' ::
      (v.prettyChars (depth + 1) ++ prettyMembers (depth + 1) ms ++ indentation depth ++ ['\x7d']))
  | .null => "null".toList
  | .bool true => "true".toList
  | .bool false => "false".toList
  | .number n => n.chars
  | .string s => stringChars s

def prettyItems (depth : Nat) : List Json → List Char
  | [] => []
  | x :: xs => ',' :: (indentation depth ++ x.prettyChars depth ++ prettyItems depth xs)

def prettyMembers (depth : Nat) : List (String × Json) → List Char
  | [] => []
  | (k, v) :: ms =>
    ',' :: (indentation depth ++ stringChars k ++ ':' :: ' ' ::
      (v.prettyChars depth ++ prettyMembers depth ms))

end

def pretty (v : Json) : String := String.ofList (v.prettyChars 0)

end Json
end EventLedger
