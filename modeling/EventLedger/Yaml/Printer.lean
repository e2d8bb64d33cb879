import EventLedger.Json.Printer
import EventLedger.Text.Utf8
import EventLedger.Yaml.Scalar

namespace EventLedger.Yaml

def longestSimpleKey : Nat := 128

def isSimpleKey (s : String) : Bool := !s.toList.any isBreak && s.utf8ByteSize ≤ longestSimpleKey

def scalarChars (n : Nat) : Json → List Char
  | .null => "null\n".toList
  | .bool b => (if b then "true\n" else "false\n").toList
  | .number x => x.chars ++ ['\n']
  | .string s => textChars n s
  | .array _ => "[]\n".toList
  | .object _ => "\x7b\x7d\n".toList

def keyChars (n : Nat) (key : String) : List Char :=
  if isSimpleKey key then (textChars n key).dropLast ++ [':']
  else '?' :: ' ' :: (textChars (n + 2) key ++ blanks n ++ [':'])

mutual

def nodeChars (n : Nat) : Json → List Char
  | .array (x :: xs) => (itemsChars n (x :: xs)).drop n
  | .object (m :: ms) => (membersChars n (m :: ms)).drop n
  | .null => scalarChars n .null
  | .bool b => scalarChars n (.bool b)
  | .number x => scalarChars n (.number x)
  | .string s => scalarChars n (.string s)
  | .array [] => scalarChars n (.array [])
  | .object [] => scalarChars n (.object [])

/-- What follows the colon of a simple key. The items of a list stand under the key, members one
    step deeper. -/
def valueChars (n : Nat) : Json → List Char
  | .array (x :: xs) => '\n' :: itemsChars n (x :: xs)
  | .object (m :: ms) => '\n' :: membersChars (n + 2) (m :: ms)
  | .null => ' ' :: scalarChars (n + 2) .null
  | .bool b => ' ' :: scalarChars (n + 2) (.bool b)
  | .number x => ' ' :: scalarChars (n + 2) (.number x)
  | .string s => ' ' :: scalarChars (n + 2) (.string s)
  | .array [] => ' ' :: scalarChars (n + 2) (.array [])
  | .object [] => ' ' :: scalarChars (n + 2) (.object [])

def itemsChars (n : Nat) : List Json → List Char
  | [] => []
  | x :: xs => blanks n ++ '-' :: ' ' :: (nodeChars (n + 2) x ++ itemsChars n xs)

def membersChars (n : Nat) : List (String × Json) → List Char
  | [] => []
  | (k, v) :: ms =>
    blanks n ++ keyChars n k ++
      (if isSimpleKey k then valueChars n v else ' ' :: nodeChars (n + 2) v) ++ membersChars n ms

end

def text (v : Json) : String := String.ofList (nodeChars 0 v)

end EventLedger.Yaml
