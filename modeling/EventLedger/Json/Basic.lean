import EventLedger.Number.Binary64

namespace EventLedger

inductive Number where
  | integer (value : Int)
  | float (value : Binary64)
deriving DecidableEq, Repr

/-- A JSON value. The members of an object are pairs of a name and a value; what is read from text
    has them in ascending order of names, without repetitions. -/
inductive Json where
  | null
  | bool (value : Bool)
  | number (value : Number)
  | string (value : String)
  | array (items : List Json)
  | object (members : List (String × Json))
deriving Repr

instance : Inhabited Json := ⟨.null⟩

def Number.same : Number → Number → Bool
  | .integer a, .integer b => a == b
  | .float x, .float y => x.same y
  | _, _ => false

namespace Json

mutual

def same : Json → Json → Bool
  | .null, .null => true
  | .bool a, .bool b => a == b
  | .number a, .number b => a.same b
  | .string a, .string b => a == b
  | .array xs, .array ys => sameItems xs ys
  | .object xs, .object ys => sameMembers xs ys
  | _, _ => false

def sameItems : List Json → List Json → Bool
  | [], [] => true
  | x :: xs, y :: ys => x.same y && sameItems xs ys
  | _, _ => false

def sameMembers : List (String × Json) → List (String × Json) → Bool
  | [], [] => true
  | (k, x) :: xs, (l, y) :: ys => k == l && x.same y && sameMembers xs ys
  | _, _ => false

end

def int (i : Int) : Json := .number (.integer i)

def nat (n : Nat) : Json := .number (.integer n)

def optional (f : α → Json) (x : Option α) : Json := x.elim .null f

def text? (s : Option String) : Json := optional .string s

def nat? (n : Option Nat) : Json := optional nat n

def empty : Json := .object []

def strings (xs : List String) : Json := .array (xs.map .string)

def insertMember (name : String) (value : Json) : List (String × Json) → List (String × Json)
  | [] => [(name, value)]
  | (k, v) :: rest =>
    if name < k then (name, value) :: (k, v) :: rest
    else if name = k then (name, value) :: rest
    else (k, v) :: insertMember name value rest

/-- The members in ascending order of names; of a repeated name the last value stays. -/
def sortMembers (members : List (String × Json)) : List (String × Json) :=
  members.foldl (fun acc m => insertMember m.1 m.2 acc) []

def record (members : List (String × Json)) : Json := .object (sortMembers members)

def lookup (name : String) (members : List (String × Json)) : Option Json :=
  (members.find? fun m => m.1 == name).map (·.2)

def get? (name : String) : Json → Option Json
  | .object members => lookup name members
  | _ => none

def asString? : Json → Option String
  | .string s => some s
  | _ => none

mutual

def sorted : Json → Json
  | .array xs => .array (sortedItems xs)
  | .object ms => .object (sortMembers (sortedMembers ms))
  | .null => .null
  | .bool b => .bool b
  | .number n => .number n
  | .string s => .string s

def sortedItems : List Json → List Json
  | [] => []
  | x :: xs => x.sorted :: sortedItems xs

def sortedMembers : List (String × Json) → List (String × Json)
  | [] => []
  | (k, v) :: ms => (k, v.sorted) :: sortedMembers ms

end

end Json
end EventLedger
