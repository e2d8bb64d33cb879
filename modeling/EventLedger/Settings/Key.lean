import EventLedger.Settings.Setting

namespace EventLedger

inductive KeyStep where
  | member (name : String)
  | item (index : Int)
deriving DecidableEq, Repr

namespace KeyStep

def isNameChar (c : Char) : Bool := c.isAlphanum || c == '_' || c == '-' || c == ' '

def readName? (cs : List Char) : Option (KeyStep × List Char) :=
  let name := cs.takeWhile isNameChar
  if name.isEmpty then none
  else some (member (String.ofList name), cs.dropWhile isNameChar)

def isGap (c : Char) : Bool := c == ' ' || c == '\t'

def readIndex? (cs : List Char) : Option (KeyStep × List Char) :=
  let cs := cs.dropWhile isGap
  let (sign, cs) := match cs with
    | '-' :: rest => (['-'], rest)
    | _ => ([], cs)
  match (Text.parseSigned64 (String.ofList (sign ++ cs.takeWhile Text.isDigit))).toOption,
    (cs.dropWhile Text.isDigit).dropWhile isGap with
  | some i, ']' :: rest => some (item i, rest)
  | _, _ => none

def readSteps? : Nat → List Char → Option (List KeyStep)
  | _, [] => some []
  | 0, _ => none
  | n + 1, '.' :: cs => do
    let (step, cs) ← readName? cs
    .some (step :: (← readSteps? n cs))
  | n + 1, '[' :: cs => do
    let (step, cs) ← readIndex? cs
    .some (step :: (← readSteps? n cs))
  | _, _ => none

def ofKey? (key : String) : Option (List KeyStep) := do
  let (first, cs) ← readName? key.toList
  .some (first :: (← readSteps? cs.length cs))

end KeyStep

namespace Setting

def members : Setting → List (String × Setting)
  | table _ ms => ms
  | _ => []

def items : Setting → List Setting
  | list _ xs => xs
  | _ => []

def emptyTable : Setting := table none []

def member? (s : Setting) (name : String) : Option Setting :=
  (s.members.find? fun m => m.1 == name).map (·.2)

def put (s : Setting) (name : String) (value : Setting) : Setting :=
  table none (insertEntry name value s.members)

mutual

/-- Sets a member, whose name is taken in small letters. The members of a table are set one by one
    in the table that is there. -/
def setMember (name : String) : Setting → Setting → Setting
  | table _ incoming, s =>
    let name := Text.lowercase name
    s.put name (setMembers incoming ((s.member? name).getD emptyTable))
  | value, s => s.put (Text.lowercase name) value

def setMembers : List (String × Setting) → Setting → Setting
  | [], s => s
  | (name, value) :: rest, s => setMembers rest (setMember name value s)

end

def placeOf (length : Nat) (index : Int) : Nat :=
  if 0 ≤ index then index.natAbs else length - index.natAbs

def changeItem (s : Setting) (index : Int) (f : Setting → Setting) : Setting :=
  let place := placeOf s.items.length index
  let xs := s.items ++ List.replicate (place + 1 - s.items.length) (absent none)
  list none (xs.set place (f (xs.getD place (absent none))))

def setAt (value : Setting) : List KeyStep → Setting → Setting
  | [], _ => value
  | [.member name], s => setMember name value s
  | .member name :: rest, s =>
    s.put name (setAt value rest ((s.member? name).getD (absent none)))
  | .item index :: rest, s => s.changeItem index (setAt value rest)

/-- Sets the value of a key, which is taken in small letters. A key that stands for no steps is a
    name. -/
def setKey (key : String) (value : Setting) (s : Setting) : Setting :=
  match KeyStep.ofKey? (Text.lowercase key) with
  | some steps => setAt value steps s
  | none => setMember key value s

end Setting
end EventLedger
