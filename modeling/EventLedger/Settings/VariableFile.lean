import EventLedger.Settings.Source
import EventLedger.Text.Alphanumeric
import EventLedger.Text.Blank
import EventLedger.Text.Lines

namespace EventLedger.VariableFile

/-! Lines, which quotes and escapes can make longer than one line of the file -/

inductive LineState where
  | plain
  | afterBlank
  | escape
  | singleQuotes
  | escapeInSingleQuotes
  | doubleQuotes
  | escapeInDoubleQuotes
deriving DecidableEq, Repr

def LineState.next (s : LineState) (c : Char) : Option LineState :=
  match s with
  | plain | afterBlank =>
    if s = afterBlank ∧ c = '#' then none
    else if c = '\\' then some escape
    else if c = '"' then some doubleQuotes
    else if c = '\'' then some singleQuotes
    else if s = plain ∧ Text.isBlank c ∧ c ≠ '\n' ∧ c ≠ '\r' then some afterBlank
    else some plain
  | escape => some plain
  | singleQuotes =>
    some (if c = '\\' then escapeInSingleQuotes else if c = '\'' then plain else singleQuotes)
  | escapeInSingleQuotes => some singleQuotes
  | doubleQuotes =>
    some (if c = '\\' then escapeInDoubleQuotes else if c = '"' then plain else doubleQuotes)
  | escapeInDoubleQuotes => some doubleQuotes

def LineState.scan (s : LineState) : List Char → List Char × Option LineState
  | [] => ([], some s)
  | c :: cs =>
    match s.next c with
    | none => ([], none)
    | some s =>
      let (kept, final) := s.scan cs
      (c :: kept, final)

def withoutEnd (cs : List Char) : List Char :=
  match cs.reverse with
  | '\n' :: '\r' :: rest | '\n' :: rest => rest.reverse
  | _ => cs

/-- Joins lines of the file while a quote or an escape is open. What is open at the end of the file
    is dropped. -/
def joinLines (soFar : List Char) (s : LineState) : List (List Char) → List (List Char)
  | [] => []
  | line :: rest =>
    if (Text.trimLeft (soFar ++ line)).head? = some '#' then joinLines [] .plain rest
    else
      match s.scan line with
      | (kept, none) => (soFar ++ kept) :: joinLines [] .plain rest
      | (_, some .plain) => withoutEnd (soFar ++ line) :: joinLines [] .plain rest
      | (_, some s) => joinLines (soFar ++ line) s rest

def rawLines : List UInt8 → List (List UInt8)
  | [] => []
  | b :: bs =>
    if b = Text.lineFeed then [b] :: rawLines bs
    else
      match rawLines bs with
      | [] => [[b]]
      | line :: rest => (b :: line) :: rest

def linesOf (content : List UInt8) : List (List Char) :=
  let decoded := (rawLines content).map Text.decodeUtf8?
  let readable := (decoded.takeWhile Option.isSome).filterMap fun s => s.map String.toList
  match readable with
  | ('\uFEFF' :: line) :: rest => joinLines [] .plain (line :: rest)
  | lines => joinLines [] .plain lines

/-! Values -/

inductive ValueMode where
  | plain
  | complete
  | escape
  | singleQuotes
  | reference (name : List Char)
  | bracedReference (name : List Char)
deriving DecidableEq, Repr

structure ValueState where
  mode : ValueMode := .plain
  inDoubleQuotes : Bool := false
  value : List Char := []

namespace ValueState

def append (s : ValueState) (cs : List Char) : ValueState := { s with value := s.value ++ cs }

def enter (s : ValueState) (mode : ValueMode) : ValueState := { s with mode }

def putVariable (env : Environment) (name : List Char) (s : ValueState) : ValueState :=
  (s.append ((env.find? (String.ofList name)).getD "").toList).enter .plain

def nextPlain (s : ValueState) (c : Char) : ValueState :=
  if c = '$' then s.enter (.reference [])
  else if c = '\\' then s.enter .escape
  else if c = '"' then { s with inDoubleQuotes := !s.inDoubleQuotes }
  else if s.inDoubleQuotes then s.append [c]
  else if c = '\'' then s.enter .singleQuotes
  else if c = ' ' ∨ c = '\t' then s.enter .complete
  else s.append [c]

def nextInVariable (env : Environment) (s : ValueState) (name : List Char) (c : Char) :
    ValueState :=
  if Text.isAlphanumeric c then s.enter (.reference (name ++ [c]))
  else if c = '\x7b' ∧ name = [] then s.enter (.bracedReference [])
  else
    let s := s.putVariable env name
    if c = '$' then s.enter (.reference []) else s.append [c]

def next (env : Environment) (s : ValueState) (c : Char) : Option ValueState :=
  match s.mode with
  | .plain => some (s.nextPlain c)
  | .complete => if c = ' ' ∨ c = '\t' then some s else none
  | .escape =>
    if ['\\', '\'', '"', '$', ' '].contains c then some ((s.append [c]).enter .plain)
    else if c = 'n' then some ((s.append ['\n']).enter .plain)
    else none
  | .singleQuotes => some (if c = '\'' then s.enter .plain else s.append [c])
  | .reference name => some (s.nextInVariable env name c)
  | .bracedReference name =>
    some (if c = '\x7d' then s.putVariable env name else s.enter (.bracedReference (name ++ [c])))

def finish (env : Environment) (s : ValueState) : Option String :=
  match s.mode with
  | .singleQuotes | .bracedReference _ => none
  | .reference name =>
    if s.inDoubleQuotes then none else some (String.ofList (s.putVariable env name).value)
  | _ => if s.inDoubleQuotes then none else some (String.ofList s.value)

def read (env : Environment) (s : ValueState) : List Char → Option String
  | [] => s.finish env
  | c :: cs =>
    if s.mode = .complete ∧ c = '#' then s.finish env
    else do read env (← s.next env c) cs

end ValueState

/-! Entries -/

def isKeyStart (c : Char) : Bool := c.isAlpha || c == '_'

def isKeyChar (c : Char) : Bool := c.isAlphanum || c == '_' || c == '.'

def readKey (cs : List Char) : Option (String × List Char) :=
  if cs.head?.any isKeyStart then
    some (String.ofList (cs.takeWhile isKeyChar), Text.trimLeft (cs.dropWhile isKeyChar))
  else none

/-- A key and its value as written, with an equals sign between them. The word `export` may come
    before the key. -/
def readAssignment (cs : List Char) : Option (String × List Char) := do
  let (key, rest) ← readKey cs
  match rest with
  | '=' :: value => some (key, Text.trimLeft value)
  | _ =>
    if key = "export" then
      match ← readKey rest with
      | (key, '=' :: value) => some (key, Text.trimLeft value)
      | _ => none
    else none

def isEmptyOrComment (cs : List Char) : Bool := cs.isEmpty || cs.head? == some '#'

/-- Sets the variables of some lines, apart from those that are set. Reading stops at a line that is
    malformed. -/
def setAll (env : Environment) : List (List Char) → Environment
  | [] => env
  | line :: rest =>
    let cs := Text.trimLeft (Text.trimRight line)
    if isEmptyOrComment cs then setAll env rest
    else
      let entry := do
        let (key, written) ← readAssignment cs
        let value ← if isEmptyOrComment written then some "" else ValueState.read env {} written
        some (key, value)
      match entry with
      | none => env
      | some (key, value) =>
        setAll (if (env.find? key).isSome then env else env ++ [(key, value)]) rest

def name : String := ".env"

def load (d : Directory) (env : Environment) : Environment :=
  match d.read (Path.ofText name) with
  | .ok content => setAll env (linesOf content)
  | .error _ => env

end EventLedger.VariableFile
