import EventLedger.CommandLine.Grammar
import EventLedger.Settings.Source

namespace EventLedger.CommandLine

/-- What was read of the arguments of one command. Values of a parameter are looked at when the next
    one begins. -/
structure Reading where
  given : List (String × List String) := []
  pending : Option (Parameter × List String) := none
  position : Nat := 0
  onlyPositionals : Bool := false

namespace Reading

def isGiven (r : Reading) (p : Parameter) : Bool := r.given.any fun g => g.1 == p.name

def add (r : Reading) (p : Parameter) (values : List String) : Except Stop Reading := do
  if p.takesValue && values.isEmpty then .error (.problem (.missingValue p.label))
  if r.isGiven p && p.kind ≠ .repeatedOption then .error (.problem (.repeatedArgument p.label))
  values.forM fun v => (p.check v).mapError fun e => .problem (.ofValue p v e)
  .ok { r with given := r.given ++ [(p.name, values)] }

def settle (r : Reading) : Except Stop Reading :=
  match r.pending with
  | none => .ok r
  | some (p, values) => { r with pending := none }.add p values

def isWaiting (r : Reading) : Bool := r.pending.any fun p => p.2.isEmpty

def start (r : Reading) (p : Parameter) (values : List String) : Except Stop Reading := do
  .ok { ← r.settle with pending := some (p, values) }

end Reading

namespace CommandForm

def readFlag (form : CommandForm) (r : Reading) (p : Parameter) : Except Stop Reading := do
  let r ← r.settle
  match p.kind with
  | .help => .error (.help form)
  | .version => .error (.version form)
  | _ => r.add p []

def readNamed (form : CommandForm) (r : Reading) (text : String) : Except Stop Reading := do
  let name := String.ofList (text.toList.takeWhile (· ≠ '='))
  let attached := (text.toList.dropWhile (· ≠ '=')).tail
  let value := if text.toList.contains '=' then some (String.ofList attached) else none
  match form.named? name, value with
  | none, _ => .error (.problem (.unexpectedArgument ("--" ++ name)))
  | some p, some v =>
    if p.takesValue then (← r.settle).add p [v]
    else .error (.problem (.unexpectedValue p.label v))
  | some p, none => if p.takesValue then r.start p [] else form.readFlag r p

/-- Reads letters after one hyphen. What follows the letter of an option is its value. -/
def readLetters (form : CommandForm) (r : Reading) : List Char → Except Stop Reading
  | [] => .ok r
  | c :: cs => do
    match form.lettered? c with
    | none => .error (.problem (.unexpectedArgument (String.ofList ['-', c])))
    | some p =>
      if p.takesValue then
        match cs with
        | [] => r.start p []
        | '=' :: value => (← r.settle).add p [String.ofList value]
        | value => (← r.settle).add p [String.ofList value]
      else form.readLetters (← form.readFlag r p) cs

def readPositional (form : CommandForm) (r : Reading) (text : String) : Except Stop Reading :=
  match form.positionals[r.position]? with
  | some p => do .ok { ← r.start p [text] with position := r.position + 1 }
  | none =>
    if form.subcommands.isEmpty || (r.onlyPositionals && form.offers text) then
      .error (.problem (.unexpectedArgument text))
    else .error (.problem (.unknownCommand text))

def readArgument (form : CommandForm) (r : Reading) (text : String) : Except Stop Reading :=
  if r.onlyPositionals then form.readPositional r text
  else
    match text.toList with
    | ['-', '-'] => .ok { r with onlyPositionals := true }
    | '-' :: '-' :: rest => form.readNamed r (String.ofList rest)
    | '-' :: c :: rest => form.readLetters r (c :: rest)
    | _ =>
      match r.pending with
      | some (p, []) => .ok { r with pending := some (p, [text]) }
      | _ => form.readPositional r text

def helpAbout (form : CommandForm) : List String → Stop
  | [] => .help form
  | name :: rest =>
    match form.find? name with
    | some c => c.helpAbout rest
    | none =>
      if form.offers name then rest.head?.elim (.help form) (.problem <| .unknownCommand ·)
      else .problem (.unknownCommand name)

end CommandForm

structure Level where
  command : String
  given : List (String × List String)
  fromVariables : List (String × String)

namespace CommandForm

def fromVariables (form : CommandForm) (env : Environment) (r : Reading) :
    Except Stop (List (String × String)) :=
  (form.parameters.filter fun p => !r.isGiven p).foldlM (fun found p =>
    match p.environmentName.bind env.find? with
    | none => .ok found
    | some v =>
      match p.check v with
      | .ok _ => .ok (found ++ [(p.name, v)])
      | .error e => .error (.problem (.ofValue p v e))) []

def complete (form : CommandForm) (env : Environment) (r : Reading) (hasSubcommand : Bool) :
    Except Stop Level := do
  let r ← r.settle
  let found ← form.fromVariables env r
  if !hasSubcommand && !form.subcommands.isEmpty then
    if r.given.isEmpty && found.isEmpty then .error (.nothingGiven form)
    else .error (.problem (.missingCommand form.fullName))
  let missing := form.parameters.filter fun p => p.required && !r.isGiven p
  if !missing.isEmpty then .error (.problem (.missingArguments (missing.map Parameter.label)))
  .ok ⟨form.name, r.given, found⟩

/-- Reads arguments of a command and those below it. A command is named where no option waits for a
    value; what is wrong below it is reported before what is wrong above. -/
def readFrom (form : CommandForm) (env : Environment) (r : Reading) :
    List String → Except Stop (List Level)
  | [] => do .ok [← form.complete env r false]
  | arg :: rest =>
    if !r.onlyPositionals && !r.isWaiting && form.offers arg then
      match form.find? arg with
      | some c => do
        let below ← c.readFrom env {} rest
        .ok ((← form.complete env r true) :: below)
      | none => .error (form.helpAbout rest)
    else do form.readFrom env (← form.readArgument r arg) rest

def read (form : CommandForm) (env : Environment) (args : List String) :
    Except Stop (List Level) :=
  form.readFrom env {} args

end CommandForm

/-! Looking up what is given. Arguments come before variables, and those of the innermost command
    before those around it. -/

def valuesOf (levels : List Level) (p : Parameter) : List String :=
  let given := levels.reverse.map fun l =>
    (l.given.filter fun g => g.1 == p.name).flatMap (·.2)
  let found := levels.reverse.map fun l =>
    (l.fromVariables.filter fun g => g.1 == p.name).map (·.2)
  ((given ++ found).find? fun vs => !vs.isEmpty).getD []

def value? (levels : List Level) (p : Parameter) : Option String := (valuesOf levels p).head?

def isFlagged (levels : List Level) (p : Parameter) : Bool :=
  levels.any fun l => l.given.any fun g => g.1 == p.name

end EventLedger.CommandLine
