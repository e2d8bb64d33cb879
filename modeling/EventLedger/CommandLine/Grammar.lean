import EventLedger.Text.Terminal

namespace EventLedger.CommandLine

inductive ValueProblem where
  | missing
  | notOffered
  | because (reason : String)
deriving DecidableEq, Repr

abbrev ValueCheck := String → Except ValueProblem Unit

namespace ValueCheck

def any : ValueCheck := fun _ => .ok ()

def nonempty : ValueCheck := fun s => if s.isEmpty then .error .missing else .ok ()

def oneOf (names : List String) : ValueCheck := fun s =>
  if names.contains s then .ok () else if s.isEmpty then .error .missing else .error .notOffered

def readable (read : String → Except String α) : ValueCheck := fun s =>
  match read s with
  | .ok _ => .ok ()
  | .error reason => .error (.because reason)

end ValueCheck

inductive ParameterKind where
  | flag
  | help
  | version
  | option
  | repeatedOption
  | positional
deriving DecidableEq, Repr

structure Parameter where
  name : String
  kind : ParameterKind
  letter : Option Char := none
  valueName : String := ""
  environmentName : Option String := none
  required : Bool := false
  check : ValueCheck := ValueCheck.any

namespace Parameter

def takesValue (p : Parameter) : Bool :=
  p.kind = .option ∨ p.kind = .repeatedOption ∨ p.kind = .positional

def isNamed (p : Parameter) : Bool := p.kind ≠ .positional

def label (p : Parameter) : String :=
  match p.kind with
  | .positional => "<" ++ p.valueName ++ ">"
  | .option | .repeatedOption => "--" ++ p.name ++ " <" ++ p.valueName ++ ">"
  | _ => "--" ++ p.name

end Parameter

/-- The form of a command: its full name, what it does, its parameters, and the commands below it,
    one of which has to be given if there are any. -/
structure CommandForm where
  name : String
  fullName : String
  about : String
  parameters : List Parameter
  subcommands : List CommandForm

inductive UsageProblem where
  | unexpectedArgument (text : String)
  | unknownCommand (text : String)
  | missingCommand (fullName : String)
  | missingArguments (labels : List String)
  | missingValue (label : String)
  | valueNotOffered (label value : String)
  | invalidValue (label value reason : String)
  | repeatedArgument (label : String)
  | unexpectedValue (label value : String)
deriving DecidableEq, Repr

namespace UsageProblem

def quote (s : String) : String := "'" ++ Text.setOff s ++ "'"

def styledMessage : UsageProblem → String
  | unexpectedArgument text => "unexpected argument " ++ quote text ++ " found"
  | unknownCommand text => "unrecognized subcommand " ++ quote text
  | missingCommand name => quote name ++ " requires a subcommand but one was not provided"
  | missingArguments labels =>
    "the following required arguments were not provided:" ++
      String.join (labels.map ("\n  " ++ ·))
  | missingValue label => "a value is required for " ++ quote label ++ " but none was supplied"
  | valueNotOffered label value => "invalid value " ++ quote value ++ " for " ++ quote label
  | invalidValue label value reason =>
    "invalid value " ++ quote value ++ " for " ++ quote label ++ ": " ++ reason
  | repeatedArgument label => "the argument " ++ quote label ++ " cannot be used multiple times"
  | unexpectedValue label value =>
    "unexpected value " ++ quote value ++ " for " ++ quote label ++
      " found; no more were expected"

def text (p : UsageProblem) : String :=
  Text.plain ("error: " ++ p.styledMessage ++ "\n\nFor more information, try " ++ quote "--help" ++
    ".\n")

def ofValue (p : Parameter) (value : String) : ValueProblem → UsageProblem
  | .missing => missingValue p.label
  | .notOffered => valueNotOffered p.label value
  | .because reason => invalidValue p.label value reason

end UsageProblem

/-- Why the reading of a command line ends without a command to run: a problem, a question about the
    program, or a command that is missing where nothing is given. -/
inductive Stop where
  | problem (p : UsageProblem)
  | version (form : CommandForm)
  | help (form : CommandForm)
  | nothingGiven (form : CommandForm)

namespace CommandForm

def find? (form : CommandForm) (name : String) : Option CommandForm :=
  form.subcommands.find? fun c => c.name == name

def named? (form : CommandForm) (name : String) : Option Parameter :=
  form.parameters.find? fun p => p.isNamed && p.name == name

def lettered? (form : CommandForm) (c : Char) : Option Parameter :=
  form.parameters.find? fun p => p.letter == some c

def positionals (form : CommandForm) : List Parameter :=
  form.parameters.filter fun p => !p.isNamed

def helpName : String := "help"

def offers (form : CommandForm) (name : String) : Bool :=
  (form.find? name).isSome || (!form.subcommands.isEmpty && name == helpName)

end CommandForm
end EventLedger.CommandLine
